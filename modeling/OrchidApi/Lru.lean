import Mathlib.Data.Finset.Card
import Mathlib.Data.List.Dedup

/-! A bounded map in order of last use: a use of a new key evicts from the old end until
there is room, and any use moves its key to the recent end. -/
namespace Lru

variable {κ ν : Type} [DecidableEq κ] [BEq κ]

/-- The entries that a use of the key leaves in front of it. -/
def rest (most : Nat) (key : κ) (entries : List (κ × ν)) : List (κ × ν) :=
  match entries.lookup key with
  | none => entries.drop (entries.length + 1 - most)
  | some _ => entries.filter (·.1 ≠ key)

def touch (most : Nat) (key : κ) (value : ν) (entries : List (κ × ν)) : List (κ × ν) :=
  rest most key entries ++ [(key, value)]

structure WellFormed (most : Nat) (entries : List (κ × ν)) : Prop where
  distinct : (entries.map Prod.fst).Nodup
  bounded : entries.length ≤ most

/-- The entry stands in the map, and only keys used `since` are more recent. -/
def Holds (key : κ) (value : ν) (since : Finset κ) (entries : List (κ × ν)) : Prop :=
  ∃ old recent, entries = old ++ (key, value) :: recent ∧ ∀ e ∈ recent, e.1 ∈ since

omit [DecidableEq κ] [BEq κ] in
theorem wellFormed_nil (most : Nat) : WellFormed most ([] : List (κ × ν)) :=
  ⟨List.nodup_nil, Nat.zero_le _⟩

section Rest
variable [LawfulBEq κ] {most : Nat} {key : κ} {entries : List (κ × ν)}

omit [LawfulBEq κ] in
theorem rest_sublist (most : Nat) (key : κ) (entries : List (κ × ν)) :
    (rest most key entries).Sublist entries := by
  rw [rest]
  split
  · exact List.drop_sublist _ _
  · exact List.filter_sublist

omit [DecidableEq κ] in
theorem lookup_eq_none : entries.lookup key = none ↔ key ∉ entries.map Prod.fst := by
  simp only [List.lookup_eq_none_iff, List.mem_map, not_exists, not_and]
  constructor
  · rintro missing e member rfl
    simpa using missing e member
  · intro missing e member
    simpa using fun same : key = e.1 => missing e member same.symm

theorem key_notMem_rest (most : Nat) (key : κ) (entries : List (κ × ν)) :
    key ∉ (rest most key entries).map Prod.fst := by
  rw [rest]
  split
  · rename_i missing
    exact fun member => lookup_eq_none.mp missing (((List.drop_sublist _ _).map _).subset member)
  · simp

theorem length_rest (room : 0 < most) (bounded : entries.length ≤ most) :
    (rest most key entries).length < most := by
  rw [rest]
  split
  · rw [List.length_drop]
    omega
  · rename_i value found
    have present : key ∈ entries.map Prod.fst := by
      by_contra missing
      rw [lookup_eq_none.mpr missing] at found
      cases found
    obtain ⟨e, member, same⟩ := List.mem_map.mp present
    refine lt_of_lt_of_le (List.length_filter_lt_length_iff_exists.mpr ⟨e, member, ?_⟩) bounded
    simpa using same

/-- A use keeps the map within its bound, one entry a key. -/
theorem WellFormed.touch (wf : WellFormed most entries) (room : 0 < most) (key : κ) (value : ν) :
    WellFormed most (touch most key value entries) := by
  constructor
  · rw [Lru.touch, List.map_append, List.nodup_append_comm]
    exact List.nodup_cons.mpr ⟨key_notMem_rest most key entries,
      ((rest_sublist most key entries).map _).nodup wf.distinct⟩
  · have fewer : (rest most key entries).length < most := length_rest room wf.bounded
    simp only [Lru.touch, List.length_append, List.length_singleton]
    omega

end Rest

theorem holds_touch (most : Nat) (key : κ) (value : ν) (entries : List (κ × ν)) :
    Holds key value ∅ (touch most key value entries) :=
  ⟨_, [], rfl, by simp⟩

omit [DecidableEq κ] in
theorem Holds.lookup [LawfulBEq κ] {most : Nat} {key : κ} {value : ν} {since : Finset κ}
    {entries : List (κ × ν)} (holds : Holds key value since entries)
    (wf : WellFormed most entries) : entries.lookup key = some value := by
  obtain ⟨old, recent, rfl, _⟩ := holds
  have before : old.lookup key = none := by
    rw [lookup_eq_none]
    intro member
    have distinct := wf.distinct
    rw [List.map_append, List.map_cons] at distinct
    exact List.disjoint_of_nodup_append distinct member (.head _)
  simp [List.lookup_append, before]

theorem lookup_of_mem [LawfulBEq κ] {most : Nat} {key : κ} {value : ν} {entries : List (κ × ν)}
    (wf : WellFormed most entries) (member : (key, value) ∈ entries) : entries.lookup key = some value := by
  obtain ⟨old, recent, rfl⟩ := List.append_of_mem member
  have holds : Holds key value (recent.map Prod.fst).toFinset (old ++ (key, value) :: recent) :=
    ⟨old, recent, rfl, fun _ inside => List.mem_toFinset.mpr (List.mem_map_of_mem inside)⟩
  exact holds.lookup wf

omit [BEq κ] in
/-- The recent keys are distinct, so they number at most what is left of `since`. -/
theorem length_recent {most : Nat} {key other : κ} {value : ν} {since : Finset κ}
    {old recent : List (κ × ν)} (wf : WellFormed most (old ++ (key, value) :: recent))
    (used : ∀ e ∈ recent, e.1 ∈ since) (missing : ∀ e ∈ recent, e.1 ≠ other) :
    recent.length + 1 ≤ (insert other since).card := by
  have distinct : (recent.map Prod.fst).Nodup := by
    have := wf.distinct
    simp only [List.map_append, List.map_cons, List.nodup_append, List.nodup_cons] at this
    exact this.2.1.2
  have inside : insert other (recent.map Prod.fst).toFinset ⊆ insert other since := by
    apply Finset.insert_subset_insert
    intro k member
    obtain ⟨e, among, rfl⟩ := List.mem_map.mp (List.mem_toFinset.mp member)
    exact used e among
  have new : other ∉ (recent.map Prod.fst).toFinset := by
    intro member
    obtain ⟨e, member, same⟩ := List.mem_map.mp (List.mem_toFinset.mp member)
    exact missing e member same
  have counted := Finset.card_le_card inside
  rwa [Finset.card_insert_of_notMem new, List.toFinset_card_of_nodup distinct,
    List.length_map] at counted

/-- Fewer other keys than the bound cannot evict the entry: one of the entries before it
goes first. -/
theorem Holds.touch [LawfulBEq κ] {most : Nat} {key other : κ} {value : ν} {since : Finset κ}
    {entries : List (κ × ν)} (holds : Holds key value since entries) (wf : WellFormed most entries)
    (different : other ≠ key) (few : (insert other since).card < most) (new : ν) :
    Holds key value (insert other since) (touch most other new entries) := by
  obtain ⟨old, recent, rfl, used⟩ := holds
  have left : ∃ front back, rest most other (old ++ (key, value) :: recent) =
      front ++ (key, value) :: back ∧ back.Sublist recent := by
    cases found : (old ++ (key, value) :: recent).lookup other with
    | some _ =>
      refine ⟨old.filter (·.1 ≠ other), recent.filter (·.1 ≠ other), ?_, List.filter_sublist⟩
      simp [rest, found, different.symm]
    | none =>
      have missing := lookup_eq_none.mp found
      have fewer := length_recent wf used fun e member same =>
        missing (List.mem_map.mpr ⟨e, by simp [member], same⟩)
      have dropped : (old ++ (key, value) :: recent).length + 1 - most ≤ old.length := by
        have := wf.bounded
        simp only [List.length_append, List.length_cons] at this ⊢
        omega
      refine ⟨old.drop ((old ++ (key, value) :: recent).length + 1 - most), recent, ?_,
        List.Sublist.refl _⟩
      rw [rest, found]
      exact List.drop_append_of_le_length dropped
  obtain ⟨front, back, same, sub⟩ := left
  refine ⟨front, back ++ [(other, new)], by simp [Lru.touch, same], fun e member => ?_⟩
  rcases List.mem_append.mp member with earlier | last
  · exact Finset.mem_insert_of_mem (used e (sub.subset earlier))
  · rw [List.mem_singleton.mp last]
    exact Finset.mem_insert_self _ _

/-! ## Uses of one key among others -/

/-- Fewer than `most` distinct other keys between any two consecutive uses of the key. -/
def Close (most : Nat) (key : κ) (uses : List κ) : Prop :=
  ∀ front middle back, uses = front ++ key :: (middle ++ key :: back) → key ∉ middle →
    middle.toFinset.card < most

/-- The same up to the next use, after the keys in `since`. -/
def Due (most : Nat) (key : κ) (since : Finset κ) (uses : List κ) : Prop :=
  ∀ middle back, uses = middle ++ key :: back → key ∉ middle →
    (since ∪ middle.toFinset).card < most

section Uses
omit [BEq κ]
variable {most : Nat} {key : κ} {since : Finset κ} {uses : List κ}

theorem Close.tail {use : κ} (close : Close most key (use :: uses)) : Close most key uses :=
  fun front middle back split absent => close (use :: front) middle back (by simp [split]) absent

theorem Close.due (close : Close most key (key :: uses)) : Due most key ∅ uses := by
  intro middle back split absent
  rw [Finset.empty_union]
  exact close [] middle back (by simp [split]) absent

/-- With no more keys than the bound no two uses are too far apart. -/
theorem close_of_few (few : uses.toFinset.card ≤ most) : Close most key uses := by
  intro front middle back split absent
  have inside : insert key middle.toFinset ⊆ uses.toFinset := by
    intro k member
    rcases Finset.mem_insert.mp member with rfl | between
    · simp [split]
    · simp [split, List.mem_toFinset.mp between]
  have counted := Finset.card_le_card inside
  rw [Finset.card_insert_of_notMem (by simpa using absent)] at counted
  omega

theorem Due.now (due : Due most key since (key :: uses)) : since.card < most := by
  have := due [] uses rfl List.not_mem_nil
  rwa [List.toFinset_nil, Finset.union_empty] at this

theorem Due.other {other : κ} (due : Due most key since (other :: uses)) (different : other ≠ key) :
    Due most key (insert other since) uses := by
  intro middle back split absent
  have := due (other :: middle) back (by simp [split])
    (by simpa [different.symm] using absent)
  rwa [List.toFinset_cons, Finset.union_insert, ← Finset.insert_union] at this

/-- What the uses to come leave to the key, after the keys used `since` its last use, if it
was used before. -/
structure Owed (most : Nat) (key : κ) (since : Option (Finset κ)) (uses : List κ) : Prop where
  close : Close most key uses
  due : ∀ keys ∈ since, Due most key keys uses

theorem Close.owed (close : Close most key uses) : Owed most key none uses :=
  ⟨close, fun _ none => nomatch none⟩

variable {last : Option (Finset κ)}

theorem Owed.now (owed : Owed most key last (key :: uses)) : ∀ keys ∈ last, keys.card < most :=
  fun keys used => (owed.due keys used).now

theorem Owed.self (owed : Owed most key last (key :: uses)) : Owed most key (some ∅) uses :=
  ⟨owed.close.tail, fun _ used => Option.mem_some_iff.mp used ▸ owed.close.due⟩

theorem Owed.other {other : κ} (owed : Owed most key last (other :: uses))
    (different : other ≠ key) : Owed most key (last.map (insert other)) uses := by
  refine ⟨owed.close.tail, fun keys used => ?_⟩
  obtain ⟨before, earlier, rfl⟩ := Option.map_eq_some_iff.mp used
  exact (owed.due before earlier).other different

end Uses

/-! ## The entry of one key -/

/-- Unless the bound of other keys was reached `since` its last use, the key has a good entry. -/
def Keeps (most : Nat) (key : κ) (good : ν → Prop) (since : Option (Finset κ))
    (entries : List (κ × ν)) : Prop :=
  ∀ keys ∈ since, keys.card < most → ∃ value, Holds key value keys entries ∧ good value

section Keeps
variable {most : Nat} {key : κ} {good : ν → Prop} {since : Option (Finset κ)}
  {entries : List (κ × ν)}

theorem keeps_touch (most : Nat) (key : κ) {value : ν} (entries : List (κ × ν)) (fit : good value) :
    Keeps most key good (some ∅) (touch most key value entries) := by
  intro keys used _
  obtain rfl := Option.mem_some_iff.mp used
  exact ⟨value, holds_touch most key value entries, fit⟩

theorem Keeps.touch [LawfulBEq κ] {other : κ} (keeps : Keeps most key good since entries)
    (wf : WellFormed most entries) (different : other ≠ key) (new : ν) :
    Keeps most key good (since.map (insert other)) (touch most other new entries) := by
  intro keys used few
  obtain ⟨before, earlier, rfl⟩ := Option.map_eq_some_iff.mp used
  obtain ⟨value, holds, fit⟩ :=
    keeps before earlier ((Finset.card_le_card (Finset.subset_insert other before)).trans_lt few)
  exact ⟨value, holds.touch wf different few new, fit⟩

omit [DecidableEq κ] in
theorem Keeps.lookup [LawfulBEq κ] {keys : Finset κ} (keeps : Keeps most key good (some keys) entries)
    (wf : WellFormed most entries) (few : keys.card < most) :
    ∃ value, entries.lookup key = some value ∧ good value := by
  obtain ⟨value, holds, fit⟩ := keeps keys rfl few
  exact ⟨value, holds.lookup wf, fit⟩

end Keeps
end Lru
