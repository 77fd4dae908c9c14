import Mathlib.Data.List.Basic

/-! Single field updates laid over a map of records: a record that an update is the first
to name starts fresh, and of several updates of one field the last one stands. -/
namespace Overlay

/-! ## Dictionaries in insertion order -/

section Assign
variable {κ α : Type} [BEq κ] [LawfulBEq κ]

/-- `d[key] = value` -/
def assign (d : List (κ × α)) (key : κ) (value : α) : List (κ × α) :=
  if d.any (·.1 == key) then d.map fun entry => if entry.1 == key then (key, value) else entry
  else d ++ [(key, value)]

theorem lookup_map_assigned (d : List (κ × α)) (key : κ) (value : α) (other : κ) :
    (d.map fun entry => if entry.1 == key then (key, value) else entry).lookup other =
      if other == key then (d.lookup other).map fun _ => value else d.lookup other := by
  induction d with
  | nil => simp
  | cons entry rest ih =>
    obtain ⟨name, old⟩ := entry
    by_cases here : name = key
    · subst here
      by_cases same : other = name
      · subst same; simp
      · simp [List.lookup_cons, beq_eq_false_iff_ne.mpr same, ih]
    · by_cases same : other = name
      · subst same; simp [beq_eq_false_iff_ne.mpr here]
      · simp [List.lookup_cons, beq_eq_false_iff_ne.mpr here, beq_eq_false_iff_ne.mpr same, ih]

theorem lookup_assign (d : List (κ × α)) (key : κ) (value : α) (other : κ) :
    (assign d key value).lookup other = if other == key then some value else d.lookup other := by
  rw [assign]
  split
  · rename_i present
    rw [lookup_map_assigned]
    by_cases same : other = key
    · subst same
      obtain ⟨entry, member, named⟩ := List.any_eq_true.mp present
      have found : (d.lookup other).isSome = true :=
        List.lookup_isSome_iff.mpr ⟨entry, member, by rw [beq_iff_eq.mp named]; exact beq_self_eq_true _⟩
      obtain ⟨old, held⟩ := Option.isSome_iff_exists.mp found
      simp [held]
    · simp [same]
  · rename_i absent
    rw [List.lookup_append]
    by_cases same : other = key
    · subst same
      have missing : d.lookup other = none := List.lookup_eq_none_iff.mpr fun entry member => by
        simp only [bne_iff_ne]
        rintro rfl
        exact absent (List.any_eq_true.mpr ⟨entry, member, beq_self_eq_true _⟩)
      simp [missing]
    · simp [List.lookup_cons, beq_eq_false_iff_ne.mpr same]

omit [LawfulBEq κ] in
theorem mem_assign {d : List (κ × α)} {key : κ} {value : α} {entry : κ × α}
    (member : entry ∈ assign d key value) : entry = (key, value) ∨ entry ∈ d := by
  rw [assign] at member
  split at member
  · obtain ⟨old, inside, rfl⟩ := List.mem_map.mp member
    split
    · exact .inl rfl
    · exact .inr inside
  · exact (List.mem_append.mp member).symm.imp_left List.mem_singleton.mp

theorem lookup_eq_some_iff_mem {d : List (κ × α)} (names : (d.map Prod.fst).Nodup) {key : κ} {value : α} :
    d.lookup key = some value ↔ (key, value) ∈ d := by
  constructor
  · intro found
    obtain ⟨before, after, rfl, -⟩ := List.lookup_eq_some_iff.mp found
    simp
  · intro member
    obtain ⟨before, after, rfl⟩ := List.append_of_mem member
    refine List.lookup_eq_some_iff.mpr ⟨before, after, rfl, fun entry earlier => bne_iff_ne.mpr ?_⟩
    rintro rfl
    rw [List.map_append, List.map_cons, List.nodup_append] at names
    exact names.2.2 _ (List.mem_map_of_mem earlier) _ (.head _) rfl

end Assign

/-! ## Updates -/

/-- The fields of a record type. -/
structure Fields (τ φ ν : Type) [DecidableEq φ] where
  get : τ → φ → ν
  set : τ → φ → ν → τ
  get_set : ∀ record field value other,
    get (set record field value) other = if other = field then value else get record other

structure Update (κ φ ν : Type) where
  key : κ
  field : φ
  value : ν

section Updates
variable {κ φ ν τ : Type} [DecidableEq κ] [DecidableEq φ] (fields : Fields τ φ ν) (fresh : τ)

def put (records : κ → Option τ) (u : Update κ φ ν) : κ → Option τ := fun key =>
  if key = u.key then some (fields.set ((records key).getD fresh) u.field u.value) else records key

def putAll (records : κ → Option τ) (updates : List (Update κ φ ν)) : κ → Option τ :=
  updates.foldl (put fields fresh) records

/-- The value of the last update of the field. -/
def lastValue (key : κ) (field : φ) : List (Update κ φ ν) → Option ν
  | [] => none
  | u :: later =>
    (lastValue key field later).or (if u.key = key ∧ u.field = field then some u.value else none)

variable {fields fresh}

theorem isSome_putAll {records : κ → Option τ} {updates : List (Update κ φ ν)} {key : κ} :
    (putAll fields fresh records updates key).isSome ↔
      (records key).isSome ∨ ∃ u ∈ updates, u.key = key := by
  induction updates generalizing records with
  | nil => simp [putAll]
  | cons u later ih =>
    rw [putAll, List.foldl_cons, ← putAll, ih, put]
    split
    · rename_i same
      simp [same]
    · rename_i other
      simp [Ne.symm other]

theorem get_put (records : κ → Option τ) (u : Update κ φ ν) (key : κ) (field : φ) :
    fields.get ((put fields fresh records u key).getD fresh) field =
      if u.key = key ∧ u.field = field then u.value
      else fields.get ((records key).getD fresh) field := by
  rw [put]
  by_cases same : key = u.key
  · subst same
    simp only [if_true, Option.getD_some, fields.get_set, true_and, eq_comm]
  · rw [if_neg same, if_neg fun both => same both.1.symm]

theorem get_putAll (records : κ → Option τ) (updates : List (Update κ φ ν)) (key : κ) (field : φ) :
    fields.get ((putAll fields fresh records updates key).getD fresh) field =
      (lastValue key field updates).getD (fields.get ((records key).getD fresh) field) := by
  induction updates generalizing records with
  | nil => rfl
  | cons u later ih =>
    rw [putAll, List.foldl_cons, ← putAll, ih, get_put, lastValue]
    cases lastValue key field later with
    | some value => rfl
    | none =>
      rw [Option.none_or, Option.getD_none]
      split
      · rfl
      · rfl

theorem mem_of_lastValue {updates : List (Update κ φ ν)} {key : κ} {field : φ} {value : ν}
    (last : lastValue key field updates = some value) : ⟨key, field, value⟩ ∈ updates := by
  induction updates with
  | nil => cases last
  | cons u later ih =>
    rcases Option.or_eq_some_iff.mp last with now | ⟨-, now⟩
    · exact .tail _ (ih now)
    · split at now
      · rename_i same
        obtain ⟨rfl, rfl⟩ := same
        cases now
        exact .head _
      · cases now

/-- Where no field is updated twice, the order of the updates does not matter. -/
theorem lastValue_iff {updates : List (Update κ φ ν)}
    (once : (updates.map fun u => (u.key, u.field)).Nodup) {key : κ} {field : φ} {value : ν} :
    lastValue key field updates = some value ↔ ⟨key, field, value⟩ ∈ updates := by
  refine ⟨mem_of_lastValue, fun member => ?_⟩
  induction updates with
  | nil => cases member
  | cons u later ih =>
    obtain ⟨new, others⟩ := List.nodup_cons.mp once
    rcases List.mem_cons.mp member with rfl | inside
    · have silent : lastValue key field later = none := by
        cases found : lastValue key field later with
        | none => rfl
        | some other => exact absurd (List.mem_map_of_mem (mem_of_lastValue found)) new
      simp [lastValue, silent]
    · rw [lastValue, ih others inside, Option.some_or]

end Updates

end Overlay
