import OrchidApi.AsyncPool

/-! Tasks over one store whose changes are logged. What a task may do depends on what it has
been told alone, so every change of the log goes back to what the store told at earlier
moments. -/
namespace Async

variable {S : Signature} {ι α ω : Type}

/-- How a store answers, which calls change it, and what they make of it. -/
structure Store (S : Signature) (ω : Type) where
  answers : ω → (c : S.Call) → S.Reply c → Prop
  changes : S.Call → Bool
  after : S.Call → ω → ω

/-- A state with the changes that led to it, the last one first. -/
structure Chronicle (S : Signature) (ω : Type) where
  now : ω
  changes : List S.Call := []

/-- Which values have been told in answer to which calls. -/
abbrev Told (S : Signature) : Type := (c : S.Call) → S.Reply c → Prop

/-- The answers to one task, the last one first. -/
abbrev Heard (S : Signature) : Type := List ((c : S.Call) × S.Answer c)

def Heard.told (heard : Heard S) : Told S := fun c value => ⟨c, .ok value⟩ ∈ heard

/-- The task has made the call, however it was answered. -/
def Heard.Made (heard : Heard S) (c : S.Call) : Prop := ∃ answer, ⟨c, answer⟩ ∈ heard

namespace Store

/-- A change may fail before it is made, or after. -/
inductive Serves (store : Store S ω) (w : Chronicle S ω) :
    (c : S.Call) → S.Answer c → Chronicle S ω → Prop where
  | read {c value} (reads : store.changes c = false) (answers : store.answers w.now c value) :
      Serves store w c (.ok value) w
  | change {c answer} (changes : store.changes c = true)
      (answers : ∀ value, answer = .ok value → store.answers w.now c value) :
      Serves store w c answer ⟨store.after c w.now, c :: w.changes⟩
  | fail {c error} : Serves store w c (.error error) w

def replay (store : Store S ω) (start : ω) (changes : List S.Call) : ω := changes.foldr store.after start

/-- What the store has told by now, of a change only if it has made it. -/
def told (store : Store S ω) (start : ω) (changes : List S.Call) : Told S := fun c value =>
  ∃ earlier, earlier <:+ changes ∧ store.answers (store.replay start earlier) c value ∧
    (store.changes c = true → c :: earlier <:+ changes)

def system (store : Store S ω) (start : ι → Prog S α) : System S ι (Heard S) α (Chronicle S ω) where
  start := start
  fresh := []
  learn _ heard c answer := ⟨c, answer⟩ :: heard
  serves _ := store.Serves

variable (store : Store S ω) (permits : ι → Told S → S.Call → Prop)
  (ends : ι → Told S → Except S.Exn α → Prop) (once : S.Call → Bool)

/-- The task is permitted its changes by what it has heard, and makes one of the changes
that there may be one of. -/
structure Allows (owner : ι) (heard : Heard S) (c : S.Call) : Prop where
  permits : store.changes c = true → permits owner heard.told c
  once : once c = true → ∀ entry ∈ heard, once entry.1 = false

abbrev Lawful (owner : ι) (p : Prog S α) (post : Heard S → Except S.Exn α → Prop) (heard : Heard S) : Prop :=
  p.Guarded (store.Allows permits once owner) (fun heard c answer => ⟨c, answer⟩ :: heard) post heard

/-- Who knows more is permitted no less. -/
structure Laws (start : ι → Prog S α) : Prop where
  starts : ∀ owner, store.Lawful permits once owner (start owner) (fun heard => ends owner heard.told) []
  permits_mono : ∀ {owner} {told wider : Told S} {c}, (∀ c value, told c value → wider c value) →
    permits owner told c → permits owner wider c
  ends_mono : ∀ {owner} {told wider : Told S} {outcome}, (∀ c value, told c value → wider c value) →
    ends owner told outcome → ends owner wider outcome

section Laws
variable {store} {permits} {ends} {once} {start : ι → Prog S α} {initial : ω}
  {w w' : Chronicle S ω} {owner : ι} {heard : Heard S} {c : S.Call} {answer : S.Answer c}
  {pool : Pool S ι (Heard S) α (Chronicle S ω)}

/-- There may be any number of these. -/
theorem Allows.free (permitted : store.changes c = true → permits owner heard.told c)
    (free : once c = false) : store.Allows permits once owner heard c where
  permits := permitted
  once single := Bool.noConfusion (free.symm.trans single)

theorem Allows.read (reads : store.changes c = false) (free : once c = false) :
    store.Allows permits once owner heard c :=
  .free (fun changes => Bool.noConfusion (reads.symm.trans changes)) free

theorem Allows.first (permitted : permits owner (Heard.told []) c) :
    store.Allows permits once owner [] c where
  permits _ := permitted
  once _ _ none := absurd none List.not_mem_nil

theorem told_mono {earlier changes : List S.Call} (grown : earlier <:+ changes) (c : S.Call)
    (value : S.Reply c) (told : store.told initial earlier c value) : store.told initial changes c value := by
  obtain ⟨moment, before, answers, made⟩ := told
  exact ⟨moment, before.trans grown, answers, fun changes => (made changes).trans grown⟩

theorem Serves.grown (served : store.Serves w c answer w') : w.changes <:+ w'.changes := by
  cases served with
  | read => exact List.suffix_rfl
  | change => exact List.suffix_cons _ _
  | fail => exact List.suffix_rfl

/-- The log accounts for the state. -/
def Follows (store : Store S ω) (initial : ω) (w : Chronicle S ω) : Prop :=
  w.now = store.replay initial w.changes

theorem Follows.served (follows : store.Follows initial w) (served : store.Serves w c answer w') :
    store.Follows initial w' := by
  cases served with
  | read => exact follows
  | change => exact congrArg (store.after c) follows
  | fail => exact follows

theorem Serves.told {value : S.Reply c} (follows : store.Follows initial w)
    (served : store.Serves w c (.ok value) w') : store.told initial w'.changes c value := by
  cases served with
  | read reads answers =>
    refine ⟨w.changes, List.suffix_rfl, follows ▸ answers, fun changes => ?_⟩
    rw [reads] at changes
    contradiction
  | change changes answers =>
    exact ⟨w.changes, List.suffix_cons _ _, follows ▸ answers value rfl, fun _ => List.suffix_rfl⟩

/-- A task has heard nothing but what the store has told. -/
def Means (store : Store S ω) (initial : ω) (w : Chronicle S ω) (heard : Heard S) : Prop :=
  ∀ c value, heard.told c value → store.told initial w.changes c value

theorem Means.served (follows : store.Follows initial w) (means : store.Means initial w heard)
    (served : store.Serves w c answer w') : store.Means initial w' (⟨c, answer⟩ :: heard) := by
  intro other value told
  rcases List.mem_cons.mp told with new | old
  · cases new
    exact served.told follows
  · exact told_mono served.grown other value (means other value old)

theorem chronicle_discipline (laws : store.Laws permits ends once start) (initial : ω) :
    Discipline (store.system start) (store.Allows permits once)
      (fun owner heard => ends owner heard.told) (store.Follows initial)
      (fun w _ => store.Means initial w) where
  starts := laws.starts
  means_fresh _ _ := fun _ _ none => absurd none List.not_mem_nil
  keeps follows _ _ served := Follows.served follows served
  stable _ _ _ served _ _ means := fun c value told =>
    told_mono (Serves.grown served) c value (means c value told)
  learns follows means _ served := Means.served follows means served

/-- Before anything happens. -/
theorem inOrder_start : InOrder (store.system start) (store.Allows permits once)
    (fun owner heard => ends owner heard.told) (store.Follows initial)
    (fun w _ => store.Means initial w) ⟨⟨initial, []⟩, []⟩ :=
  ⟨rfl, fun _ none => absurd none List.not_mem_nil⟩

theorem chronicle_inOrder (laws : store.Laws permits ends once start)
    (reaches : Reaches (store.system start) ⟨⟨initial, []⟩, []⟩ pool) :
    InOrder (store.system start) (store.Allows permits once) (fun owner heard => ends owner heard.told)
      (store.Follows initial) (fun w _ => store.Means initial w) pool :=
  inOrder_reaches (chronicle_discipline laws initial) inOrder_start reaches

/-! ## Changes -/

/-- Each change with those before it. -/
def moments : List S.Call → List (S.Call × List S.Call)
  | [] => []
  | c :: earlier => (c, earlier) :: moments earlier

theorem mem_moments {later earlier : List S.Call} : (c, earlier) ∈ moments (later ++ c :: earlier) := by
  induction later with
  | nil => exact .head _
  | cons other later ih => exact .tail _ ih

/-- What the log undoes between two moments is undone by one of the changes in between. -/
theorem replay_undone {p : ω → Prop} {older newer : List S.Call} (grown : older <:+ newer)
    (first : p (store.replay initial older)) (last : ¬p (store.replay initial newer)) :
    ∃ later c earlier, newer = later ++ c :: earlier ∧ older <:+ earlier ∧
      p (store.replay initial earlier) ∧ ¬p (store.after c (store.replay initial earlier)) := by
  obtain ⟨since, rfl⟩ := grown
  induction since with
  | nil => exact absurd first last
  | cons c since ih =>
    by_cases before : p (store.replay initial (since ++ older))
    · exact ⟨[], c, since ++ older, rfl, List.suffix_append _ _, before, last⟩
    · obtain ⟨later, undoes, earlier, split, past, found⟩ := ih before
      exact ⟨c :: later, undoes, earlier, congrArg (c :: ·) split, past, found⟩

/-- Every change is that of a task which has made it and was permitted it. -/
theorem permitted_reaches (laws : store.Laws permits ends once start)
    (reaches : Reaches (store.system start) ⟨⟨initial, []⟩, []⟩ pool) {later earlier : List S.Call}
    (made : pool.world.changes = later ++ c :: earlier) :
    ∃ task ∈ pool.tasks, task.known.Made c ∧ permits task.owner (store.told initial earlier) c := by
  have backed := backed_reaches (fun w : Chronicle S ω => moments w.changes)
    (fun moment owner (heard : Heard S) =>
      heard.Made moment.1 ∧ permits owner (store.told initial moment.2) moment.1)
    (chronicle_discipline laws initial) ?_ ?_
    inOrder_start reaches (fun _ none => absurd none List.not_mem_nil)
  · exact backed (c, earlier) (made ▸ mem_moments)
  · intro w w' owner heard c answer _ means allows served moment member
    cases served with
    | read => exact .inl member
    | change changes =>
      rcases List.mem_cons.mp member with rfl | old
      · exact .inr ⟨⟨answer, .head _⟩, laws.permits_mono means (allows.permits changes)⟩
      · exact .inl old
    | fail => exact .inl member
  · rintro owner heard c answer moment ⟨⟨earlier, there⟩, permitted⟩
    exact ⟨⟨earlier, .tail _ there⟩, permitted⟩

/-! ## Counting -/

/-- Whether the task has made its one change, where it may make one of the kind. -/
def weight (once : S.Call → Bool) (may : ι → Bool) (owner : ι) (heard : Heard S) : Nat :=
  if may owner = true ∧ ∃ entry ∈ heard, once entry.1 = true then 1 else 0

theorem weight_le (may : ι → Bool) (owner : ι) (heard : Heard S) :
    weight once may owner heard ≤ if may owner = true then 1 else 0 := by
  rw [weight]
  split
  · next counts => exact (if_pos counts.1).symm ▸ Nat.le_refl 1
  · exact Nat.zero_le _

theorem sum_weight_le (once : S.Call → Bool) (may : ι → Bool) (tasks : List (Task S ι (Heard S) α)) :
    (tasks.map fun task => weight once may task.owner task.known).sum ≤
      tasks.countP fun task => may task.owner := by
  induction tasks with
  | nil => exact Nat.le_refl _
  | cons task tasks ih =>
    rw [List.map_cons, List.sum_cons, List.countP_cons, Nat.add_comm]
    exact Nat.add_le_add ih (weight_le may _ _)

theorem weight_grows (may : ι → Bool) (c : S.Call) (answer : S.Answer c) :
    weight once may owner heard ≤ weight once may owner (⟨c, answer⟩ :: heard) := by
  by_cases counts : may owner = true ∧ ∃ entry ∈ heard, once entry.1 = true
  · obtain ⟨allowed, entry, member, made⟩ := counts
    have still : weight once may owner (⟨c, answer⟩ :: heard) = 1 :=
      if_pos ⟨allowed, entry, .tail _ member, made⟩
    rw [still, weight]
    split <;> omega
  · rw [weight, if_neg counts]
    exact Nat.zero_le _

/-- There are no more changes of a kind than tasks that may make one. -/
theorem countP_reaches (laws : store.Laws permits ends once start)
    (reaches : Reaches (store.system start) ⟨⟨initial, []⟩, []⟩ pool) (kind : S.Call → Bool) (may : ι → Bool)
    (single : ∀ c, kind c = true → once c = true)
    (mays : ∀ {owner told c}, permits owner told c → kind c = true → may owner = true) :
    pool.world.changes.countP kind ≤ pool.tasks.countP fun task => may task.owner := by
  refine Nat.le_trans ?_ (sum_weight_le once may pool.tasks)
  refine paid_reaches (fun w : Chronicle S ω => w.changes.countP kind) (weight once may)
    (chronicle_discipline laws initial) ?_ inOrder_start reaches (Nat.zero_le _)
  intro w w' owner heard c answer _ _ allows served
  have grows : weight once may owner heard ≤ weight once may owner (⟨c, answer⟩ :: heard) :=
    weight_grows may c answer
  cases served with
  | read => exact Nat.add_le_add_left grows _
  | fail => exact Nat.add_le_add_left grows _
  | change changes =>
    rw [List.countP_cons]
    by_cases counted : kind c = true
    · have new : weight once may owner heard = 0 := if_neg fun ⟨_, entry, member, made⟩ => by
        have first := allows.once (single c counted) entry member
        rw [first] at made
        contradiction
      have made : weight once may owner (⟨c, answer⟩ :: heard) = 1 :=
        if_pos ⟨mays (allows.permits changes) counted, _, .head _, single c counted⟩
      change _ ≤ _ + weight once may owner (⟨c, answer⟩ :: heard)
      rw [if_pos counted]
      omega
    · rw [if_neg counted]
      exact Nat.add_le_add_left grows _

end Laws
end Store
end Async
