import Mathlib.Data.List.Induction
import Mathlib.Data.List.Perm.Basic
import OrchidApi.AsyncPool

/-! Programs that await at most once. Whatever the interleaving, those that have ended did
what they would have done one after another, in the order of their calls. -/
namespace Async

variable {S : Signature} {ι γ α ω : Type}

namespace Prog

def Finished : Prog S α → Prop
  | ret _ | raise _ => True
  | call _ _ => False

/-- At most one await. -/
def Atomic : Prog S α → Prop
  | ret _ | raise _ => True
  | call _ next => ∀ answer, (next answer).Finished

/-- No await. -/
def result : Except S.Exn α → Prog S α
  | .ok value => ret value
  | .error error => raise error

/-- One await, and what is made of its answer. -/
def ask (c : S.Call) (finish : S.Answer c → Except S.Exn α) : Prog S α :=
  call c fun answer => result (finish answer)

theorem result_finished (outcome : Except S.Exn α) : (result outcome : Prog S α).Finished := by
  cases outcome <;> trivial

theorem ask_atomic (c : S.Call) (finish : S.Answer c → Except S.Exn α) : (ask c finish).Atomic :=
  fun answer => result_finished (finish answer)

theorem exists_outcome {p : Prog S α} (finished : p.Finished) : ∃ outcome,
    ∀ (owner : ι) (known : γ), (Task.mk owner p known).outcome = some outcome := by
  cases p with
  | ret value => exact ⟨.ok value, fun _ _ => rfl⟩
  | raise error => exact ⟨.error error, fun _ _ => rfl⟩
  | call c next => exact finished.elim

end Prog

section Runs
variable {serves : ω → (c : S.Call) → S.Answer c → ω → Prop} {world final : ω}
  {outcome : Except S.Exn α}

theorem runs_result_iff {ends : Except S.Exn α} :
    Runs serves (Prog.result ends) world outcome final ↔ outcome = ends ∧ final = world := by
  cases ends with
  | ok value => exact runs_ret_iff
  | error error => exact runs_raise_iff

theorem runs_ask_iff {c : S.Call} {finish : S.Answer c → Except S.Exn α} :
    Runs serves (Prog.ask c finish) world outcome final ↔
      ∃ answer, serves world c answer final ∧ outcome = finish answer := by
  rw [Prog.ask, runs_call_iff]
  constructor
  · rintro ⟨answer, middle, served, rest⟩
    obtain ⟨rfl, rfl⟩ := runs_result_iff.mp rest
    exact ⟨answer, served, rfl⟩
  · rintro ⟨answer, served, rfl⟩
    exact ⟨answer, final, served, runs_result_iff.mpr ⟨rfl, rfl⟩⟩

/-- An environment that may answer as a server does. -/
theorem runs_exec {serve : Server S ω}
    (answers : ∀ world c, serves world c (serve c world).1 (serve c world).2)
    (p : Prog S α) (world : ω) : Runs serves p world (p.exec serve world).1 (p.exec serve world).2 := by
  induction p generalizing world with
  | ret value => exact .ret
  | raise error => exact .raise
  | call c next ih => exact .call (answers world c) (ih _ _)

end Runs

/-- A program that has ended awaits nothing. -/
theorem Task.runs_outcome {task : Task S ι γ α} {outcome : Except S.Exn α}
    {serves : ω → (c : S.Call) → S.Answer c → ω → Prop} {world : ω}
    (done : task.outcome = some outcome) : Runs serves task.prog world outcome world := by
  obtain ⟨owner, prog, known⟩ := task
  cases prog with
  | ret value =>
    obtain rfl := Option.some.inj done
    exact .ret
  | raise error =>
    obtain rfl := Option.some.inj done
    exact .raise
  | call c next => contradiction

/-! ## Serial executions -/

variable (sys : System S ι γ α ω)

/-- Whole programs executed one after another, with their outcomes. -/
inductive Serial (start : ω) : List (ι × Except S.Exn α) → ω → Prop where
  | nil : Serial start [] start
  | snoc {order owner outcome world world'} (before : Serial start order world)
      (run : Runs (sys.serves owner) (sys.start owner) world outcome world') :
      Serial start (order ++ [(owner, outcome)]) world'

/-- The order accounts for the pool: it leads to its world, it has exactly the tasks that
have ended with their outcomes, and the other tasks have not done anything. -/
structure Explains (start : ω) (order : List (ι × Except S.Exn α)) (pool : Pool S ι γ α ω) : Prop where
  serial : Serial sys start order pool.world
  ended : order.Perm (pool.tasks.filterMap fun task => task.outcome.map (task.owner, ·))
  waiting : ∀ task ∈ pool.tasks, task.outcome = none → task.prog = sys.start task.owner

variable {sys} {start : ω} {order : List (ι × Except S.Exn α)} {pool pool' : Pool S ι γ α ω}

theorem Serial.single {world : ω} {owner : ι} {outcome : Except S.Exn α}
    (run : Runs (sys.serves owner) (sys.start owner) start outcome world) :
    Serial sys start [(owner, outcome)] world :=
  .snoc .nil run

theorem explains_start (start : ω) : Explains sys start [] ⟨start, []⟩ :=
  ⟨.nil, .nil, fun _ none => absurd none List.not_mem_nil⟩

theorem Serial.last {world : ω} {entry : ι × Except S.Exn α}
    (serial : Serial sys start (order ++ [entry]) world) : ∃ middle, Serial sys start order middle ∧
      Runs (sys.serves entry.1) (sys.start entry.1) middle entry.2 world := by
  generalize whole : order ++ [entry] = orders at serial
  cases serial with
  | nil => simp at whole
  | snoc before run =>
    obtain ⟨rfl, same⟩ := List.append_inj' whole rfl
    obtain rfl := List.singleton_inj.mp same
    exact ⟨_, before, run⟩

/-- Executing the orders one after the other. -/
theorem serial_append_iff {first second : List (ι × Except S.Exn α)} {world : ω} :
    Serial sys start (first ++ second) world ↔
      ∃ middle, Serial sys start first middle ∧ Serial sys middle second world := by
  constructor
  · intro serial
    induction second using List.reverseRecOn generalizing world with
    | nil => exact ⟨world, by simpa using serial, .nil⟩
    | append_singleton second last ih =>
      rw [← List.append_assoc] at serial
      obtain ⟨middle, before, run⟩ := serial.last
      obtain ⟨inner, head, tail⟩ := ih before
      exact ⟨inner, head, .snoc tail run⟩
  · rintro ⟨middle, head, tail⟩
    induction tail with
    | nil => simpa using head
    | snoc _ run ih =>
      rw [← List.append_assoc]
      exact .snoc ih run

/-- The world in which one of the programs was executed. -/
theorem Serial.at {before after : List (ι × Except S.Exn α)} {entry : ι × Except S.Exn α} {world : ω}
    (serial : Serial sys start (before ++ entry :: after) world) : ∃ middle next,
      Serial sys start before middle ∧
      Runs (sys.serves entry.1) (sys.start entry.1) middle entry.2 next := by
  have split : before ++ entry :: after = before ++ [entry] ++ after := by simp
  rw [split] at serial
  obtain ⟨next, head, _⟩ := serial_append_iff.mp serial
  obtain ⟨middle, first, run⟩ := head.last
  exact ⟨middle, next, first, run⟩

/-- An invariant that every whole execution keeps. -/
theorem Serial.keeps {invariant : ω → Prop} (serial : Serial sys start order world)
    (holds : invariant start)
    (step : ∀ {owner world outcome world'},
      Runs (sys.serves owner) (sys.start owner) world outcome world' → invariant world → invariant world') :
    invariant world := by
  induction serial with
  | nil => exact holds
  | snoc _ run ih => exact step run ih

theorem Serial.runs {world : ω} (serial : Serial sys start order world)
    {entry : ι × Except S.Exn α} (member : entry ∈ order) :
    ∃ before after, Runs (sys.serves entry.1) (sys.start entry.1) before entry.2 after := by
  induction serial with
  | nil => contradiction
  | snoc _ run ih =>
    rcases List.mem_append.mp member with old | new
    · exact ih old
    · rw [List.mem_singleton.mp new]
      exact ⟨_, _, run⟩

/-! ## Serializability -/

private theorem ended_insert {before after : List (Task S ι γ α)} {task : Task S ι γ α}
    {entry : ι × Except S.Exn α} (done : task.outcome.map (task.owner, ·) = some entry)
    (ended : order.Perm ((before ++ after).filterMap fun task => task.outcome.map (task.owner, ·))) :
    (order ++ [entry]).Perm
      ((before ++ task :: after).filterMap fun task => task.outcome.map (task.owner, ·)) := by
  simp only [List.filterMap_append, List.filterMap_cons, done] at ended ⊢
  exact (List.perm_append_singleton entry order).trans ((ended.cons entry).trans List.perm_middle.symm)

theorem explains_step (atomic : ∀ owner, (sys.start owner).Atomic)
    (explains : Explains sys start order pool) (step : Step sys pool pool') :
    ∃ later, Explains sys start (order ++ later) pool' := by
  cases step with
  | spawn pool owner =>
    cases begun : (Task.mk owner (sys.start owner) sys.fresh).outcome with
    | none =>
      refine ⟨[], ⟨by simpa using explains.serial, ?_, ?_⟩⟩
      · simpa [begun] using explains.ended
      · intro task member waits
        rcases List.mem_append.mp member with old | new
        · exact explains.waiting task old waits
        · rw [List.mem_singleton.mp new]
    | some outcome =>
      refine ⟨[(owner, outcome)], ⟨.snoc explains.serial (Task.runs_outcome begun), ?_, ?_⟩⟩
      · apply ended_insert (by rw [begun]; rfl)
        simpa using explains.ended
      · intro task member waits
        rcases List.mem_append.mp member with old | new
        · exact explains.waiting task old waits
        · rw [List.mem_singleton.mp new, begun] at waits
          contradiction
  | @advance world world' before after owner c next known answer served =>
    have begun : Prog.call c next = sys.start owner :=
      explains.waiting ⟨owner, .call c next, known⟩ (by simp) rfl
    have finishes : (next answer).Finished := by
      have single := atomic owner
      rw [← begun] at single
      exact single answer
    obtain ⟨outcome, done⟩ := Prog.exists_outcome (ι := ι) (γ := γ) finishes
    refine ⟨[(owner, outcome)], ⟨.snoc explains.serial ?_, ?_, ?_⟩⟩
    · rw [← begun]
      exact .call served (Task.runs_outcome (done owner known))
    · apply ended_insert (by rw [done]; rfl)
      have ended := explains.ended
      rwa [List.filterMap_append, List.filterMap_cons_none (by rfl), ← List.filterMap_append] at ended
    · intro task member waits
      have inside : task ∈ before ++ after ∨ task = ⟨owner, next answer, sys.learn owner known c answer⟩ := by
        rcases List.mem_append.mp member with left | right
        · exact .inl (List.mem_append_left _ left)
        · rcases List.mem_cons.mp right with same | right
          · exact .inr same
          · exact .inl (List.mem_append_right _ right)
      rcases inside with inside | rfl
      · apply explains.waiting task _ waits
        rcases List.mem_append.mp inside with left | right
        · exact List.mem_append_left _ left
        · exact List.mem_append_right _ (.tail _ right)
      · rw [done] at waits
        contradiction

/-- Any interleaving is a serial execution, which later steps only extend: what has ended
stands before whatever starts afterwards. -/
theorem serializable (atomic : ∀ owner, (sys.start owner).Atomic)
    (explains : Explains sys start order pool) (reaches : Reaches sys pool pool') :
    ∃ later, Explains sys start (order ++ later) pool' := by
  induction reaches with
  | refl => exact ⟨[], by simpa using explains⟩
  | tail _ step ih =>
    obtain ⟨later, explained⟩ := ih
    obtain ⟨last, extended⟩ := explains_step atomic explained step
    exact ⟨later ++ last, by simpa using extended⟩

end Async
