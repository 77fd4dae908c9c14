import Mathlib.Algebra.GroupWithZero.Nat
import Mathlib.Logic.Relation
import OrchidApi.Async

/-! Programs whose calls depend on what they have learned, and pools of such programs
that interleave at their awaits over one shared world. -/
namespace Async

variable {S : Signature} {ι γ α β ω : Type}

namespace Prog

/-- Every call the program can make satisfies the predicate. -/
def Uses (ok : S.Call → Prop) : Prog S α → Prop
  | ret _ | raise _ => True
  | call c next => ok c ∧ ∀ answer, (next answer).Uses ok

section Uses
variable {ok : S.Call → Prop}

theorem uses_attempt {p : Prog S α} {k : Except S.Exn α → Prog S β} (first : p.Uses ok)
    (rest : ∀ outcome, (k outcome).Uses ok) : (p.attempt k).Uses ok := by
  induction p with
  | ret value => exact rest _
  | raise error => exact rest _
  | call c next ih => exact ⟨first.1, fun answer => ih answer (first.2 answer)⟩

theorem uses_bind {p : Prog S α} {f : α → Prog S β} (first : p.Uses ok)
    (rest : ∀ value, (f value).Uses ok) : (p >>= f).Uses ok := by
  refine uses_attempt first fun outcome => ?_
  cases outcome with
  | ok value => exact rest value
  | error error => trivial

theorem uses_await {c : S.Call} (allowed : ok c) : (await c).Uses ok := by
  refine ⟨allowed, fun answer => ?_⟩
  cases answer <;> trivial

theorem uses_each {f : α → Prog S Unit} {items : List α} (step : ∀ item ∈ items, (f item).Uses ok) :
    (each f items).Uses ok := by
  induction items with
  | nil => trivial
  | cons item rest ih =>
    exact uses_bind (step item (.head _)) fun _ => ih fun other member => step other (.tail _ member)

theorem uses_ite {p q : Prog S α} {condition : Prop} [Decidable condition] (yes : p.Uses ok)
    (no : q.Uses ok) : (if condition then p else q).Uses ok := by
  split
  · exact yes
  · exact no

theorem uses_mono {wider : S.Call → Prop} {p : Prog S α} (uses : p.Uses ok)
    (widens : ∀ c, ok c → wider c) : p.Uses wider := by
  induction p with
  | ret | raise => trivial
  | call c next ih => exact ⟨widens c uses.1, fun answer => ih answer (uses.2 answer)⟩

/-- What each allowed call keeps, the execution keeps. -/
theorem exec_keeps {σ : Type} {serve : Server S σ} {p : Prog S α} {invariant : σ → Prop}
    (uses : p.Uses ok) (keeps : ∀ c s, ok c → invariant s → invariant (serve c s).2) {s : σ}
    (start : invariant s) : invariant (p.exec serve s).2 := by
  induction p generalizing s with
  | ret | raise => exact start
  | call c next ih => exact ih _ (uses.2 _) (keeps c s uses.1 start)

theorem uses_calls {σ : Type} {serve : Server S σ} {p : Prog S α} (uses : p.Uses ok) (s : σ) :
    ∀ c ∈ p.calls serve s, ok c := by
  induction p generalizing s with
  | ret | raise => simp [calls]
  | call c next ih =>
    intro made member
    rcases List.mem_cons.mp member with rfl | later
    · exact uses.1
    · exact ih _ (uses.2 _) _ made later

end Uses

/-! ## Knowledge -/

section Guarded
variable (allowed : γ → S.Call → Prop) (learn : γ → (c : S.Call) → S.Answer c → γ)

/-- Each call is allowed by what is known when it is made, and so is the outcome. -/
def Guarded (post : γ → Except S.Exn α → Prop) : Prog S α → γ → Prop
  | ret value, known => post known (.ok value)
  | raise error, known => post known (.error error)
  | call c next, known =>
    allowed known c ∧ ∀ answer, (next answer).Guarded post (learn known c answer)

variable {allowed learn}

theorem guarded_attempt {post : γ → Except S.Exn β → Prop} {p : Prog S α}
    {k : Except S.Exn α → Prog S β} {known : γ}
    (first : p.Guarded allowed learn (fun later outcome =>
      (k outcome).Guarded allowed learn post later) known) :
    (p.attempt k).Guarded allowed learn post known := by
  induction p generalizing known with
  | ret value => exact first
  | raise error => exact first
  | call c next ih => exact ⟨first.1, fun answer => ih answer (first.2 answer)⟩

/-- The rule of consequence. -/
theorem guarded_mono {post wider : γ → Except S.Exn α → Prop} {p : Prog S α} {known : γ}
    (guarded : p.Guarded allowed learn post known)
    (widens : ∀ later outcome, post later outcome → wider later outcome) :
    p.Guarded allowed learn wider known := by
  induction p generalizing known with
  | ret value => exact widens known (.ok value) guarded
  | raise error => exact widens known (.error error) guarded
  | call c next ih => exact ⟨guarded.1, fun answer => ih answer (guarded.2 answer)⟩

/-- The rule for a first step whose value the rest depends on. -/
theorem guarded_bind {post : γ → Except S.Exn β → Prop} {p : Prog S α} {f : α → Prog S β}
    {known : γ} {middle : γ → Except S.Exn α → Prop}
    (first : p.Guarded allowed learn middle known)
    (rest : ∀ later value, middle later (.ok value) → (f value).Guarded allowed learn post later)
    (fails : ∀ later error, middle later (.error error) → post later (.error error)) :
    (p >>= f).Guarded allowed learn post known := by
  refine guarded_attempt (guarded_mono first fun later outcome reached => ?_)
  cases outcome with
  | ok value => exact rest later value reached
  | error error => exact fails later error reached

/-- What each item's program keeps, the loop keeps. -/
theorem guarded_each {keeps : γ → Prop} {f : α → Prog S Unit} {items : List α} {known : γ}
    (step : ∀ item ∈ items, ∀ known, keeps known →
      (f item).Guarded allowed learn (fun later _ => keeps later) known)
    (start : keeps known) : (each f items).Guarded allowed learn (fun later _ => keeps later) known := by
  induction items generalizing known with
  | nil => exact start
  | cons item rest ih =>
    exact guarded_bind (step item (.head _) known start)
      (fun later _ kept => ih (fun other member => step other (.tail _ member)) kept) fun _ _ kept => kept

/-- Knowledge that allows every call used, and that no answer changes, guards a program. -/
theorem guarded_of_uses {post : γ → Except S.Exn α → Prop} {ok : S.Call → Prop} {p : Prog S α}
    {known : γ} (uses : p.Uses ok) (permits : ∀ c, ok c → allowed known c)
    (stable : ∀ c answer, ok c → learn known c answer = known)
    (done : ∀ outcome, post known outcome) : p.Guarded allowed learn post known := by
  induction p with
  | ret value => exact done _
  | raise error => exact done _
  | call c next ih =>
    refine ⟨permits c uses.1, fun answer => ?_⟩
    rw [stable c answer uses.1]
    exact ih answer (uses.2 answer)

end Guarded
end Prog

/-! ## Pools -/

/-- A program in progress, who runs it, and what its answers have told it. -/
structure Task (S : Signature) (ι γ α : Type) where
  owner : ι
  prog : Prog S α
  known : γ

def Task.outcome (task : Task S ι γ α) : Option (Except S.Exn α) :=
  match task.prog with
  | .ret value => some (.ok value)
  | .raise error => some (.error error)
  | .call _ _ => none

structure Pool (S : Signature) (ι γ α ω : Type) where
  world : ω
  tasks : List (Task S ι γ α)

/-- How a kind of task starts, learns and is served by the shared world. -/
structure System (S : Signature) (ι γ α ω : Type) where
  start : ι → Prog S α
  fresh : γ
  learn : ι → γ → (c : S.Call) → S.Answer c → γ
  serves : ι → ω → (c : S.Call) → S.Answer c → ω → Prop

variable (sys : System S ι γ α ω)

inductive Step : Pool S ι γ α ω → Pool S ι γ α ω → Prop where
  | spawn (pool) (owner : ι) :
      Step pool { pool with tasks := pool.tasks ++ [⟨owner, sys.start owner, sys.fresh⟩] }
  | advance {world world'} {before after} {owner} {c} {next} {known} {answer}
      (served : sys.serves owner world c answer world') :
      Step ⟨world, before ++ ⟨owner, .call c next, known⟩ :: after⟩
        ⟨world', before ++ ⟨owner, next answer, sys.learn owner known c answer⟩ :: after⟩

/-- Any number of steps of any tasks, in any order. -/
def Reaches : Pool S ι γ α ω → Pool S ι γ α ω → Prop := Relation.ReflTransGen (Step sys)

/-- An invariant of the world and a meaning of knowledge, kept by all allowed calls. -/
structure Discipline (allowed : ι → γ → S.Call → Prop) (post : ι → γ → Except S.Exn α → Prop)
    (invariant : ω → Prop) (means : ω → ι → γ → Prop) : Prop where
  starts : ∀ owner, (sys.start owner).Guarded (allowed owner) (sys.learn owner) (post owner) sys.fresh
  means_fresh : ∀ world owner, means world owner sys.fresh
  keeps : ∀ {world world' owner known c answer}, invariant world → means world owner known →
    allowed owner known c → sys.serves owner world c answer world' → invariant world'
  stable : ∀ {world world' owner known c answer}, invariant world → means world owner known →
    allowed owner known c → sys.serves owner world c answer world' →
    ∀ {other fact}, means world other fact → means world' other fact
  learns : ∀ {world world' owner known c answer}, invariant world → means world owner known →
    allowed owner known c → sys.serves owner world c answer world' →
    means world' owner (sys.learn owner known c answer)

/-- The world is in order, and every task is where its knowledge allows it to be. -/
structure InOrder (allowed : ι → γ → S.Call → Prop) (post : ι → γ → Except S.Exn α → Prop)
    (invariant : ω → Prop) (means : ω → ι → γ → Prop) (pool : Pool S ι γ α ω) : Prop where
  world : invariant pool.world
  tasks : ∀ task ∈ pool.tasks, means pool.world task.owner task.known ∧
    task.prog.Guarded (allowed task.owner) (sys.learn task.owner) (post task.owner) task.known

section Discipline
variable {sys} {allowed : ι → γ → S.Call → Prop} {post : ι → γ → Except S.Exn α → Prop}
  {invariant : ω → Prop} {means : ω → ι → γ → Prop} {pool pool' : Pool S ι γ α ω}

/-- What the task about to move is allowed, and what is known of it. -/
theorem InOrder.moving {world : ω} {before after : List (Task S ι γ α)} {owner : ι} {c : S.Call}
    {next : S.Answer c → Prog S α} {known : γ}
    (order : InOrder sys allowed post invariant means
      ⟨world, before ++ ⟨owner, .call c next, known⟩ :: after⟩) :
    means world owner known ∧ allowed owner known c ∧ ∀ answer,
      (next answer).Guarded (allowed owner) (sys.learn owner) (post owner)
        (sys.learn owner known c answer) := by
  obtain ⟨fact, guarded⟩ := order.tasks ⟨owner, .call c next, known⟩ (by simp)
  exact ⟨fact, guarded.1, guarded.2⟩

theorem inOrder_step (discipline : Discipline sys allowed post invariant means)
    (order : InOrder sys allowed post invariant means pool) (step : Step sys pool pool') :
    InOrder sys allowed post invariant means pool' := by
  cases step with
  | spawn pool owner =>
    refine ⟨order.world, fun task member => ?_⟩
    rcases List.mem_append.mp member with old | new
    · exact order.tasks task old
    · rw [List.mem_singleton.mp new]
      exact ⟨discipline.means_fresh _ _, discipline.starts owner⟩
  | @advance world world' before after owner c next known answer served =>
    obtain ⟨fact, may, rest⟩ := order.moving
    refine ⟨discipline.keeps order.world fact may served, fun task member => ?_⟩
    have untouched (inside : task ∈ before ++ after) : means world' task.owner task.known ∧
        task.prog.Guarded (allowed task.owner) (sys.learn task.owner) (post task.owner) task.known := by
      obtain ⟨known, guarded⟩ := order.tasks task (by
        rcases List.mem_append.mp inside with left | right
        · simp [left]
        · simp [right])
      exact ⟨discipline.stable order.world fact may served known, guarded⟩
    rcases List.mem_append.mp member with left | right
    · exact untouched (List.mem_append.mpr (.inl left))
    · rcases List.mem_cons.mp right with rfl | right
      · exact ⟨discipline.learns order.world fact may served, rest answer⟩
      · exact untouched (List.mem_append.mpr (.inr right))

theorem inOrder_reaches (discipline : Discipline sys allowed post invariant means)
    (order : InOrder sys allowed post invariant means pool) (reaches : Reaches sys pool pool') :
    InOrder sys allowed post invariant means pool' := by
  induction reaches with
  | refl => exact order
  | tail _ step ih => exact inOrder_step discipline ih step

/-- A finished task's outcome satisfies its postcondition. -/
theorem InOrder.outcome (order : InOrder sys allowed post invariant means pool)
    {task : Task S ι γ α} (member : task ∈ pool.tasks) {outcome : Except S.Exn α}
    (finished : task.outcome = some outcome) :
    means pool.world task.owner task.known ∧ post task.owner task.known outcome := by
  obtain ⟨fact, guarded⟩ := order.tasks task member
  obtain ⟨owner, prog, known⟩ := task
  cases prog with
  | ret value =>
    obtain rfl := Option.some.inj finished
    exact ⟨fact, guarded⟩
  | raise error =>
    obtain rfl := Option.some.inj finished
    exact ⟨fact, guarded⟩
  | call c next => contradiction

/-! ## Rules for a whole pool -/

/-- What the world has in stock and what the tasks hold. -/
def Pool.total (stock : ω → Nat) (weight : ι → γ → Nat) (pool : Pool S ι γ α ω) : Nat :=
  stock pool.world + (pool.tasks.map fun task => weight task.owner task.known).sum

/-- Where no call makes more of it, no run does. -/
theorem total_reaches (stock : ω → Nat) (weight : ι → γ → Nat)
    (discipline : Discipline sys allowed post invariant means)
    (idle : ∀ owner, weight owner sys.fresh = 0)
    (spends : ∀ {world world' owner known c answer}, invariant world → means world owner known →
      allowed owner known c → sys.serves owner world c answer world' →
      stock world' + weight owner (sys.learn owner known c answer) ≤
        stock world + weight owner known)
    (order : InOrder sys allowed post invariant means pool) (reaches : Reaches sys pool pool') :
    pool'.total stock weight ≤ pool.total stock weight := by
  induction reaches with
  | refl => exact Nat.le_refl _
  | tail before step ih =>
    refine Nat.le_trans ?_ ih
    have order := inOrder_reaches discipline order before
    cases step with
    | spawn pool owner => simp [Pool.total, idle]
    | @advance world world' before after owner c next known answer served =>
      obtain ⟨fact, may, _⟩ := order.moving
      have moved : stock world' + weight owner (sys.learn owner known c answer) ≤
          stock world + weight owner known := spends order.world fact may served
      simp only [Pool.total, List.map_append, List.map_cons, List.sum_append, List.sum_cons]
      omega

/-- Where each call costs no more than it adds to its task, the tasks cover the cost. -/
theorem paid_reaches (cost : ω → Nat) (weight : ι → γ → Nat)
    (discipline : Discipline sys allowed post invariant means)
    (pays : ∀ {world world' owner known c answer}, invariant world → means world owner known →
      allowed owner known c → sys.serves owner world c answer world' →
      cost world' + weight owner known ≤ cost world + weight owner (sys.learn owner known c answer))
    (order : InOrder sys allowed post invariant means pool) (reaches : Reaches sys pool pool')
    (start : cost pool.world ≤ (pool.tasks.map fun task => weight task.owner task.known).sum) :
    cost pool'.world ≤ (pool'.tasks.map fun task => weight task.owner task.known).sum := by
  induction reaches with
  | refl => exact start
  | tail before step ih =>
    have order := inOrder_reaches discipline order before
    cases step with
    | spawn pool owner =>
      simp only [List.map_append, List.sum_append]
      exact Nat.le_add_right_of_le ih
    | @advance world world' before after owner c next known answer served =>
      obtain ⟨fact, may, _⟩ := order.moving
      have paid : cost world' + weight owner known ≤
          cost world + weight owner (sys.learn owner known c answer) := pays order.world fact may served
      simp only [List.map_append, List.map_cons, List.sum_append, List.sum_cons] at ih ⊢
      omega

/-- Where the tasks hold no more than one in all, a task that holds one is alone. -/
theorem alone_of_sum_le (weight : ι → γ → Nat) {before after : List (Task S ι γ α)}
    {task other : Task S ι γ α}
    (bound : ((before ++ task :: after).map fun task => weight task.owner task.known).sum ≤ 1)
    (holds : 1 ≤ weight task.owner task.known) (elsewhere : other ∈ before ++ after) :
    weight other.owner other.known = 0 := by
  simp only [List.map_append, List.map_cons, List.sum_append, List.sum_cons] at bound
  rcases List.mem_append.mp elsewhere with left | right
  · obtain ⟨first, second, rfl⟩ := List.append_of_mem left
    simp only [List.map_append, List.map_cons, List.sum_append, List.sum_cons] at bound
    omega
  · obtain ⟨first, second, rfl⟩ := List.append_of_mem right
    simp only [List.map_append, List.map_cons, List.sum_append, List.sum_cons] at bound
    omega

/-- Where each new entry of a log is backed by the task that makes it, all are backed. -/
theorem backed_reaches {ε : Type} (log : ω → List ε) (backs : ε → ι → γ → Prop)
    (discipline : Discipline sys allowed post invariant means)
    (grows : ∀ {world world' owner known c answer}, invariant world → means world owner known →
      allowed owner known c → sys.serves owner world c answer world' →
      ∀ entry ∈ log world', entry ∈ log world ∨ backs entry owner (sys.learn owner known c answer))
    (lasts : ∀ {owner known c} {answer : S.Answer c} {entry}, backs entry owner known →
      backs entry owner (sys.learn owner known c answer))
    (order : InOrder sys allowed post invariant means pool) (reaches : Reaches sys pool pool')
    (start : ∀ entry ∈ log pool.world, ∃ task ∈ pool.tasks, backs entry task.owner task.known) :
    ∀ entry ∈ log pool'.world, ∃ task ∈ pool'.tasks, backs entry task.owner task.known := by
  induction reaches with
  | refl => exact start
  | tail reached step ih =>
    have order := inOrder_reaches discipline order reached
    intro entry member
    cases step with
    | spawn pool owner =>
      obtain ⟨task, old, backing⟩ := ih entry member
      exact ⟨task, List.mem_append_left _ old, backing⟩
    | @advance world world' before after owner c next known answer served =>
      obtain ⟨fact, may, _⟩ := order.moving
      rcases grows order.world fact may served entry member with old | new
      · obtain ⟨task, there, backing⟩ := ih entry old
        rcases List.mem_append.mp there with left | right
        · exact ⟨task, List.mem_append_left _ left, backing⟩
        · rcases List.mem_cons.mp right with rfl | right
          · exact ⟨_, List.mem_append_right _ (.head _), lasts backing⟩
          · exact ⟨task, List.mem_append_right _ (.tail _ right), backing⟩
      · exact ⟨_, List.mem_append_right _ (.head _), new⟩

/-- What the world keeps from some moment on, every task started since learns of it. -/
theorem since_reaches (floor : ω → Prop) (since : ι → γ → Prop)
    (discipline : Discipline sys allowed post invariant means)
    (keeps : ∀ {world world' owner known c answer}, invariant world → means world owner known →
      allowed owner known c → sys.serves owner world c answer world' → floor world → floor world')
    (fresh : ∀ owner, since owner sys.fresh)
    (learns : ∀ {world world' owner known c answer}, means world owner known →
      sys.serves owner world c answer world' → floor world →
      since owner known → since owner (sys.learn owner known c answer))
    (order : InOrder sys allowed post invariant means pool) (holds : floor pool.world)
    (reaches : Reaches sys pool pool') : floor pool'.world ∧ ∀ i task,
      pool'.tasks[i]? = some task → pool.tasks.length ≤ i → since task.owner task.known := by
  induction reaches with
  | refl =>
    refine ⟨holds, fun i task there beyond => ?_⟩
    rw [List.getElem?_eq_none beyond] at there
    contradiction
  | tail reached step ih =>
    have order := inOrder_reaches discipline order reached
    obtain ⟨holds, told⟩ := ih
    cases step with
    | spawn pool owner =>
      refine ⟨holds, fun i task there beyond => ?_⟩
      rw [List.getElem?_append] at there
      split at there
      · exact told i task there beyond
      · rw [List.getElem?_singleton] at there
        split at there
        · obtain rfl := Option.some.inj there
          exact fresh owner
        · contradiction
    | @advance world world' before after owner c next known answer served =>
      obtain ⟨fact, may, _⟩ := order.moving
      refine ⟨keeps order.world fact may served holds, fun i task there beyond => ?_⟩
      have earlier (other) (same : (before ++ ⟨owner, .call c next, known⟩ :: after)[i]? = some other) :
          since other.owner other.known := told i other same beyond
      rw [List.getElem?_append] at there earlier
      split at there
      · exact earlier task (by rwa [if_pos ‹_›])
      · rw [if_neg ‹_›, List.getElem?_cons] at earlier
        rw [List.getElem?_cons] at there
        split at there
        · obtain rfl := Option.some.inj there
          exact learns fact served holds (earlier _ (if_pos ‹_›))
        · exact earlier task (by rwa [if_neg ‹_›])

end Discipline

/-! ## Runs under a condition -/

/-- The steps in which the moving task makes its call in a world that meets the condition,
given what the task knows. -/
inductive StepWhen (meets : ω → ι → γ → S.Call → Prop) :
    Pool S ι γ α ω → Pool S ι γ α ω → Prop where
  | spawn (pool) (owner : ι) :
      StepWhen meets pool { pool with tasks := pool.tasks ++ [⟨owner, sys.start owner, sys.fresh⟩] }
  | advance {world world'} {before after} {owner} {c} {next} {known} {answer}
      (served : sys.serves owner world c answer world') (fits : meets world owner known c) :
      StepWhen meets ⟨world, before ++ ⟨owner, .call c next, known⟩ :: after⟩
        ⟨world', before ++ ⟨owner, next answer, sys.learn owner known c answer⟩ :: after⟩

def ReachesWhen (meets : ω → ι → γ → S.Call → Prop) :
    Pool S ι γ α ω → Pool S ι γ α ω → Prop := Relation.ReflTransGen (StepWhen sys meets)

section Condition
variable {sys} {meets : ω → ι → γ → S.Call → Prop} {pool pool' : Pool S ι γ α ω}

theorem StepWhen.step (step : StepWhen sys meets pool pool') : Step sys pool pool' := by
  cases step with
  | spawn pool owner => exact .spawn pool owner
  | advance served _ => exact .advance served

theorem ReachesWhen.reaches (reaches : ReachesWhen sys meets pool pool') : Reaches sys pool pool' :=
  Relation.ReflTransGen.mono (fun _ _ => StepWhen.step) _ _ reaches

/-- What every step from a pool in order keeps, a run under the condition keeps. -/
theorem ReachesWhen.keeps {good : Pool S ι γ α ω → Prop} (fact : ω → Prop)
    (stays : ∀ {pool pool'}, good pool → StepWhen sys meets pool pool' → good pool')
    (keeps : ∀ {pool pool'}, good pool → StepWhen sys meets pool pool' → fact pool.world →
      fact pool'.world)
    (start : good pool) (reaches : ReachesWhen sys meets pool pool') (holds : fact pool.world) :
    good pool' ∧ fact pool'.world := by
  induction reaches with
  | refl => exact ⟨start, holds⟩
  | tail _ step ih => exact ⟨stays ih.1 step, keeps ih.1 step ih.2⟩

end Condition

/-! ## Schedules -/

/-- Let one task make its next call of a server, which may see who calls. -/
def Pool.turn (serve : ι → Server S ω) (pool : Pool S ι γ α ω) (turn : Nat) : Pool S ι γ α ω :=
  match pool.tasks[turn]? with
  | some ⟨owner, .call c next, known⟩ =>
    ⟨(serve owner c pool.world).2, pool.tasks.set turn
      ⟨owner, next (serve owner c pool.world).1, sys.learn owner known c (serve owner c pool.world).1⟩⟩
  | _ => pool

/-- Start the tasks of these owners, and let them move in the order of the schedule. -/
def Pool.turns (serve : ι → Server S ω) (world : ω) (owners : List ι) (schedule : List Nat) :
    Pool S ι γ α ω :=
  schedule.foldl (Pool.turn sys serve)
    ⟨world, owners.map fun owner => ⟨owner, sys.start owner, sys.fresh⟩⟩

section Schedules
variable {sys} {serve : ι → Server S ω}

theorem reaches_turn (serves : ∀ owner world c,
      sys.serves owner world c (serve owner c world).1 (serve owner c world).2)
    (pool : Pool S ι γ α ω) (turn : Nat) : Reaches sys pool (pool.turn sys serve turn) := by
  rw [Pool.turn]
  split
  · rename_i owner c next known found
    obtain ⟨bound, same⟩ := List.getElem?_eq_some_iff.mp found
    have split : pool.tasks = pool.tasks.take turn ++ ⟨owner, .call c next, known⟩ ::
        pool.tasks.drop (turn + 1) := by
      rw [← same, List.getElem_cons_drop, List.take_append_drop]
    have moved : Step sys ⟨pool.world, pool.tasks.take turn ++ ⟨owner, .call c next, known⟩ ::
          pool.tasks.drop (turn + 1)⟩ ⟨(serve owner c pool.world).2, pool.tasks.take turn ++
          ⟨owner, next (serve owner c pool.world).1, sys.learn owner known c (serve owner c pool.world).1⟩ ::
          pool.tasks.drop (turn + 1)⟩ := .advance (serves owner pool.world c)
    rw [← split] at moved
    rw [List.set_eq_take_append_cons_drop, if_pos bound]
    exact .single moved
  · exact .refl

theorem reaches_schedule (serves : ∀ owner world c,
      sys.serves owner world c (serve owner c world).1 (serve owner c world).2)
    (pool : Pool S ι γ α ω) (schedule : List Nat) :
    Reaches sys pool (schedule.foldl (Pool.turn sys serve) pool) := by
  induction schedule generalizing pool with
  | nil => exact .refl
  | cons turn rest ih => exact (reaches_turn serves pool turn).trans (ih _)

theorem reaches_spawn (pool : Pool S ι γ α ω) (owners : List ι) :
    Reaches sys pool ⟨pool.world,
      pool.tasks ++ owners.map fun owner => ⟨owner, sys.start owner, sys.fresh⟩⟩ := by
  induction owners generalizing pool with
  | nil =>
    rw [List.map_nil, List.append_nil]
    exact .refl
  | cons owner rest ih =>
    have later := ih ⟨pool.world, pool.tasks ++ [⟨owner, sys.start owner, sys.fresh⟩]⟩
    rw [List.append_assoc] at later
    exact .head (.spawn pool owner) later

/-- Every schedule is a run. -/
theorem reaches_turns (serves : ∀ owner world c,
      sys.serves owner world c (serve owner c world).1 (serve owner c world).2)
    (world : ω) (owners : List ι) (schedule : List Nat) :
    Reaches sys ⟨world, []⟩ (Pool.turns sys serve world owners schedule) :=
  (reaches_spawn ⟨world, []⟩ owners).trans (reaches_schedule serves _ schedule)

end Schedules
end Async
