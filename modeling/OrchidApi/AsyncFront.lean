import Mathlib.Data.List.Perm.Basic
import OrchidApi.AsyncPool

/-! Programs that first find out whom they serve. A pool of them refines a pool of what they
run then, in which it is known from the start whom each task serves. -/
namespace Async

variable {S : Signature} {C : Type} {R : C → Type} {ι κ γ δ α υ ω : Type}

/-- The signature with other calls in front. -/
abbrev Signature.fronted (S : Signature) (C : Type) (R : C → Type) : Signature :=
  ⟨C ⊕ S.Call, Sum.elim R S.Reply, S.Exn⟩

namespace Prog

/-- The program, which makes no call in front. -/
def behind : Prog S α → Prog (S.fronted C R) α
  | ret value => ret value
  | raise error => raise error
  | call c next => call (.inr c) fun answer => (next answer).behind

/-- Find out whom to serve, and go on with what serves them. -/
def fronting (front : Prog (S.fronted C R) κ) (rest : κ → Prog S α) : Prog (S.fronted C R) α :=
  front >>= fun who => (rest who).behind

/-- What guards a program guards it behind. -/
theorem guarded_behind {allowed : γ → (S.fronted C R).Call → Prop}
    {learn : γ → (c : (S.fronted C R).Call) → (S.fronted C R).Answer c → γ}
    {post : γ → Except S.Exn α → Prop} {p : Prog S α} {known : γ}
    (guarded : p.Guarded (fun fact c => allowed fact (.inr c))
      (fun fact c answer => learn fact (.inr c) answer) post known) :
    (p.behind : Prog (S.fronted C R) α).Guarded allowed learn post known := by
  induction p generalizing known with
  | ret value => exact guarded
  | raise error => exact guarded
  | call c next ih => exact ⟨guarded.1, fun answer => ih answer (guarded.2 answer)⟩

end Prog

/-- The tasks of the first system find out for whom the tasks of the second are. -/
def System.before (front : System (S.fronted C R) ι δ κ υ) (sys : System S κ γ α ω) :
    System (S.fronted C R) ι δ α υ where
  start owner := (front.start owner).fronting sys.start
  fresh := front.fresh
  learn := front.learn
  serves := front.serves

variable (front : System (S.fronted C R) ι δ κ υ) (sys : System S κ γ α ω)
  (attests : ι → δ → κ → γ → Prop) (refuses : ι → δ → S.Exn → Prop) (related : υ → ω → Prop)

/-- How a front program may end: whom it serves has heard nothing yet. -/
def Settles (owner : ι) (known : δ) : Except S.Exn κ → Prop
  | .ok who => attests owner known who sys.fresh
  | .error error => refuses owner known error

/-- The front programs make no other calls, each of theirs leaves the inner world as it is,
and the other calls are served as in the inner world, whoever it is that they serve. -/
structure Fronts : Prop where
  starts : ∀ owner, (front.start owner).Guarded (fun _ c => Sum.isLeft c = true) (front.learn owner)
    (Settles (S := S) sys attests refuses owner) front.fresh
  aside : ∀ {owner world inner} {c : C} {answer world'}, related world inner →
    front.serves owner world (.inl c) answer world' → related world' inner
  passes : ∀ {owner world inner} {c : S.Call} {answer world'} who, related world inner →
    front.serves owner world (.inr c) answer world' →
    ∃ inner', sys.serves who inner c answer inner' ∧ related world' inner'
  lasts : ∀ {owner known who fact} {c : S.Call} {answer}, attests owner known who fact →
    attests owner (front.learn owner known (.inr c) answer) who (sys.learn who fact c answer)

/-- The task has not found out yet, or never will. -/
def InFront (task : Task (S.fronted C R) ι δ α) : Prop :=
  ∃ p : Prog (S.fronted C R) κ, task.prog = p.fronting sys.start ∧ (∀ who, p ≠ .ret who) ∧
    p.Guarded (fun _ c => Sum.isLeft c = true) (front.learn task.owner)
      (Settles (S := S) sys attests refuses task.owner) task.known

/-- The task is an inner one, for someone that it attests with what both have heard. -/
structure Behind (task : Task (S.fronted C R) ι δ α) (inner : Task S κ γ α) : Prop where
  prog : task.prog = inner.prog.behind
  attested : attests task.owner task.known inner.owner inner.known

/-- The inner tasks of those that have found out, in their order. -/
inductive Matched : List (Task (S.fronted C R) ι δ α) → List (Task S κ γ α) → Prop where
  | nil : Matched [] []
  | front {task tasks inner} (first : InFront front sys attests refuses task) (rest : Matched tasks inner) :
      Matched (task :: tasks) inner
  | behind {task tasks u inner} (first : Behind attests task u) (rest : Matched tasks inner) :
      Matched (task :: tasks) (u :: inner)

structure Refined (pool : Pool (S.fronted C R) ι δ α υ) (inner : Pool S κ γ α ω) : Prop where
  world : related pool.world inner.world
  tasks : ∃ tasks, Matched front sys attests refuses pool.tasks tasks ∧ inner.tasks.Perm tasks

section Refinement
variable {front} {sys} {attests} {refuses} {related} {pool pool' : Pool (S.fronted C R) ι δ α υ}
  {inner : Pool S κ γ α ω}

theorem Matched.append {first second : List (Task (S.fronted C R) ι δ α)} {left right}
    (head : Matched front sys attests refuses first left)
    (tail : Matched front sys attests refuses second right) :
    Matched front sys attests refuses (first ++ second) (left ++ right) := by
  induction head with
  | nil => exact tail
  | front first _ ih => exact .front first ih
  | behind first _ ih => exact .behind first ih

theorem Matched.split {before after : List (Task (S.fronted C R) ι δ α)} {task} {tasks}
    (matched : Matched front sys attests refuses (before ++ task :: after) tasks) :
    ∃ left right, Matched front sys attests refuses before left ∧
      Matched front sys attests refuses after right ∧
      ((InFront front sys attests refuses task ∧ tasks = left ++ right) ∨
        ∃ u, Behind attests task u ∧ tasks = left ++ u :: right) := by
  induction before generalizing tasks with
  | nil =>
    cases matched with
    | front first rest => exact ⟨[], _, .nil, rest, .inl ⟨first, rfl⟩⟩
    | behind first rest => exact ⟨[], _, .nil, rest, .inr ⟨_, first, rfl⟩⟩
  | cons other before ih =>
    cases matched with
    | front first rest =>
      obtain ⟨left, right, head, tail, stands⟩ := ih rest
      exact ⟨left, right, .front first head, tail, stands⟩
    | @behind _ _ u _ first rest =>
      obtain ⟨left, right, head, tail, ⟨waits, rfl⟩ | ⟨v, serves, rfl⟩⟩ := ih rest
      · exact ⟨u :: left, right, .behind first head, tail, .inl ⟨waits, rfl⟩⟩
      · exact ⟨u :: left, right, .behind first head, tail, .inr ⟨v, serves, rfl⟩⟩

/-- A task that has just moved in front: it stays there, or an inner task starts. -/
theorem Refined.settle {world : υ} {before after : List (Task (S.fronted C R) ι δ α)} {left right}
    {owner : ι} {known : δ} {p : Prog (S.fronted C R) κ} (rel : related world inner.world)
    (guarded : p.Guarded (fun _ c => Sum.isLeft c = true) (front.learn owner)
      (Settles (S := S) sys attests refuses owner) known)
    (head : Matched front sys attests refuses before left)
    (tail : Matched front sys attests refuses after right)
    (perm : inner.tasks.Perm (left ++ right)) :
    ∃ inner', Reaches sys inner inner' ∧ Refined front sys attests refuses related
      ⟨world, before ++ ⟨owner, p.fronting sys.start, known⟩ :: after⟩ inner' := by
  have waits (undecided : ∀ who, p ≠ .ret who) : ∃ inner', Reaches sys inner inner' ∧
      Refined front sys attests refuses related
        ⟨world, before ++ ⟨owner, p.fronting sys.start, known⟩ :: after⟩ inner' :=
    ⟨inner, .refl, rel, _, head.append (.front ⟨p, rfl, undecided, guarded⟩ tail), perm⟩
  cases p with
  | raise error => exact waits nofun
  | call c next => exact waits nofun
  | ret who =>
    refine ⟨_, .single (.spawn inner who), rel, _,
      head.append (.behind (u := ⟨who, sys.start who, sys.fresh⟩) ⟨rfl, guarded⟩ tail), ?_⟩
    exact (List.perm_append_singleton _ _).trans ((perm.cons _).trans List.perm_middle.symm)

/-- A call behind is a call of the inner task. -/
theorem Refined.pass (fronts : Fronts front sys attests refuses related) {world world' : υ}
    {before after : List (Task (S.fronted C R) ι δ α)} {left right} {owner : ι} {known : δ}
    {who : κ} {fact : γ} {c : S.Call} {next : S.Answer c → Prog S α}
    {answer : (S.fronted C R).Answer (.inr c)} (rel : related world inner.world)
    (attested : attests owner known who fact) (served : front.serves owner world (.inr c) answer world')
    (head : Matched front sys attests refuses before left)
    (tail : Matched front sys attests refuses after right)
    (perm : inner.tasks.Perm (left ++ ⟨who, .call c next, fact⟩ :: right)) :
    ∃ inner', Reaches sys inner inner' ∧ Refined front sys attests refuses related
      ⟨world', before ++ ⟨owner, (next answer).behind, front.learn owner known (.inr c) answer⟩ :: after⟩
      inner' := by
  obtain ⟨world'', behind, rel'⟩ := fronts.passes who rel served
  have member : ⟨who, .call c next, fact⟩ ∈ inner.tasks := perm.mem_iff.mpr (by simp)
  obtain ⟨first, second, there⟩ := List.append_of_mem member
  obtain ⟨_, tasks⟩ := inner
  obtain rfl : tasks = _ := there
  refine ⟨_, .single (.advance behind), rel', _, head.append
    (.behind (u := ⟨who, next answer, sys.learn who fact c answer⟩) ⟨rfl, fronts.lasts attested⟩ tail), ?_⟩
  have others : (first ++ second).Perm (left ++ right) :=
    (List.perm_middle.symm.trans (perm.trans List.perm_middle)).cons_inv
  exact List.perm_middle.trans ((others.cons _).trans List.perm_middle.symm)

theorem refined_step (fronts : Fronts front sys attests refuses related)
    (refined : Refined front sys attests refuses related pool inner)
    (step : Step (front.before sys) pool pool') :
    ∃ inner', Reaches sys inner inner' ∧ Refined front sys attests refuses related pool' inner' := by
  obtain ⟨rel, tasks, matched, perm⟩ := refined
  cases step with
  | spawn pool owner =>
    exact Refined.settle rel (fronts.starts owner) matched .nil (by simpa using perm)
  | @advance world world' before after owner c next known answer served =>
    obtain ⟨left, right, head, tail, stands⟩ := matched.split
    rcases stands with ⟨⟨p, same, undecided, guarded⟩, rfl⟩ | ⟨⟨who, prog, fact⟩, ⟨same, attested⟩, rfl⟩
    · cases p with
      | ret who => exact absurd rfl (undecided who)
      | raise error => contradiction
      | call ahead rest =>
        cases same
        obtain ⟨isLeft, continues⟩ := guarded
        cases c with
        | inr c => contradiction
        | inl c => exact Refined.settle (fronts.aside rel served) (continues answer) head tail perm
    · cases prog with
      | ret value => contradiction
      | raise error => contradiction
      | call inside rest =>
        cases same
        exact Refined.pass fronts rel attested served head tail perm

/-- Any interleaving is one of the inner system. -/
theorem refined_reaches (fronts : Fronts front sys attests refuses related)
    (refined : Refined front sys attests refuses related pool inner)
    (reaches : Reaches (front.before sys) pool pool') :
    ∃ inner', Reaches sys inner inner' ∧ Refined front sys attests refuses related pool' inner' := by
  induction reaches with
  | refl => exact ⟨inner, .refl, refined⟩
  | tail _ step ih =>
    obtain ⟨middle, reached, refined⟩ := ih
    obtain ⟨inner', further, refined'⟩ := refined_step fronts refined step
    exact ⟨inner', reached.trans further, refined'⟩

theorem Matched.member {tasks : List (Task (S.fronted C R) ι δ α)} {inner} {task}
    (matched : Matched front sys attests refuses tasks inner) (member : task ∈ tasks) :
    InFront front sys attests refuses task ∨ ∃ u ∈ inner, Behind attests task u := by
  obtain ⟨before, after, rfl⟩ := List.append_of_mem member
  obtain ⟨left, right, _, _, ⟨waits, _⟩ | ⟨u, serves, rfl⟩⟩ := matched.split
  · exact .inl waits
  · exact .inr ⟨u, by simp, serves⟩

theorem Refined.member (refined : Refined front sys attests refuses related pool inner)
    {task : Task (S.fronted C R) ι δ α} (member : task ∈ pool.tasks) :
    InFront front sys attests refuses task ∨ ∃ u ∈ inner.tasks, Behind attests task u := by
  obtain ⟨tasks, matched, perm⟩ := refined.tasks
  rcases matched.member member with waits | ⟨u, there, serves⟩
  · exact .inl waits
  · exact .inr ⟨u, perm.mem_iff.mpr there, serves⟩

theorem Matched.serving {tasks : List (Task (S.fronted C R) ι δ α)} {inner} {u}
    (matched : Matched front sys attests refuses tasks inner) (member : u ∈ inner) :
    ∃ task ∈ tasks, Behind attests task u := by
  induction matched with
  | nil => contradiction
  | front _ _ ih =>
    obtain ⟨task, there, serves⟩ := ih member
    exact ⟨task, .tail _ there, serves⟩
  | behind first _ ih =>
    rcases List.mem_cons.mp member with rfl | later
    · exact ⟨_, .head _, first⟩
    · obtain ⟨task, there, serves⟩ := ih later
      exact ⟨task, .tail _ there, serves⟩

theorem Matched.countP_le {tasks : List (Task (S.fronted C R) ι δ α)} {inner}
    (matched : Matched front sys attests refuses tasks inner) {test : Task S κ γ α → Bool}
    {wider : Task (S.fronted C R) ι δ α → Bool}
    (covers : ∀ task u, Behind attests task u → test u = true → wider task = true) :
    inner.countP test ≤ tasks.countP wider := by
  induction matched with
  | nil => exact Nat.le_refl _
  | front _ _ ih =>
    rw [List.countP_cons]
    exact Nat.le_add_right_of_le ih
  | @behind task _ u _ first _ ih =>
    rw [List.countP_cons, List.countP_cons]
    refine Nat.add_le_add ih ?_
    by_cases counted : test u = true
    · simp only [counted, covers task u first counted, if_true, Nat.le_refl]
    · rw [if_neg counted]
      exact Nat.zero_le _

/-- Nobody is an inner task but for one that attests. -/
theorem Refined.serving (refined : Refined front sys attests refuses related pool inner) {u}
    (member : u ∈ inner.tasks) : ∃ task ∈ pool.tasks, Behind attests task u := by
  obtain ⟨tasks, matched, perm⟩ := refined.tasks
  exact matched.serving (perm.mem_iff.mp member)

theorem Refined.countP_le (refined : Refined front sys attests refuses related pool inner)
    {test : Task S κ γ α → Bool} {wider : Task (S.fronted C R) ι δ α → Bool}
    (covers : ∀ task u, Behind attests task u → test u = true → wider task = true) :
    inner.tasks.countP test ≤ pool.tasks.countP wider := by
  obtain ⟨tasks, matched, perm⟩ := refined.tasks
  rw [perm.countP_eq]
  exact matched.countP_le covers

theorem InFront.calls {task : Task (S.fronted C R) ι δ α} (waits : InFront front sys attests refuses task)
    {c} {next} (calls : task.prog = .call c next) : ∃ ahead : C, c = .inl ahead := by
  obtain ⟨p, same, undecided, guarded⟩ := waits
  rw [same] at calls
  cases p with
  | ret who => exact absurd rfl (undecided who)
  | raise error => contradiction
  | call ahead rest =>
    cases calls
    exact Sum.isLeft_iff.mp guarded.1

/-- Nobody is served by a task that ends in front. -/
theorem InFront.ends {task : Task (S.fronted C R) ι δ α} (waits : InFront front sys attests refuses task)
    {outcome : Except S.Exn α} (ended : task.outcome = some outcome) :
    ∃ error, outcome = .error error ∧ refuses task.owner task.known error := by
  obtain ⟨p, same, undecided, guarded⟩ := waits
  rw [Task.outcome, same] at ended
  cases p with
  | ret who => exact absurd rfl (undecided who)
  | raise error => exact ⟨error, (Option.some.inj ended).symm, guarded⟩
  | call c next => contradiction

theorem Behind.outcome {task : Task (S.fronted C R) ι δ α} {u : Task S κ γ α}
    (serves : Behind attests task u) : task.outcome = u.outcome := by
  obtain ⟨who, prog, fact⟩ := u
  rw [Task.outcome, Task.outcome, serves.prog]
  cases prog <;> rfl

end Refinement
end Async
