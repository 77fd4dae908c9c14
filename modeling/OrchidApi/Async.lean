import Mathlib.Logic.Basic

/-! Coroutines as finite trees of awaited calls, with exceptions thrown in at the
await. One program has a deterministic execution against a server, a relational one
against an environment that may choose, and a place in a pool of interleaved tasks. -/
namespace Async

/-- What a program can await, the value each await yields, and what can be raised. -/
structure Signature where
  Call : Type
  Reply : Call → Type
  Exn : Type

variable {S : Signature}

abbrev Signature.Answer (S : Signature) (c : S.Call) : Type := Except S.Exn (S.Reply c)

inductive Prog (S : Signature) (α : Type) : Type where
  | ret (value : α)
  | raise (error : S.Exn)
  | call (c : S.Call) (next : S.Answer c → Prog S α)

namespace Prog

/-- `try p` with a continuation for either outcome. -/
def attempt : Prog S α → (Except S.Exn α → Prog S β) → Prog S β
  | ret value, k => k (.ok value)
  | raise error, k => k (.error error)
  | call c next, k => call c fun answer => (next answer).attempt k

def bind (p : Prog S α) (f : α → Prog S β) : Prog S β :=
  p.attempt fun
    | .ok value => f value
    | .error error => raise error

instance : Monad (Prog S) where
  pure := ret
  bind := bind

def await (c : S.Call) : Prog S (S.Reply c) :=
  call c fun
    | .ok value => ret value
    | .error error => raise error

/-- Await one call for each item, in order. -/
def each (f : α → Prog S Unit) : List α → Prog S Unit
  | [] => ret ()
  | item :: rest => f item >>= fun _ => each f rest

theorem bind_eq (p : Prog S α) (f : α → Prog S β) : p >>= f = p.bind f := rfl

@[simp] theorem ret_bind (value : α) (f : α → Prog S β) : ret value >>= f = f value := rfl
@[simp] theorem raise_bind (error : S.Exn) (f : α → Prog S β) :
    (raise error : Prog S α) >>= f = raise error := rfl

end Prog

/-! ## Deterministic execution -/

/-- A server answers each call from its state; an answer may be an exception. -/
abbrev Server (S : Signature) (σ : Type) : Type := (c : S.Call) → σ → S.Answer c × σ

namespace Prog
variable {σ : Type}

def exec (serve : Server S σ) : Prog S α → σ → Except S.Exn α × σ
  | ret value, s => (.ok value, s)
  | raise error, s => (.error error, s)
  | call c next, s => (next (serve c s).1).exec serve (serve c s).2

@[simp] theorem exec_ret (serve : Server S σ) (value : α) (s : σ) :
    (ret value : Prog S α).exec serve s = (.ok value, s) := rfl
@[simp] theorem exec_pure (serve : Server S σ) (value : α) (s : σ) :
    (pure value : Prog S α).exec serve s = (.ok value, s) := rfl
@[simp] theorem exec_raise (serve : Server S σ) (error : S.Exn) (s : σ) :
    (raise error : Prog S α).exec serve s = (.error error, s) := rfl

theorem exec_call (serve : Server S σ) (c : S.Call) (next : S.Answer c → Prog S α) (s : σ) :
    (call c next).exec serve s = (next (serve c s).1).exec serve (serve c s).2 := rfl

/-- The calls that an execution makes, in order. -/
def calls (serve : Server S σ) : Prog S α → σ → List S.Call
  | ret _, _ | raise _, _ => []
  | call c next, s => c :: (next (serve c s).1).calls serve (serve c s).2

theorem exec_attempt (serve : Server S σ) (p : Prog S α) (k : Except S.Exn α → Prog S β) (s : σ) :
    (p.attempt k).exec serve s = (k (p.exec serve s).1).exec serve (p.exec serve s).2 := by
  induction p generalizing s with
  | ret | raise => rfl
  | call c next ih => exact ih _ _

/-- The rule for a step known to succeed. -/
theorem exec_bind_ok {serve : Server S σ} {p : Prog S α} {f : α → Prog S β} {s t : σ} {value : α}
    (first : p.exec serve s = (.ok value, t)) : (p >>= f).exec serve s = (f value).exec serve t := by
  rw [bind_eq, bind, exec_attempt, first]

/-- The rule for a step known to raise. -/
theorem exec_bind_error {serve : Server S σ} {p : Prog S α} {f : α → Prog S β} {s t : σ}
    {error : S.Exn} (first : p.exec serve s = (.error error, t)) :
    (p >>= f).exec serve s = (.error error, t) := by
  rw [bind_eq, bind, exec_attempt, first]; rfl

/-- Awaiting a call is what the server does. -/
theorem exec_await (serve : Server S σ) (c : S.Call) (s : σ) : (await c).exec serve s = serve c s := by
  rw [await, exec_call]
  rcases serve c s with ⟨_ | _, t⟩
  · rfl
  · rfl

theorem calls_await (serve : Server S σ) (c : S.Call) (s : σ) : (await c).calls serve s = [c] := by
  change c :: _ = [c]
  cases (serve c s).1 <;> rfl

theorem calls_attempt (serve : Server S σ) (p : Prog S α) (k : Except S.Exn α → Prog S β) (s : σ) :
    (p.attempt k).calls serve s =
      p.calls serve s ++ (k (p.exec serve s).1).calls serve (p.exec serve s).2 := by
  induction p generalizing s with
  | ret | raise => rfl
  | call c next ih => exact congrArg (c :: ·) (ih _ _)

theorem calls_bind_ok {serve : Server S σ} {p : Prog S α} {f : α → Prog S β} {s t : σ} {value : α}
    (first : p.exec serve s = (.ok value, t)) :
    (p >>= f).calls serve s = p.calls serve s ++ (f value).calls serve t := by
  rw [bind_eq, bind, calls_attempt, first]

theorem calls_bind_error {serve : Server S σ} {p : Prog S α} {f : α → Prog S β} {s t : σ}
    {error : S.Exn} (first : p.exec serve s = (.error error, t)) :
    (p >>= f).calls serve s = p.calls serve s := by
  rw [bind_eq, bind, calls_attempt, first]
  exact List.append_nil _

/-- A loop of calls that never raise folds their effects over the items. -/
theorem exec_each {serve : Server S σ} {f : α → Prog S Unit} {effect : σ → α → σ}
    (step : ∀ item s, (f item).exec serve s = (.ok (), effect s item)) (items : List α) (s : σ) :
    (each f items).exec serve s = (.ok (), items.foldl effect s) := by
  induction items generalizing s with
  | nil => rfl
  | cons item rest ih => exact (exec_bind_ok (step item s)).trans (ih _)

end Prog

/-! ## Execution against an environment that chooses -/

section Relational
variable {σ : Type} (serves : σ → (c : S.Call) → S.Answer c → σ → Prop)

inductive Runs : Prog S α → σ → Except S.Exn α → σ → Prop where
  | ret : Runs (.ret value) s (.ok value) s
  | raise : Runs (.raise error) s (.error error) s
  | call : serves s c answer middle → Runs (next answer) middle outcome final →
      Runs (.call c next) s outcome final

variable {serves}

@[simp] theorem runs_ret_iff {value : α} {s final : σ} {outcome : Except S.Exn α} :
    Runs serves (.ret value) s outcome final ↔ outcome = .ok value ∧ final = s := by
  constructor
  · intro run; cases run; exact ⟨rfl, rfl⟩
  · rintro ⟨rfl, rfl⟩; exact .ret

@[simp] theorem runs_raise_iff {error : S.Exn} {s final : σ} {outcome : Except S.Exn α} :
    Runs serves (.raise error) s outcome final ↔ outcome = .error error ∧ final = s := by
  constructor
  · intro run; cases run; exact ⟨rfl, rfl⟩
  · rintro ⟨rfl, rfl⟩; exact .raise

theorem runs_call_iff {c : S.Call} {next : S.Answer c → Prog S α} {s final : σ}
    {outcome : Except S.Exn α} :
    Runs serves (.call c next) s outcome final ↔
      ∃ answer middle, serves s c answer middle ∧ Runs serves (next answer) middle outcome final := by
  constructor
  · intro run
    cases run with
    | call served rest => exact ⟨_, _, served, rest⟩
  · rintro ⟨_, _, served, rest⟩; exact .call served rest

theorem runs_attempt_iff {p : Prog S α} {k : Except S.Exn α → Prog S β} {s final : σ}
    {outcome : Except S.Exn β} :
    Runs serves (p.attempt k) s outcome final ↔
      ∃ first middle, Runs serves p s first middle ∧ Runs serves (k first) middle outcome final := by
  induction p generalizing s with
  | ret value =>
    constructor
    · intro run; exact ⟨.ok value, s, .ret, run⟩
    · rintro ⟨_, _, head, tail⟩
      obtain ⟨rfl, rfl⟩ := runs_ret_iff.mp head
      exact tail
  | raise error =>
    constructor
    · intro run; exact ⟨.error error, s, .raise, run⟩
    · rintro ⟨_, _, head, tail⟩
      obtain ⟨rfl, rfl⟩ := runs_raise_iff.mp head
      exact tail
  | call c next ih =>
    simp only [Prog.attempt, runs_call_iff, ih]
    constructor
    · rintro ⟨answer, middle, served, first, inner, head, tail⟩
      exact ⟨first, inner, ⟨answer, middle, served, head⟩, tail⟩
    · rintro ⟨first, inner, ⟨answer, middle, served, head⟩, tail⟩
      exact ⟨answer, middle, served, first, inner, head, tail⟩

/-- A bind either finishes its first part and goes on, or passes its exception up. -/
theorem runs_bind_iff {p : Prog S α} {f : α → Prog S β} {s final : σ}
    {outcome : Except S.Exn β} :
    Runs serves (p >>= f) s outcome final ↔
      (∃ value middle, Runs serves p s (.ok value) middle ∧
        Runs serves (f value) middle outcome final) ∨
      (∃ error, outcome = .error error ∧ Runs serves p s (.error error) final) := by
  rw [Prog.bind_eq, Prog.bind, runs_attempt_iff]
  constructor
  · rintro ⟨first, middle, head, tail⟩
    cases first with
    | ok value => exact .inl ⟨value, middle, head, tail⟩
    | error error =>
      obtain ⟨rfl, rfl⟩ := runs_raise_iff.mp tail
      exact .inr ⟨error, rfl, head⟩
  · rintro (⟨value, middle, head, tail⟩ | ⟨error, rfl, head⟩)
    · exact ⟨.ok value, middle, head, tail⟩
    · exact ⟨.error error, final, head, .raise⟩

theorem runs_bind_ok_iff {p : Prog S α} {f : α → Prog S β} {s final : σ} {result : β} :
    Runs serves (p >>= f) s (.ok result) final ↔
      ∃ value middle, Runs serves p s (.ok value) middle ∧
        Runs serves (f value) middle (.ok result) final := by
  rw [runs_bind_iff]
  constructor
  · rintro (whole | ⟨_, raised, _⟩)
    · exact whole
    · cases raised
  · exact .inl

theorem runs_await_iff {c : S.Call} {s final : σ} {outcome : S.Answer c} :
    Runs serves (Prog.await c) s outcome final ↔ serves s c outcome final := by
  rw [Prog.await, runs_call_iff]
  constructor
  · rintro ⟨answer, middle, served, rest⟩
    cases answer <;> simp_all
  · intro served
    refine ⟨outcome, final, served, ?_⟩
    cases outcome <;> simp

end Relational
end Async
