import OrchidApi.Async

/-! Contracts of programs against an environment that chooses: what holds when they return,
and what holds when they raise. Nothing is claimed of the answers themselves. -/
namespace Async

variable {S : Signature} {σ α β : Type}

abbrev Assertion (σ : Type) : Type := σ → Prop

/-- From the precondition, a return meets the first assertion and an exception the second. -/
def Contract (serves : σ → (c : S.Call) → S.Answer c → σ → Prop) (pre : Assertion σ) (p : Prog S α)
    (post : α → Assertion σ) (raised : S.Exn → Assertion σ) : Prop :=
  ∀ s outcome final, pre s → Runs serves p s outcome final →
    match outcome with
    | .ok value => post value final
    | .error error => raised error final

variable {serves : σ → (c : S.Call) → S.Answer c → σ → Prop} {pre : Assertion σ}
  {p : Prog S α} {post : α → Assertion σ} {raised : S.Exn → Assertion σ}

namespace Contract

theorem ret {value : α} (holds : ∀ s, pre s → post value s) :
    Contract serves pre (.ret value) post raised := by
  intro s outcome final start run
  obtain ⟨rfl, rfl⟩ := runs_ret_iff.mp run
  exact holds _ start

theorem raise {error : S.Exn} (holds : ∀ s, pre s → raised error s) :
    Contract serves pre (.raise error) post raised := by
  intro s outcome final start run
  obtain ⟨rfl, rfl⟩ := runs_raise_iff.mp run
  exact holds _ start

/-- The rule for a single call. -/
theorem await {c : S.Call} {post : S.Reply c → Assertion σ}
    (returns : ∀ {s reply final}, pre s → serves s c (.ok reply) final → post reply final)
    (raises : ∀ {s error final}, pre s → serves s c (.error error) final → raised error final) :
    Contract serves pre (.await c) post raised := by
  intro s outcome final start run
  have served := runs_await_iff.mp run
  cases outcome with
  | ok reply => exact returns start served
  | error error => exact raises start served

theorem bind {f : α → Prog S β} {result : β → Assertion σ}
    (first : Contract serves pre p post raised)
    (rest : ∀ value, Contract serves (post value) (f value) result raised) :
    Contract serves pre (p >>= f) result raised := by
  intro s outcome final start run
  rcases runs_bind_iff.mp run with ⟨value, middle, head, tail⟩ | ⟨error, rfl, head⟩
  · exact rest value _ _ _ (first _ _ _ start head) tail
  · exact first _ _ _ start head

/-- The rule for `try`. -/
theorem attempt {k : Except S.Exn α → Prog S β} {result : β → Assertion σ}
    {caught : S.Exn → Assertion σ} (first : Contract serves pre p post caught)
    (returned : ∀ value, Contract serves (post value) (k (.ok value)) result raised)
    (handled : ∀ error, Contract serves (caught error) (k (.error error)) result raised) :
    Contract serves pre (p.attempt k) result raised := by
  intro s outcome final start run
  obtain ⟨outcome, middle, head, tail⟩ := runs_attempt_iff.mp run
  cases outcome with
  | ok value => exact returned value _ _ _ (first _ _ _ start head) tail
  | error error => exact handled error _ _ _ (first _ _ _ start head) tail

/-- The rule of consequence. -/
theorem conseq {stronger : Assertion σ} {weaker : α → Assertion σ} {other : S.Exn → Assertion σ}
    (contract : Contract serves pre p post raised) (strengthen : ∀ s, stronger s → pre s)
    (weaken : ∀ value s, post value s → weaker value s)
    (pass : ∀ error s, raised error s → other error s) :
    Contract serves stronger p weaker other := by
  intro s outcome final start run
  have ends := contract _ _ _ (strengthen s start) run
  cases outcome with
  | ok value => exact weaken value final ends
  | error error => exact pass error final ends

theorem ite {q : Prog S α} {condition : Prop} [Decidable condition]
    (yes : condition → Contract serves pre p post raised)
    (no : ¬condition → Contract serves pre q post raised) :
    Contract serves pre (if condition then p else q) post raised := by
  split
  · rename_i holds
    exact yes holds
  · rename_i fails
    exact no fails

end Contract
end Async
