import OrchidApi.AsyncPool

/-! Programs that make their calls as calls of a wider signature, and the knowledge that guards
them there: what is known with the narrow calls is read off what is known with the wide ones. -/
namespace Async.Prog

variable {S : Signature} {D : Type} {Q : D → Type} {γ δ α : Type}

/-- Every call is made as another, whose answer is read as its own. -/
def via (call : S.Call → D) (reply : (c : S.Call) → Except S.Exn (Q (call c)) → S.Answer c) :
    Prog S α → Prog ⟨D, Q, S.Exn⟩ α
  | ret value => ret value
  | raise error => raise error
  | Prog.call c next => Prog.call (call c) fun answer => (next (reply c answer)).via call reply

section Bind
variable {β : Type} {call : S.Call → D} {reply : (c : S.Call) → Except S.Exn (Q (call c)) → S.Answer c}

theorem via_attempt {p : Prog S α} {k : Except S.Exn α → Prog S β} :
    (p.attempt k).via call reply = (p.via call reply).attempt fun outcome => (k outcome).via call reply := by
  induction p with
  | ret | raise => rfl
  | call c next ih => exact congrArg (Prog.call (S := ⟨D, Q, S.Exn⟩) (call c)) (funext fun answer => ih _)

theorem via_bind {p : Prog S α} {f : α → Prog S β} :
    (p >>= f).via call reply = p.via call reply >>= fun value => (f value).via call reply := by
  refine via_attempt.trans (congrArg _ (funext fun outcome => ?_))
  cases outcome <;> rfl

end Bind

section Guarded
variable {allowed : γ → S.Call → Prop} {learn : γ → (c : S.Call) → S.Answer c → γ}
  {post : γ → Except S.Exn α → Prop} {p : Prog S α} {known : γ}

/-- Which calls a program makes at all may be joined to what it knows when it makes them. -/
theorem guarded_uses {ok : S.Call → Prop} (guarded : p.Guarded allowed learn post known) (uses : p.Uses ok) :
    p.Guarded (fun known c => allowed known c ∧ ok c) learn post known := by
  induction p generalizing known with
  | ret | raise => exact guarded
  | call c next ih =>
    exact ⟨⟨guarded.1, uses.1⟩, fun answer => ih answer (guarded.2 answer) (uses.2 answer)⟩

/-- The knowledge of the narrow calls carries over where each wide call keeps the two related. -/
theorem guarded_via {call : S.Call → D} {reply : (c : S.Call) → Except S.Exn (Q (call c)) → S.Answer c}
    {wide : δ → D → Prop} {hear : δ → (c : D) → Except S.Exn (Q c) → δ}
    {last : δ → Except S.Exn α → Prop} {R : δ → γ → Prop} {heard : δ}
    (guarded : p.Guarded allowed learn post known) (start : R heard known)
    (allows : ∀ heard known c, R heard known → allowed known c → wide heard (call c))
    (learns : ∀ heard known c answer, R heard known → allowed known c →
      R (hear heard (call c) answer) (learn known c (reply c answer)))
    (ends : ∀ heard known outcome, R heard known → post known outcome → last heard outcome) :
    Guarded (S := ⟨D, Q, S.Exn⟩) wide hear last (p.via call reply) heard := by
  induction p generalizing known heard with
  | ret value => exact ends _ _ _ start guarded
  | raise error => exact ends _ _ _ start guarded
  | call c next ih =>
    refine ⟨allows _ _ c start guarded.1, fun answer => ?_⟩
    exact ih _ (guarded.2 _) (learns _ _ c answer start guarded.1)

end Guarded
end Async.Prog
