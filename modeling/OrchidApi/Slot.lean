import Mathlib.Data.List.Forall2

/-! One slot of a store over a history of entries, each of which may set, change or clear
it: where the value it holds comes from. -/
namespace Slot

variable {ε ρ δ : Type}

inductive Effect (ρ δ : Type) where
  | set (value : ρ)
  | change (patch : δ)
  | clear
  | keep

namespace Effect

def apply (patched : ρ → δ → ρ) (held : Option ρ) : Effect ρ δ → Option ρ
  | set value => some value
  | change patch => held.map (patched · patch)
  | clear => none
  | keep => held

/-- The value, if there is one, is still the one set before. -/
def Quiet : Effect ρ δ → Prop
  | change _ | keep => True
  | set _ | clear => False

def patch? : Effect ρ δ → Option δ
  | change patch => some patch
  | _ => none

end Effect

/-- The value was set by an entry of the history, and has only been changed since. -/
structure Origin (acts : ε → Effect ρ δ → Prop) (patched : ρ → δ → ρ) (history : List ε) (value : ρ)
    (early : List ε) (entry : ε) (first : ρ) (late : List ε) (effects : List (Effect ρ δ)) : Prop where
  split : history = early ++ entry :: late
  sets : acts entry (.set first)
  acted : List.Forall₂ acts late effects
  quiet : ∀ effect ∈ effects, effect.Quiet
  value : value = (effects.filterMap Effect.patch?).foldl patched first

def HasOrigin (acts : ε → Effect ρ δ → Prop) (patched : ρ → δ → ρ) (history : List ε) (value : ρ) : Prop :=
  ∃ early entry first late effects, Origin acts patched history value early entry first late effects

variable {acts : ε → Effect ρ δ → Prop} {patched : ρ → δ → ρ} {history : List ε}

theorem Origin.extend {value : ρ} {early late : List ε} {entry next : ε} {first : ρ}
    {effects : List (Effect ρ δ)} {effect : Effect ρ δ}
    (origin : Origin acts patched history value early entry first late effects)
    (act : acts next effect) (quiet : effect.Quiet) :
    Origin acts patched (history ++ [next]) ((effect.patch?.toList).foldl patched value)
      early entry first (late ++ [next]) (effects ++ [effect]) where
  split := by rw [origin.split]; simp
  sets := origin.sets
  acted := List.rel_append origin.acted (.cons act .nil)
  quiet := by
    intro other member
    rcases List.mem_append.mp member with old | new
    · exact origin.quiet other old
    · rw [List.mem_singleton.mp new]
      exact quiet
  value := by
    rw [origin.value, List.filterMap_append, List.foldl_append]
    cases effect <;> rfl

/-- An entry that sets the slot is the origin; one that keeps it passes the origin on. -/
theorem origin_step {held : Option ρ} {entry : ε} {effect : Effect ρ δ} (act : acts entry effect)
    (origins : ∀ value, held = some value → HasOrigin acts patched history value) {value : ρ}
    (holds : effect.apply patched held = some value) :
    HasOrigin acts patched (history ++ [entry]) value := by
  cases effect with
  | set first =>
    obtain rfl := Option.some.inj holds
    exact ⟨history, entry, _, [], [], rfl, act, .nil, fun _ none => absurd none List.not_mem_nil, rfl⟩
  | change patch =>
    obtain ⟨earlier, before, rfl⟩ := Option.map_eq_some_iff.mp holds
    obtain ⟨early, setter, first, late, effects, origin⟩ := origins earlier before
    exact ⟨early, setter, first, _, _, origin.extend act trivial⟩
  | clear => contradiction
  | keep =>
    obtain ⟨early, setter, first, late, effects, origin⟩ := origins value holds
    exact ⟨early, setter, first, _, _, origin.extend act trivial⟩

/-- What an entry after the origin did to the slot. -/
theorem Origin.quiet_acts {value : ρ} {early late : List ε} {entry : ε} {first : ρ}
    {effects : List (Effect ρ δ)}
    (origin : Origin acts patched history value early entry first late effects) {later : ε}
    (member : later ∈ late) : ∃ effect, acts later effect ∧ effect.Quiet := by
  have acted := origin.acted
  have quiet := origin.quiet
  clear origin
  induction acted with
  | nil => contradiction
  | @cons head effect _ _ act rest ih =>
    rcases List.mem_cons.mp member with rfl | inside
    · exact ⟨effect, act, quiet effect (.head _)⟩
    · exact ih inside fun other later => quiet other (.tail _ later)

end Slot
