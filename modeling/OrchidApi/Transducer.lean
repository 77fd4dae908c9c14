import Mathlib.Data.List.Basic

/-! Deterministic machines that consume a finite list of inputs and emit outputs. -/
namespace Transducer

variable {σ ι ο : Type} (step : σ → ι → σ × List ο)

def run : σ → List ι → σ × List ο
  | s, [] => (s, [])
  | s, input :: rest =>
    ((run (step s input).1 rest).1, (step s input).2 ++ (run (step s input).1 rest).2)

@[simp] theorem run_nil (s : σ) : run step s [] = (s, []) := rfl

theorem run_append (s : σ) (first second : List ι) :
    run step s (first ++ second) =
      ((run step (run step s first).1 second).1,
        (run step s first).2 ++ (run step (run step s first).1 second).2) := by
  induction first generalizing s with
  | nil => rfl
  | cons input rest ih => simp [run, ih]

theorem run_concat (s : σ) (inputs : List ι) (last : ι) :
    run step s (inputs ++ [last]) =
      ((step (run step s inputs).1 last).1,
        (run step s inputs).2 ++ (step (run step s inputs).1 last).2) := by
  simp [run_append, run]

variable {step}

/-- What each input of the list preserves, the whole run preserves. -/
theorem run_keeps {invariant : σ → Prop} {inputs : List ι}
    (keeps : ∀ s, ∀ input ∈ inputs, invariant s → invariant (step s input).1)
    {s : σ} (start : invariant s) : invariant (run step s inputs).1 := by
  induction inputs generalizing s with
  | nil => exact start
  | cons input rest ih =>
    exact ih (fun t i member => keeps t i (.tail _ member)) (keeps s input (.head _) start)

/-- Outputs good at every turn are good over the run. -/
theorem run_outputs {good : ο → Prop} {inputs : List ι}
    (emits : ∀ s, ∀ input ∈ inputs, ∀ output ∈ (step s input).2, good output)
    (s : σ) : ∀ output ∈ (run step s inputs).2, good output := by
  induction inputs generalizing s with
  | nil => simp
  | cons input rest ih =>
    intro output member
    rcases List.mem_append.mp member with now | later
    · exact emits s input (.head _) output now
    · exact ih (fun t i inside => emits t i (.tail _ inside)) _ output later

/-- A relation between all outputs so far and the state, kept by every turn. -/
theorem run_history {relates : List ο → σ → Prop} {inputs : List ι}
    (keeps : ∀ sent t, ∀ input ∈ inputs, relates sent t →
      relates (sent ++ (step t input).2) (step t input).1)
    {sent : List ο} {s : σ} (start : relates sent s) :
    relates (sent ++ (run step s inputs).2) (run step s inputs).1 := by
  induction inputs generalizing sent s with
  | nil => simpa using start
  | cons input rest ih =>
    have later := ih (fun earlier t i member => keeps earlier t i (.tail _ member))
      (keeps sent s input (.head _) start)
    rwa [List.append_assoc] at later

/-- A field that no turn changes is unchanged by the run. -/
theorem run_unchanged {field : σ → φ} (same : ∀ s input, field (step s input).1 = field s)
    (s : σ) (inputs : List ι) : field (run step s inputs).1 = field s := by
  induction inputs generalizing s with
  | nil => rfl
  | cons input rest ih => exact (ih _).trans (same s input)

/-- A machine that passes inputs on or drops them emits a sublist of its inputs. -/
theorem run_sublist {step : σ → ι → σ × List ι} (passes : ∀ s input, (step s input).2.Sublist [input])
    (s : σ) (inputs : List ι) : (run step s inputs).2.Sublist inputs := by
  induction inputs generalizing s with
  | nil => exact .slnil
  | cons input rest ih => exact (passes s input).append (ih _)

/-- A property of every place of a list, when the list grows at its end. -/
theorem forall_place_concat {property : List α → α → Prop} (xs : List α) (x : α) :
    (∀ before e after, xs ++ [x] = before ++ e :: after → property before e) ↔
      (∀ before e after, xs = before ++ e :: after → property before e) ∧ property xs x := by
  constructor
  · intro holds
    exact ⟨fun before e after split => holds before e (after ++ [x]) (by simp [split]),
      holds xs x [] rfl⟩
  · rintro ⟨holds, last⟩ before e after split
    rcases List.eq_nil_or_concat' after with rfl | ⟨after, final, rfl⟩
    · obtain ⟨rfl, same⟩ := List.append_inj' split rfl
      exact List.singleton_inj.mp same ▸ last
    · rw [← List.cons_append, ← List.append_assoc] at split
      exact holds before e after (List.append_inj_left' split rfl)

end Transducer
