import Mathlib.Data.List.Basic

/-! Substitution of the leftmost matches that do not overlap, for a matcher that says how many
elements it takes at the head of a list, and how it goes across a cut of the list. -/
namespace Substitution

variable {α : Type} (matchAt : List α → Option Nat) (replacement : List α)

/-- The first argument counts the elements that the last match still covers. -/
def sub : Nat → List α → List α
  | _, [] => []
  | skip + 1, _ :: rest => sub skip rest
  | 0, c :: rest =>
    match matchAt (c :: rest) with
    | some n => replacement ++ sub (n - 1) rest
    | none => c :: sub 0 rest

/-- How many elements of the second list are covered by matches that begin in the first. -/
def overhang : Nat → List α → List α → Nat
  | skip, [], _ => skip
  | skip + 1, _ :: rest, tail => overhang skip rest tail
  | 0, c :: rest, tail =>
    match matchAt (c :: rest ++ tail) with
    | some n => overhang (n - 1) rest tail
    | none => overhang 0 rest tail

/-- What the elements of the first list are replaced by, with the second one behind them. -/
def emitted : Nat → List α → List α → List α
  | _, [], _ => []
  | skip + 1, _ :: rest, tail => emitted skip rest tail
  | 0, c :: rest, tail =>
    match matchAt (c :: rest ++ tail) with
    | some n => replacement ++ emitted (n - 1) rest tail
    | none => c :: emitted 0 rest tail

variable {matchAt replacement}

theorem sub_append (skip : Nat) (text tail : List α) :
    sub matchAt replacement skip (text ++ tail) = emitted matchAt replacement skip text tail ++
      sub matchAt replacement (overhang matchAt skip text tail) tail := by
  induction text generalizing skip with
  | nil => rfl
  | cons c rest ih =>
    cases skip with
    | succ skip => exact ih skip
    | zero =>
      simp only [List.cons_append, sub, emitted, overhang]
      cases matchAt (c :: (rest ++ tail)) with
      | none => exact congrArg (c :: ·) (ih 0)
      | some n => simp only [ih, List.append_assoc]

theorem sub_drop (skip : Nat) (text : List α) :
    sub matchAt replacement skip text = sub matchAt replacement 0 (text.drop skip) := by
  induction skip generalizing text with
  | zero => rfl
  | succ skip ih =>
    cases text with
    | nil => rfl
    | cons c rest => exact ih rest

/-- A match at the head is replaced, and the scan goes on behind it. -/
theorem sub_of_match {n : Nat} {text : List α} (nonempty : text ≠ []) (positive : 0 < n)
    (found : matchAt text = some n) :
    sub matchAt replacement 0 text = replacement ++ sub matchAt replacement 0 (text.drop n) := by
  obtain ⟨c, rest, rfl⟩ := List.exists_cons_of_ne_nil nonempty
  obtain ⟨n, rfl⟩ := Nat.exists_eq_add_of_lt positive
  rw [sub, found]
  simp only [Nat.zero_add, Nat.add_sub_cancel, List.drop_succ_cons]
  exact congrArg (replacement ++ ·) (sub_drop n rest)

theorem sub_of_none {c : α} {rest : List α} (none : matchAt (c :: rest) = none) :
    sub matchAt replacement 0 (c :: rest) = c :: sub matchAt replacement 0 rest := by
  rw [sub, none]

/-- Tails that the matcher does not tell apart from within the text are scanned alike. -/
theorem scan_congr {text tail tail' : List α} (alike : ∀ c rest, c :: rest <:+ text →
    matchAt (c :: rest ++ tail) = matchAt (c :: rest ++ tail')) (skip : Nat) :
    overhang matchAt skip text tail = overhang matchAt skip text tail' ∧
      emitted matchAt replacement skip text tail = emitted matchAt replacement skip text tail' := by
  induction text generalizing skip with
  | nil => exact ⟨rfl, rfl⟩
  | cons c rest ih =>
    have later := ih fun d more suffix => alike d more (suffix.trans (List.suffix_cons c rest))
    cases skip with
    | succ skip => exact later skip
    | zero =>
      have head := alike c rest (List.suffix_refl _)
      constructor
      · simp only [overhang, head, (later _).1]
      · simp only [emitted, head, (later _).2]

theorem overhang_beyond {skip : Nat} {text : List α} (tail : List α) (long : text.length ≤ skip) :
    overhang matchAt skip text tail = skip - text.length := by
  induction text generalizing skip with
  | nil => rw [overhang, List.length_nil, Nat.sub_zero]
  | cons c rest ih =>
    cases skip with
    | zero => simp at long
    | succ skip =>
      rw [overhang, ih (by simpa using long)]
      simp

/-- The overhang is none, or comes from one match that begins in the text. -/
theorem overhang_origin (skip : Nat) (text tail : List α) (short : skip ≤ text.length) :
    overhang matchAt skip text tail = 0 ∨ ∃ c rest n, c :: rest <:+ text ∧
      matchAt (c :: rest ++ tail) = some n ∧
        overhang matchAt skip text tail + (rest.length + 1) = n := by
  induction text generalizing skip with
  | nil => exact .inl (by rw [overhang]; simpa using short)
  | cons c rest ih =>
    have grow : ∀ skip, skip ≤ rest.length → overhang matchAt skip rest tail = 0 ∨
        ∃ d more n, d :: more <:+ c :: rest ∧ matchAt (d :: more ++ tail) = some n ∧
          overhang matchAt skip rest tail + (more.length + 1) = n := by
      intro skip within
      refine (ih skip within).imp_right ?_
      rintro ⟨d, more, n, suffix, found, reach⟩
      exact ⟨d, more, n, suffix.trans (List.suffix_cons c rest), found, reach⟩
    cases skip with
    | succ skip => exact grow skip (by simpa using short)
    | zero =>
      rw [overhang]
      cases found : matchAt (c :: rest ++ tail) with
      | none => exact grow 0 (Nat.zero_le _)
      | some n =>
        dsimp only
        by_cases within : n - 1 ≤ rest.length
        · exact grow (n - 1) within
        · refine .inr ⟨c, rest, n, List.suffix_refl _, found, ?_⟩
          rw [overhang_beyond _ (by omega)]
          omega

end Substitution
