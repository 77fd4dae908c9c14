import Mathlib.Algebra.Order.Field.Basic
import Mathlib.Data.List.Count
import Mathlib.Tactic.Linarith
import Mathlib.Tactic.Ring

/-! The token bucket in exact arithmetic: a log of admissions keeps within the quota of
every time window exactly when the bucket had a token for each of them. -/
namespace TokenBucket

variable {K : Type} [Field K] [LinearOrder K] [IsStrictOrderedRing K]

/-- The tokens at `now` of a full bucket charged at the given times, newest first. -/
def level (capacity rate : K) : List K → K → K
  | [], _ => capacity
  | a :: earlier, now => min capacity (level capacity rate earlier a - 1 + rate * (now - a))

/-- The requests that one bucket admits, in the same order, newest first. -/
def granted (capacity rate : K) : List K → List K
  | [] => []
  | a :: earlier =>
    if 1 ≤ level capacity rate (granted capacity rate earlier) a then a :: granted capacity rate earlier
    else granted capacity rate earlier

/-- Allowed, with the seconds until there is a whole token. -/
def answer (capacity rate : K) (log : List K) (now : K) : Bool × K :=
  if 1 ≤ level capacity rate log now then (true, 0)
  else (false, (1 - level capacity rate log now) / rate)

/-- The log after a request: an allowed one is charged. -/
def charge (capacity rate : K) (log : List K) (now : K) : List K :=
  if 1 ≤ level capacity rate log now then now :: log else log

/-- What a bucket charged at the logged times answers to requests at the given ones. -/
def answers (capacity rate : K) : List K → List K → List (Bool × K)
  | _, [] => []
  | log, now :: later =>
    answer capacity rate log now :: answers capacity rate (charge capacity rate log now) later

/-- Every admission found a token. -/
def Conforms (capacity rate : K) : List K → Prop
  | [] => True
  | a :: earlier => 1 ≤ level capacity rate earlier a ∧ Conforms capacity rate earlier

/-- The admissions in every window `[s, t]` are within the capacity and what flows in. -/
def WithinQuota (capacity rate : K) (admitted : List K) : Prop :=
  ∀ s t, s ≤ t → (admitted.countP fun a => decide (s ≤ a ∧ a ≤ t) : K) ≤ capacity + rate * (t - s)

section Level
variable {capacity rate : K}

omit [IsStrictOrderedRing K] in
theorem level_le_capacity (log : List K) (now : K) : level capacity rate log now ≤ capacity := by
  cases log with
  | nil => exact le_rfl
  | cons a earlier => exact min_le_left _ _

/-- Waiting adds tokens up to the capacity, in one step or in two. -/
theorem level_refill (positive : 0 ≤ rate) (log : List K) {now later : K} (wait : now ≤ later) :
    level capacity rate log later = min capacity (level capacity rate log now + rate * (later - now)) := by
  have gain : 0 ≤ rate * (later - now) := mul_nonneg positive (sub_nonneg.mpr wait)
  cases log with
  | nil => simp [level, gain]
  | cons a earlier =>
    have parts : rate * (later - a) = rate * (now - a) + rate * (later - now) := by ring
    simp only [level, parts, ← add_assoc, min_add]
    rw [← min_assoc, min_eq_left (le_add_of_nonneg_right gain)]

theorem level_charge (log : List K) (now : K) :
    level capacity rate (now :: log) now = level capacity rate log now - 1 := by
  have below : level capacity rate log now - 1 ≤ capacity :=
    (sub_le_self _ zero_le_one).trans (level_le_capacity log now)
  simp [level, below]

/-- A bucket charged for fewer of the requests holds at least as much. -/
theorem level_sublist (positive : 0 ≤ rate) {fewer log : List K} (sub : fewer.Sublist log)
    (sorted : log.Pairwise (· ≥ ·)) {now : K} (past : ∀ a ∈ log, a ≤ now) :
    level capacity rate log now ≤ level capacity rate fewer now := by
  induction sub generalizing now with
  | slnil => exact le_rfl
  | @cons fewer log a sub ih =>
    obtain ⟨newest, sorted⟩ := List.pairwise_cons.mp sorted
    refine le_trans ?_ (ih sorted fun b member => past b (.tail _ member))
    rw [level_refill positive log (past a (.head _))]
    exact min_le_min_left _ (by linarith)
  | @cons_cons fewer log a sub ih =>
    obtain ⟨newest, sorted⟩ := List.pairwise_cons.mp sorted
    have before := ih sorted newest
    exact min_le_min_left _ (by linarith)

/-- The level in terms of the admissions since each earlier one. -/
theorem le_level_iff (log : List K) (now x : K) :
    x ≤ level capacity rate log now ↔ x ≤ capacity ∧ ∀ front a back, log = front ++ a :: back →
      x + (front.length + 1) ≤ capacity + rate * (now - a) := by
  induction log generalizing now x with
  | nil => simp [level]
  | cons a earlier ih =>
    have shift : x ≤ level capacity rate earlier a - 1 + rate * (now - a) ↔
        x + 1 - rate * (now - a) ≤ level capacity rate earlier a := by
      constructor <;> intro _ <;> linarith
    rw [level, le_min_iff, shift, ih]
    refine and_congr_right fun _ => ⟨?_, ?_⟩
    · rintro ⟨now_bound, bounds⟩ front b back split
      cases front with
      | nil =>
        obtain ⟨rfl, rfl⟩ : a = b ∧ earlier = back := by simpa using split
        simp only [List.length_nil, Nat.cast_zero]
        linarith
      | cons c front =>
        obtain ⟨rfl, tail⟩ : a = c ∧ earlier = front ++ b :: back := by simpa using split
        have bound := bounds front b back tail
        simp only [List.length_cons, Nat.cast_add, Nat.cast_one]
        have parts : rate * (now - b) = rate * (now - a) + rate * (a - b) := by ring
        linarith
    · intro bounds
      have first := bounds [] a earlier rfl
      simp only [List.length_nil, Nat.cast_zero] at first
      refine ⟨by linarith, fun front b back split => ?_⟩
      have bound := bounds (a :: front) b back (by simp [split])
      simp only [List.length_cons, Nat.cast_add, Nat.cast_one] at bound
      have parts : rate * (now - b) = rate * (now - a) + rate * (a - b) := by ring
      linarith

/-! ## Windows -/

/-- Whatever was admitted since `s` is missing from the bucket. -/
theorem window_potential (positive : 0 ≤ rate) (log : List K) (sorted : log.Pairwise (· ≥ ·))
    {s t : K} (past : ∀ a ∈ log, a ≤ t) (ordered : s ≤ t) :
    (log.countP fun a => decide (s ≤ a) : K) + level capacity rate log t ≤
      capacity + rate * (t - s) := by
  have gain : 0 ≤ rate * (t - s) := mul_nonneg positive (sub_nonneg.mpr ordered)
  induction log generalizing t with
  | nil => simpa [level] using gain
  | cons a earlier ih =>
    obtain ⟨newest, sorted⟩ := List.pairwise_cons.mp sorted
    by_cases inside : s ≤ a
    · have before := ih sorted newest inside (mul_nonneg positive (sub_nonneg.mpr inside))
      have now : level capacity rate (a :: earlier) t ≤
          level capacity rate earlier a - 1 + rate * (t - a) := min_le_right _ _
      have parts : rate * (t - s) = rate * (a - s) + rate * (t - a) := by ring
      simp only [List.countP_cons, inside, decide_true, ↓reduceIte, Nat.cast_add, Nat.cast_one]
      linarith
    · have outside : (a :: earlier).countP (fun b => decide (s ≤ b)) = 0 := by
        simp only [List.countP_eq_zero, decide_eq_true_eq]
        intro b member later
        rcases List.mem_cons.mp member with rfl | member
        · exact inside later
        · exact inside (later.trans (newest b member))
      have full : level capacity rate (a :: earlier) t ≤ capacity := level_le_capacity _ t
      rw [outside, Nat.cast_zero]
      linarith

theorem level_nonneg (positive : 0 ≤ rate) (capable : 0 ≤ capacity) {log : List K}
    (conforms : Conforms capacity rate log) {now : K} (past : ∀ a ∈ log, a ≤ now) :
    0 ≤ level capacity rate log now := by
  cases log with
  | nil => exact capable
  | cons a earlier =>
    have gain : 0 ≤ rate * (now - a) := mul_nonneg positive (sub_nonneg.mpr (past a (.head _)))
    refine le_min capable ?_
    linarith [conforms.1]

theorem within_of_conforms (positive : 0 ≤ rate) (capable : 0 ≤ capacity) {log : List K}
    (sorted : log.Pairwise (· ≥ ·)) (conforms : Conforms capacity rate log) :
    WithinQuota capacity rate log := by
  intro s t ordered
  induction log with
  | nil =>
    have gain : 0 ≤ rate * (t - s) := mul_nonneg positive (sub_nonneg.mpr ordered)
    simpa using add_nonneg capable gain
  | cons a earlier ih =>
    obtain ⟨newest, older⟩ := List.pairwise_cons.mp sorted
    by_cases inside : a ≤ t
    · have past : ∀ b ∈ a :: earlier, b ≤ t := by
        intro b member
        rcases List.mem_cons.mp member with rfl | member
        · exact inside
        · exact (newest b member).trans inside
      have same : (a :: earlier).countP (fun b => decide (s ≤ b ∧ b ≤ t)) =
          (a :: earlier).countP fun b => decide (s ≤ b) :=
        List.countP_congr fun b member => by simp [past b member]
      have potential : (_ : K) + level capacity rate (a :: earlier) t ≤ capacity + rate * (t - s) :=
        window_potential positive _ sorted past ordered
      have left := level_nonneg positive capable conforms past
      rw [same]
      linarith
    · have skipped : (a :: earlier).countP (fun b => decide (s ≤ b ∧ b ≤ t)) =
          earlier.countP fun b => decide (s ≤ b ∧ b ≤ t) := by simp [inside]
      rw [skipped]
      exact ih older conforms.2

theorem conforms_of_within {log : List K} (sorted : log.Pairwise (· ≥ ·))
    (within : WithinQuota capacity rate log) : Conforms capacity rate log := by
  induction log with
  | nil => trivial
  | cons a earlier ih =>
    obtain ⟨newest, older⟩ := List.pairwise_cons.mp sorted
    refine ⟨(le_level_iff earlier a 1).mpr ⟨?_, fun front b back split => ?_⟩, ih older ?_⟩
    · have alone := within a a le_rfl
      have one : 1 ≤ (a :: earlier).countP fun c => decide (a ≤ c ∧ c ≤ a) := by
        simp
      have cast : (1 : K) ≤ ((a :: earlier).countP fun c => decide (a ≤ c ∧ c ≤ a) : K) := by
        exact_mod_cast one
      linarith
    · -- The window from `b` to `a` holds both and everything between them.
      have window := within b a (newest b (by simp [split]))
      have inside : ∀ c ∈ a :: (front ++ [b]), b ≤ c ∧ c ≤ a := by
        subst split
        have before : ∀ c ∈ front, b ≤ c := fun c member =>
          (List.pairwise_append.mp older).2.2 c member b (by simp)
        intro c member
        rcases List.mem_cons.mp member with rfl | member
        · exact ⟨newest b (by simp), le_rfl⟩
        · rcases List.mem_append.mp member with held | last
          · exact ⟨before c held, newest c (by simp [held])⟩
          · rw [List.mem_singleton.mp last]
            exact ⟨le_rfl, newest b (by simp)⟩
      have all : (a :: (front ++ [b])).countP (fun c => decide (b ≤ c ∧ c ≤ a)) = front.length + 2 := by
        rw [List.countP_eq_length.mpr fun c member => by simpa using inside c member]
        simp
      have part : (a :: (front ++ [b])).countP (fun c => decide (b ≤ c ∧ c ≤ a)) ≤
          (a :: earlier).countP fun c => decide (b ≤ c ∧ c ≤ a) := by
        have sub : (a :: (front ++ [b])).Sublist (a :: earlier) := by simp [split]
        exact sub.countP_le
      have cast : ((front.length + 2 : Nat) : K) ≤
          ((a :: earlier).countP fun c => decide (b ≤ c ∧ c ≤ a) : K) := by exact_mod_cast all ▸ part
      push_cast at cast
      linarith
    · intro s t ordered
      have fewer : (earlier.countP fun c => decide (s ≤ c ∧ c ≤ t) : K) ≤
          ((a :: earlier).countP fun c => decide (s ≤ c ∧ c ≤ t) : K) := by
        exact_mod_cast (List.sublist_cons_self a earlier).countP_le
      exact fewer.trans (within s t ordered)

/-- The bucket had a token each time exactly when every window is within the quota. -/
theorem conforms_iff_within (positive : 0 ≤ rate) (capable : 0 ≤ capacity) {log : List K}
    (sorted : log.Pairwise (· ≥ ·)) : Conforms capacity rate log ↔ WithinQuota capacity rate log :=
  ⟨within_of_conforms positive capable sorted, conforms_of_within sorted⟩

end Level
end TokenBucket
