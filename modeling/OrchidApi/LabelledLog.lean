import Mathlib.Data.List.Basic

/-! Append-only logs with a label that a move may set while the log is empty, and exactly which
sequences of moves label the log after its first question. -/
namespace LabelledLog

/-- The rows a request adds, and the label it has for an empty log. -/
structure Move (ρ τ : Type) where
  rows : List ρ
  label : Option τ := none

structure Log (ρ τ : Type) where
  rows : List ρ := []
  label : τ

variable {ρ τ : Type}

namespace Log

def play (log : Log ρ τ) (move : Move ρ τ) : Log ρ τ :=
  { rows := log.rows ++ move.rows
    label := if log.rows.isEmpty then move.label.getD log.label else log.label }

def playAll (log : Log ρ τ) (moves : List (Move ρ τ)) : Log ρ τ := moves.foldl play log

theorem rows_playAll (log : Log ρ τ) (moves : List (Move ρ τ)) :
    (log.playAll moves).rows = log.rows ++ moves.flatMap Move.rows := by
  induction moves generalizing log with
  | nil => simp [playAll]
  | cons move rest ih => exact (ih _).trans (by simp [play])

theorem playAll_append (log : Log ρ τ) (first second : List (Move ρ τ)) :
    log.playAll (first ++ second) = (log.playAll first).playAll second := List.foldl_append

/-- A log that has rows keeps its label. -/
theorem label_settled {log : Log ρ τ} (settled : log.rows ≠ []) (moves : List (Move ρ τ)) :
    (log.playAll moves).label = log.label := by
  induction moves generalizing log with
  | nil => rfl
  | cons move rest ih =>
    have kept : (log.play move).label = log.label := by simp [play, settled]
    exact (ih (by simp [play, settled])).trans kept

theorem label_unlabelled (log : Log ρ τ) {moves : List (Move ρ τ)}
    (unlabelled : ∀ move ∈ moves, move.label = none) : (log.playAll moves).label = log.label := by
  induction moves generalizing log with
  | nil => rfl
  | cons move rest ih =>
    have kept : (log.play move).label = log.label := by simp [play, unlabelled move]
    exact (ih _ fun e member => unlabelled e (List.mem_cons_of_mem _ member)).trans kept

end Log

section Kinds
variable (asks : ρ → Bool) (labelOf : ρ → τ)

/-- A move takes its label from its first question. -/
def Move.Lawful (move : Move ρ τ) : Prop :=
  ∀ l ∈ move.label, ∃ q, move.rows.find? asks = some q ∧ labelOf q = l

/-- As soon as there is a question in the log, the label is that of the first one. -/
def Labelled (start : τ) (moves : List (Move ρ τ)) : Prop :=
  ∀ done, done <+: moves → ∀ q, ((Log.mk [] start).playAll done).rows.find? asks = some q →
    ((Log.mk [] start).playAll done).label = labelOf q

/-- The first move with a question finds the log empty and labels it, unless the log has had
that label from the start. -/
def LabelledInTime (start : τ) (moves : List (Move ρ τ)) : Prop :=
  ∀ before move after, moves = before ++ move :: after →
    (∀ e ∈ before, e.rows.find? asks = none) → ∀ q, move.rows.find? asks = some q →
      ((∀ e ∈ before, e.rows = []) ∧ move.label.isSome = true) ∨ start = labelOf q

end Kinds

section Kinds
variable {asks : ρ → Bool} {labelOf : ρ → τ} {start : τ}

theorem find_playAll (moves : List (Move ρ τ)) :
    ((Log.mk [] start).playAll moves).rows.find? asks =
      moves.findSome? fun move => move.rows.find? asks := by
  rw [Log.rows_playAll, List.nil_append, List.find?_flatMap]

/-- The label behind the first question. -/
theorem label_first {before : List (Move ρ τ)} {move : Move ρ τ} {q : ρ}
    (lawful : ∀ e ∈ before ++ [move], e.Lawful asks labelOf)
    (silent : ∀ e ∈ before, e.rows.find? asks = none) (found : move.rows.find? asks = some q) :
    ((Log.mk [] start).playAll (before ++ [move])).label = labelOf q ↔
      ((∀ e ∈ before, e.rows = []) ∧ move.label.isSome = true) ∨ start = labelOf q := by
  have unlabelled : ∀ e ∈ before, e.label = none := by
    intro e member
    refine Option.eq_none_iff_forall_not_mem.mpr fun l labelled => ?_
    obtain ⟨q, asked, -⟩ := lawful e (List.mem_append_left _ member) l labelled
    rw [silent e member] at asked
    cases asked
  have own : ∀ l ∈ move.label, l = labelOf q := by
    intro l labelled
    obtain ⟨p, asked, same⟩ := lawful move (by simp) l labelled
    rw [found] at asked
    rw [← same, Option.some.inj asked]
  have rows : ((Log.mk [] start).playAll before).rows.isEmpty = true ↔ ∀ e ∈ before, e.rows = [] := by
    simp [Log.rows_playAll]
  rw [Log.playAll_append]
  change (((Log.mk [] start).playAll before).play move).label = _ ↔ _
  rw [Log.play, Log.label_unlabelled _ unlabelled]
  by_cases empty : ∀ e ∈ before, e.rows = []
  · rw [if_pos (rows.mpr empty)]
    cases label : move.label with
    | none => simp
    | some l => exact iff_of_true (own l label) (.inl ⟨empty, rfl⟩)
  · rw [if_neg fun none => empty (rows.mp none)]
    simp [empty]

theorem label_after_first {before after : List (Move ρ τ)} {move : Move ρ τ} {q : ρ}
    (found : move.rows.find? asks = some q) :
    ((Log.mk [] start).playAll (before ++ move :: after)).label =
      ((Log.mk [] start).playAll (before ++ [move])).label := by
  rw [show before ++ move :: after = before ++ [move] ++ after by simp, Log.playAll_append]
  refine Log.label_settled (fun none => ?_) after
  rw [Log.rows_playAll] at none
  have empty : move.rows = [] := by simp_all
  simp [empty] at found

/-- The log is labelled after its first question, if and only if that comes in time. -/
theorem labelled_iff_inTime {moves : List (Move ρ τ)} (lawful : ∀ e ∈ moves, e.Lawful asks labelOf) :
    Labelled asks labelOf start moves ↔ LabelledInTime asks labelOf start moves := by
  constructor
  · rintro labelled before move after rfl silent q found
    have within : before ++ [move] <+: before ++ move :: after := by simp [List.prefix_append_right_inj]
    refine (label_first (fun e member => lawful e (within.subset member)) silent found).mp
      (labelled _ within q ?_)
    rw [find_playAll]
    exact List.findSome?_eq_some_iff.mpr ⟨before, move, [], rfl, found, silent⟩
  · rintro inTime done ⟨rest, rfl⟩ q asked
    rw [find_playAll] at asked
    obtain ⟨before, move, after, rfl, found, silent⟩ := List.findSome?_eq_some_iff.mp asked
    rw [label_after_first found]
    refine (label_first (fun e member => lawful e ?_) silent found).mpr
      (inTime before move (after ++ rest) (by simp) silent q found)
    rcases List.mem_append.mp member with earlier | last
    · simp [earlier]
    · simp [List.mem_singleton.mp last]

end Kinds
end LabelledLog
