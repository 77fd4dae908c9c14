import Mathlib.Data.List.Induction
import OrchidApi.Transducer

/-! Logs of questions and answers in numbered turns, and exactly which sequences of moves
keep every answer behind the question of its turn and the answers within the questions. -/
namespace TurnLog

variable {ρ : Type}

/-- One request: it may open a turn, with or without storing its question, and may store
an answer, to the turn it opened or to the latest one. -/
inductive Move (ρ : Type) where
  | exchange (question answer : ρ)
  | question (question : ρ)
  | pause
  | answer (answer : ρ)
  | idle

namespace Move

def opens : Move ρ → Bool
  | exchange _ _ | question _ | pause => true
  | answer _ | idle => false

def rows : Move ρ → List ρ
  | exchange q a => [q, a]
  | question q => [q]
  | answer a => [a]
  | pause | idle => []

def isExchange : Move ρ → Bool
  | exchange _ _ => true
  | _ => false

def isQuestion : Move ρ → Bool
  | question _ => true
  | _ => false

def isAnswer : Move ρ → Bool
  | answer _ => true
  | _ => false

end Move

/-- The turn in progress, counted from one, and the rows with the turn of each. -/
structure Log (ρ : Type) where
  turn : Nat := 0
  entries : List (Nat × ρ) := []

namespace Log

def add (log : Log ρ) (opens : Bool) (rows : List ρ) : Log ρ :=
  { turn := if opens then log.turn + 1 else log.turn
    entries := log.entries ++ rows.map fun row => (if opens then log.turn + 1 else log.turn, row) }

def play (log : Log ρ) (move : Move ρ) : Log ρ := log.add move.opens move.rows

def rows (log : Log ρ) : List ρ := log.entries.map Prod.snd

end Log

def playAll (moves : List (Move ρ)) : Log ρ := moves.foldl Log.play {}

theorem playAll_concat (moves : List (Move ρ)) (move : Move ρ) :
    playAll (moves ++ [move]) = (playAll moves).play move := by simp [playAll]

section Kinds
variable (asks answers : ρ → Bool)

/-- Every answer has the question of its turn somewhere before it. -/
def Answered (entries : List (Nat × ρ)) : Prop :=
  ∀ before e after, entries = before ++ e :: after → answers e.2 = true →
    ∃ q ∈ before, q.1 = e.1 ∧ asks q.2 = true

/-- No prefix has more answers than questions. -/
def Balanced (rows : List ρ) : Prop :=
  ∀ front, front <+: rows → front.countP answers ≤ front.countP asks

def Sound (log : Log ρ) : Prop := Answered asks answers log.entries ∧ Balanced asks answers log.rows

/-- Questions ask and answers answer, and not the other way. -/
def Move.Lawful (move : Move ρ) : Prop :=
  match move with
  | .exchange q a => (asks q = true ∧ answers q = false) ∧ asks a = false ∧ answers a = true
  | .question q => asks q = true ∧ answers q = false
  | .answer a => asks a = false ∧ answers a = true
  | .pause | .idle => True

end Kinds

/-- The latest turn stored its question. -/
def latestStored (moves : List (Move ρ)) : Bool :=
  match (moves.filter Move.opens).getLast? with
  | some (.exchange _ _) | some (.question _) => true
  | _ => false

/-- Whenever an answer comes alone, the latest turn has its question and some question
stored alone is still without an answer. -/
def Orderly (moves : List (Move ρ)) : Prop :=
  ∀ before move after, moves = before ++ move :: after → move.isAnswer = true →
    latestStored before = true ∧
      before.countP Move.isAnswer < before.countP Move.isQuestion

/-! ## One move at a time -/

theorem latestStored_concat (moves : List (Move ρ)) (move : Move ρ) :
    latestStored (moves ++ [move]) =
      if move.opens then !move.rows.isEmpty else latestStored moves := by
  cases move <;> simp [latestStored, List.filter_append, List.filter_cons, Move.opens, Move.rows]

theorem orderly_concat (moves : List (Move ρ)) (move : Move ρ) :
    Orderly (moves ++ [move]) ↔ Orderly moves ∧ (move.isAnswer = true →
      latestStored moves = true ∧ moves.countP Move.isAnswer < moves.countP Move.isQuestion) :=
  Transducer.forall_place_concat moves move

section Kinds
variable {asks answers : ρ → Bool}

theorem answered_concat (entries : List (Nat × ρ)) (e : Nat × ρ) :
    Answered asks answers (entries ++ [e]) ↔ Answered asks answers entries ∧
      (answers e.2 = true → ∃ q ∈ entries, q.1 = e.1 ∧ asks q.2 = true) :=
  Transducer.forall_place_concat entries e

theorem balanced_concat (rows : List ρ) (row : ρ) :
    Balanced asks answers (rows ++ [row]) ↔ Balanced asks answers rows ∧
      (rows ++ [row]).countP answers ≤ (rows ++ [row]).countP asks := by
  constructor
  · intro balanced
    exact ⟨fun front inside => balanced front (inside.trans (List.prefix_append _ _)),
      balanced _ List.prefix_rfl⟩
  · rintro ⟨balanced, whole⟩ front inside
    rcases List.prefix_concat_iff.mp inside with rfl | earlier
    · exact whole
    · exact balanced front earlier

/-- What a log knows about the moves that made it. -/
structure Tracks (asks answers : ρ → Bool) (moves : List (Move ρ)) (log : Log ρ) : Prop where
  bounded : ∀ e ∈ log.entries, e.1 ≤ log.turn
  latest : (∃ q ∈ log.entries, q.1 = log.turn ∧ asks q.2 = true) ↔ latestStored moves = true
  questions : log.rows.countP asks =
    moves.countP Move.isExchange + moves.countP Move.isQuestion
  answers : log.rows.countP answers =
    moves.countP Move.isExchange + moves.countP Move.isAnswer

theorem tracks_play {moves : List (Move ρ)} {log : Log ρ} (tracks : Tracks asks answers moves log)
    (move : Move ρ) (lawful : move.Lawful asks answers) :
    Tracks asks answers (moves ++ [move]) (log.play move) := by
  obtain ⟨bounded, latest, questions, replies⟩ := tracks
  have later : ∀ e ∈ log.entries, e.1 ≤ log.turn + 1 := fun e member => by
    have := bounded e member
    omega
  -- No row of an earlier turn stands for the question of a new one.
  have fresh : ¬∃ q ∈ log.entries, q.1 = log.turn + 1 ∧ asks q.2 = true := by
    rintro ⟨q, member, same, _⟩
    have := bounded q member
    omega
  simp only [Log.rows] at questions replies
  cases move with
  | exchange q a =>
    obtain ⟨⟨asksQ, quietQ⟩, quietA, answersA⟩ := lawful
    refine ⟨?_, ?_, ?_, ?_⟩
    · simpa [Log.play, Log.add, Move.opens, Move.rows, or_imp, forall_and] using later
    · have opened : ∃ e ∈ (log.play (.exchange q a)).entries, e.1 = log.turn + 1 ∧ asks e.2 = true :=
        ⟨(log.turn + 1, q), by simp [Log.play, Log.add, Move.opens, Move.rows], rfl, asksQ⟩
      exact iff_of_true opened (by simp [latestStored_concat, Move.opens, Move.rows])
    · simp [Log.play, Log.add, Move.opens, Move.rows, Log.rows, Move.isExchange, Move.isQuestion,
        questions, asksQ, quietA]
      omega
    · simp [Log.play, Log.add, Move.opens, Move.rows, Log.rows, Move.isExchange, Move.isAnswer,
        replies, quietQ, answersA]
      omega
  | question q =>
    obtain ⟨asksQ, quietQ⟩ := lawful
    refine ⟨?_, ?_, ?_, ?_⟩
    · simpa [Log.play, Log.add, Move.opens, Move.rows, or_imp, forall_and] using later
    · have opened : ∃ e ∈ (log.play (.question q)).entries, e.1 = log.turn + 1 ∧ asks e.2 = true :=
        ⟨(log.turn + 1, q), by simp [Log.play, Log.add, Move.opens, Move.rows], rfl, asksQ⟩
      exact iff_of_true opened (by simp [latestStored_concat, Move.opens, Move.rows])
    · simp [Log.play, Log.add, Move.opens, Move.rows, Log.rows, Move.isExchange, Move.isQuestion,
        questions, asksQ]
      omega
    · simp [Log.play, Log.add, Move.opens, Move.rows, Log.rows, Move.isExchange, Move.isAnswer,
        replies, quietQ]
  | pause =>
    refine ⟨?_, ?_, ?_, ?_⟩
    · simpa [Log.play, Log.add, Move.opens, Move.rows] using later
    · simpa [Log.play, Log.add, Move.opens, Move.rows, latestStored_concat] using fresh
    · simp [Log.play, Log.add, Move.rows, Log.rows, Move.isExchange, Move.isQuestion, questions]
    · simp [Log.play, Log.add, Move.rows, Log.rows, Move.isExchange, Move.isAnswer, replies]
  | answer a =>
    obtain ⟨quietA, answersA⟩ := lawful
    refine ⟨?_, ?_, ?_, ?_⟩
    · simpa [Log.play, Log.add, Move.opens, Move.rows, or_imp, forall_and] using bounded
    · simpa [Log.play, Log.add, Move.opens, Move.rows, latestStored_concat, quietA, or_and_right,
        exists_or] using latest
    · simp [Log.play, Log.add, Move.opens, Move.rows, Log.rows, Move.isExchange, Move.isQuestion,
        questions, quietA]
    · simp [Log.play, Log.add, Move.opens, Move.rows, Log.rows, Move.isExchange, Move.isAnswer,
        replies, answersA]
      omega
  | idle =>
    refine ⟨?_, ?_, ?_, ?_⟩
    · simpa [Log.play, Log.add, Move.opens, Move.rows] using bounded
    · simpa [Log.play, Log.add, Move.opens, Move.rows, latestStored_concat] using latest
    · simp [Log.play, Log.add, Move.rows, Log.rows, Move.isExchange, Move.isQuestion, questions]
    · simp [Log.play, Log.add, Move.rows, Log.rows, Move.isExchange, Move.isAnswer, replies]

theorem tracks_playAll (moves : List (Move ρ)) (lawful : ∀ move ∈ moves, move.Lawful asks answers) :
    Tracks asks answers moves (playAll moves) := by
  induction moves using List.reverseRecOn with
  | nil => exact ⟨by simp [playAll], by simp [playAll, latestStored], rfl, rfl⟩
  | append_singleton moves move ih =>
    rw [playAll_concat]
    exact tracks_play (ih fun m member => lawful m (by simp [member])) move (lawful move (by simp))

theorem sound_question (log : Log ρ) (turn : Nat) (q : ρ) (quiet : answers q = false) :
    Sound asks answers ⟨turn, log.entries ++ [(turn, q)]⟩ ↔ Sound asks answers log := by
  simp only [Sound, Log.rows, List.map_append, List.map_cons, List.map_nil, answered_concat,
    balanced_concat, quiet, Bool.false_eq_true, false_imp_iff, and_true]
  refine and_congr_right fun _ => and_iff_left_of_imp fun balanced => ?_
  have whole := balanced _ List.prefix_rfl
  simp only [List.countP_append, List.countP_singleton, quiet, Bool.false_eq_true, ↓reduceIte]
  omega

theorem sound_answer (log : Log ρ) (turn : Nat) (a : ρ) (quiet : asks a = false)
    (replies : answers a = true) :
    Sound asks answers ⟨turn, log.entries ++ [(turn, a)]⟩ ↔ Sound asks answers log ∧
      (∃ q ∈ log.entries, q.1 = turn ∧ asks q.2 = true) ∧
        log.rows.countP answers < log.rows.countP asks := by
  simp only [Sound, Log.rows, List.map_append, List.map_cons, List.map_nil, answered_concat,
    balanced_concat, replies, true_imp_iff, List.countP_append, List.countP_singleton, quiet,
    Bool.false_eq_true, ↓reduceIte, Nat.add_zero, Nat.succ_le_iff]
  tauto

/-- A move keeps the log sound unless it is a lone answer without its question. -/
theorem sound_play {moves : List (Move ρ)} {log : Log ρ} (tracks : Tracks asks answers moves log)
    (move : Move ρ) (lawful : move.Lawful asks answers) :
    Sound asks answers (log.play move) ↔ Sound asks answers log ∧ (move.isAnswer = true →
      latestStored moves = true ∧ moves.countP Move.isAnswer < moves.countP Move.isQuestion) := by
  cases move with
  | exchange q a =>
    obtain ⟨⟨asksQ, quietQ⟩, quietA, answersA⟩ := lawful
    have both : log.play (.exchange q a) =
        ⟨log.turn + 1, (log.entries ++ [(log.turn + 1, q)]) ++ [(log.turn + 1, a)]⟩ := by
      simp [Log.play, Log.add, Move.opens, Move.rows]
    rw [both, sound_answer ⟨log.turn + 1, log.entries ++ [(log.turn + 1, q)]⟩ (log.turn + 1) a
      quietA answersA, sound_question log (log.turn + 1) q quietQ]
    simp only [Move.isAnswer, Bool.false_eq_true, false_imp_iff, and_true]
    refine and_iff_left_of_imp fun sound => ⟨⟨(log.turn + 1, q), by simp, rfl, asksQ⟩, ?_⟩
    have whole := sound.2 _ List.prefix_rfl
    simp only [Log.rows] at whole
    simp only [Log.rows, List.map_append, List.map_cons, List.map_nil, List.countP_append,
      List.countP_singleton, asksQ, quietQ, ↓reduceIte, Bool.false_eq_true]
    omega
  | question q =>
    simp only [Move.isAnswer, Bool.false_eq_true, false_imp_iff, and_true]
    exact sound_question log _ q lawful.2
  | answer a =>
    have replied := sound_answer log log.turn a lawful.1 lawful.2
    simp only [Move.isAnswer, true_imp_iff, ← tracks.latest]
    refine replied.trans (and_congr_right fun _ => and_congr_right fun _ => ?_)
    rw [tracks.questions, tracks.answers]
    omega
  | pause | idle => simp [Log.play, Log.add, Move.rows, Move.isAnswer, Sound, Log.rows]

/-- The log of a sequence of moves is sound exactly when the sequence is orderly. -/
theorem sound_iff_orderly (moves : List (Move ρ)) (lawful : ∀ move ∈ moves, move.Lawful asks answers) :
    Sound asks answers (playAll moves) ↔ Orderly moves := by
  induction moves using List.reverseRecOn with
  | nil => simp [playAll, Sound, Answered, Balanced, Orderly, Log.rows]
  | append_singleton moves move ih =>
    have earlier : ∀ m ∈ moves, m.Lawful asks answers := fun m member => lawful m (by simp [member])
    rw [playAll_concat, sound_play (tracks_playAll moves earlier) move (lawful move (by simp)),
      ih earlier, orderly_concat]

end Kinds
end TurnLog
