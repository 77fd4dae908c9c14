import OrchidApi.MessagesRun
import OrchidApi.TurnLog

/-! Whole conversations on one chat: the requests to the three endpoints, one after the
other, and the turns to which the stored rows belong. -/
namespace OrchidApi
open Text TurnLog

inductive Request where
  | send (message : Str) (files : List UploadFile)
  | stream (message : Str) (files : List UploadFile)
  | resume (approved : Bool)

def Request.isMessage : Request → Bool
  | .send _ _ | .stream _ _ => true
  | .resume _ => false

/-- One request with its identity and what it meets outside the storage. -/
structure Exchange where
  request : Request
  auth : AuthContext
  settings : Settings := {}
  runtime : Runtime := {}
  backend : Backend := {}

namespace Exchange

/-- The graph completes or raises an exception; it is not cancelled. -/
structure Ends (x : Exchange) : Prop where
  run : Caught x.backend.run.ending
  resumed : ∀ error, x.backend.resumed = .error error → error.isException = true

def after (chatId : Str) (x : Exchange) (w : World) : World :=
  match x.request with
  | .send message files =>
    (serve x.backend (sendChatMessage chatId message files x.auth x.settings x.runtime) w).2
  | .stream message files =>
    (serve x.backend (streamChatMessage chatId message files x.auth x.settings x.runtime) w).2
  | .resume approved => (serve x.backend (resumeChat chatId approved x.auth x.runtime) w).2

/-- The request is the owner's, and if it is a message, then the rows stored before it can be read;
otherwise it fails before the graph is run. -/
def Proceeds (chat : ChatSession) (stored : List Row) (x : Exchange) : Prop :=
  chat.OwnedBy x.auth ∧ (x.request.isMessage = true → Readable stored)

instance (chat : ChatSession) (stored : List Row) (x : Exchange) : Decidable (x.Proceeds chat stored) :=
  inferInstanceAs (Decidable (_ ∧ (_ → _)))

/-- A message that reaches the graph opens a turn, whatever becomes of it. -/
def opens (chat : ChatSession) (stored : List Row) (x : Exchange) : Bool :=
  x.Proceeds chat stored && x.request.isMessage

/-- What the request does to the transcript, read off its inputs and the rows before it. -/
def move (chat : ChatSession) (stored : List Row) (x : Exchange) : Move Row :=
  if x.Proceeds chat stored then
    match x.request with
    | .send message _ =>
      match x.backend.run.ending with
      | none => .exchange { role := .user, content := some message }
          (resultRow x.backend.run.lastResult false)
      | some (.graphInterrupt _) => .pause
      | some _ => .question { role := .user, content := some message }
    | .stream message _ =>
      if errored x.backend.run.ending then .question { role := .user, content := some message }
      else .exchange { role := .user, content := some message }
        ((exitState (loopState x.settings x.backend.run.events) x.backend.run.ending).assistantRow
          false)
    | .resume _ =>
      match x.backend.resumed with
      | .ok result => if x.runtime.hasCheckpointer then .answer (resultRow result false) else .idle
      | .error _ => .idle
  else .idle

/-- Whether a run that is over has the non-streaming endpoint store the message. -/
def sendStores (run : GraphRun) : Bool :=
  match run.ending with
  | none | some .cancelled => true
  | some (.graphInterrupt _) => false
  | some error => error.isException

/-- The message that the owner's request stores. -/
def question (chat : ChatSession) (stored : List Row) (x : Exchange) : Option Str :=
  if x.Proceeds chat stored then
    match x.request with
    | .send message _ => if sendStores x.backend.run then some message else none
    | .stream message _ => if Caught x.backend.run.ending then some message else none
    | .resume _ => none
  else none

/-- Whether a request that stores its message titles a chat without rows. -/
def titles (x : Exchange) : Bool :=
  match x.request with
  | .send _ _ => sendTitles x.backend.run
  | .stream _ _ => true
  | .resume _ => false

/-- The rows that the request adds to the chat, however its run ends. -/
def rows (chat : ChatSession) (stored : List Row) (x : Exchange) : List Row :=
  if x.Proceeds chat stored then
    match x.request with
    | .send message _ => sendRows message x.backend.run
    | .stream message _ =>
      if Caught x.backend.run.ending then streamedRows x.settings message x.backend.run else []
    | .resume _ => resumeRows x.runtime x.backend.resumed
  else []

/-- The title that the request has for a chat without rows. -/
def title (chat : ChatSession) (stored : List Row) (x : Exchange) : Option Str :=
  if x.titles then (x.question chat stored).map titleOf else none

end Exchange

/-- The world in which a request with these frames, rows and title ends. -/
def World.settle (w : World) (chatId : Str) (sent : List Frame) (rows : List Row)
    (title : Option Str) : World :=
  match title with
  | some title =>
    if (w.store.rows chatId).isEmpty then ((w.send sent).addRows chatId rows).retitle chatId title
    else (w.send sent).addRows chatId rows
  | none => (w.send sent).addRows chatId rows

/-- The world, and the turn of every row the requests have stored. -/
structure Conversation where
  world : World
  log : Log Row := {}

/-- The rows a request adds belong to the turn it opens, or to the latest one. -/
def Conversation.next (chatId : Str) (chat : ChatSession) (c : Conversation) (x : Exchange) :
    Conversation :=
  { world := x.after chatId c.world
    log := c.log.add (x.opens chat (c.world.store.rows chatId))
      (storedSince chatId c.world (x.after chatId c.world)) }

def converse (chatId : Str) (chat : ChatSession) (w : World) (xs : List Exchange) : Conversation :=
  xs.foldl (Conversation.next chatId chat) ⟨w, {}⟩

/-- The moves of the requests, each of which finds the rows of the ones before it. -/
def moves (chat : ChatSession) (xs : List Exchange) : List (Move Row) :=
  xs.foldl (fun done x => done ++ [x.move chat (playAll done).rows]) []

/-! ## One request -/

/-- The chat is there, with the owner it was found with. -/
def Held (chatId : Str) (chat : ChatSession) (w : World) : Prop :=
  ∃ current, w.store.session chatId = some current ∧
    ∀ auth, current.OwnedBy auth ↔ chat.OwnedBy auth

section Request
variable {chatId : Str} {chat : ChatSession} {w : World} {x : Exchange} {stored : List Row}

theorem held_rows (held : Held chatId chat w) (rows : List Row) :
    Held chatId chat (w.addRows chatId rows) := by
  simpa [Held] using held

theorem held_send (held : Held chatId chat w) (frames : List Frame) :
    Held chatId chat (w.send frames) := held

theorem held_retitle (held : Held chatId chat w) (title : Str) :
    Held chatId chat (w.retitle chatId title) := by
  obtain ⟨current, found, owner⟩ := held
  exact ⟨{ current with title }, by simp [World.retitle, found], owner⟩

theorem move_opens : (x.move chat stored).opens = x.opens chat stored := by
  unfold Exchange.move Exchange.opens
  by_cases proceeds : x.Proceeds chat stored
  · simp only [proceeds, ↓reduceIte, decide_true, Bool.true_and]
    cases x.request with
    | send message files => dsimp only; split <;> rfl
    | stream message files => dsimp only; split <;> rfl
    | resume approved =>
      dsimp only
      split
      · split <;> rfl
      · rfl
  · simp [proceeds, Move.opens]

theorem move_lawful : (x.move chat stored).Lawful (fun row => decide (row.role = .user))
    (fun row => decide (row.role = .assistant)) := by
  unfold Exchange.move
  repeat' split
  all_goals simp [Move.Lawful, resultRow, StreamState.assistantRow]

theorem send_rows {message : Str} {files : List UploadFile} (sends : x.request = .send message files)
    (proceeds : x.Proceeds chat stored) (ends : x.Ends) :
    sendRows message x.backend.run = (x.move chat stored).rows := by
  have caught := ends.run
  simp only [Exchange.move, proceeds, ↓reduceIte, sends, sendRows]
  cases ending : x.backend.run.ending with
  | none => rfl
  | some error =>
    have isException : error.isException = true := caught error (by simp [ending])
    cases error <;> first | contradiction | rfl

theorem stream_rows {message : Str} {files : List UploadFile}
    (streams : x.request = .stream message files) (proceeds : x.Proceeds chat stored) :
    streamedRows x.settings message x.backend.run = (x.move chat stored).rows := by
  simp only [Exchange.move, proceeds, ↓reduceIte, streams, streamedRows]
  split <;> rfl

theorem resume_rows {approved : Bool} (resumes : x.request = .resume approved)
    (proceeds : x.Proceeds chat stored) :
    resumeRows x.runtime x.backend.resumed = (x.move chat stored).rows := by
  simp only [Exchange.move, proceeds, ↓reduceIte, resumes, resumeRows]
  cases x.backend.resumed with
  | ok result => dsimp only; split <;> rfl
  | error error => rfl

/-- A chat that is not the caller's is left alone. -/
theorem after_foreign (foreign : ∀ other ∈ w.store.session chatId, ¬other.OwnedBy x.auth) :
    x.after chatId w = w := by
  unfold Exchange.after
  cases x.request with
  | send message files => dsimp only; rw [serve_send_foreign foreign]
  | stream message files => dsimp only; rw [serve_stream_foreign foreign]
  | resume approved => dsimp only; rw [serve_resume_foreign foreign]

theorem held_foreign (held : Held chatId chat w) {auth : AuthContext} (own : ¬chat.OwnedBy auth) :
    ∀ other ∈ w.store.session chatId, ¬other.OwnedBy auth := by
  obtain ⟨current, found, owner⟩ := held
  intro other member
  rw [Option.mem_def.mp member] at found
  rw [Option.some.inj found, owner]
  exact own

/-- A request that does not get to the graph leaves the chat alone. -/
theorem after_refused (held : Held chatId chat w)
    (refused : ¬x.Proceeds chat (w.store.rows chatId)) : x.after chatId w = w := by
  by_cases own : chat.OwnedBy x.auth
  · obtain ⟨isMessage, unreadable⟩ := Classical.not_imp.mp fun reads => refused ⟨own, reads⟩
    obtain ⟨current, found, owner⟩ := held
    have owns := (owner _).mpr own
    unfold Exchange.after
    cases request : x.request with
    | send message files => dsimp only; rw [serve_send_unreadable found owns unreadable]
    | stream message files => dsimp only; rw [serve_stream_unreadable found owns unreadable]
    | resume approved =>
      rw [request] at isMessage
      cases isMessage
  · exact after_foreign (held_foreign held own)

theorem held_settle (held : Held chatId chat w) (sent : List Frame) (rows : List Row)
    (title : Option Str) : Held chatId chat (w.settle chatId sent rows title) := by
  unfold World.settle
  have kept := held_rows (held_send held sent) rows
  split
  · split
    · exact held_retitle kept _
    · exact kept
  · exact kept

theorem rows_settle (sent : List Frame) (rows : List Row) (title : Option Str) :
    (w.settle chatId sent rows title).store.rows chatId = w.store.rows chatId ++ rows := by
  unfold World.settle
  split
  · split <;> simp [World.retitle]
  · simp

theorem after_send {message : Str} {files : List UploadFile} (sends : x.request = .send message files)
    (held : Held chatId chat w) (proceeds : x.Proceeds chat (w.store.rows chatId)) :
    x.after chatId w =
      w.settle chatId [] (x.rows chat (w.store.rows chatId)) (x.title chat (w.store.rows chatId)) := by
  obtain ⟨current, found, owner⟩ := held
  have readable := proceeds.2 (by rw [sends]; rfl)
  simp only [Exchange.after, sends, World.settle, Exchange.title, Exchange.titles, Exchange.question,
    Exchange.rows, proceeds, ↓reduceIte]
  rw [serve_sendChatMessage found ((owner _).mpr proceeds.1) readable, send_nil]
  have stores : sendTitles x.backend.run = true → Exchange.sendStores x.backend.run = true := by
    unfold sendTitles Exchange.sendStores
    cases x.backend.run.ending with
    | none => simp
    | some error => cases error <;> simp
  cases titles : sendTitles x.backend.run with
  | false => simp
  | true => simp [stores titles]

theorem after_stream {message : Str} {files : List UploadFile}
    (streams : x.request = .stream message files) (held : Held chatId chat w)
    (proceeds : x.Proceeds chat (w.store.rows chatId)) :
    ∃ sent, x.after chatId w =
      w.settle chatId sent (x.rows chat (w.store.rows chatId)) (x.title chat (w.store.rows chatId)) := by
  obtain ⟨current, found, owner⟩ := held
  have owns := (owner _).mpr proceeds.1
  have readable := proceeds.2 (by rw [streams]; rfl)
  simp only [Exchange.after, streams, World.settle, Exchange.title, Exchange.titles, Exchange.question,
    Exchange.rows, proceeds, ↓reduceIte]
  by_cases caught : Caught x.backend.run.ending
  · obtain ⟨sent, streamed⟩ := serve_streamChatMessage x.backend message files x.settings x.runtime
      found owns readable caught
    exact ⟨sent, by simp only [caught, ↓reduceIte, Option.map_some, streamed]⟩
  · refine ⟨loopFrames x.settings x.backend.run.events, ?_⟩
    simp only [caught, ↓reduceIte, Option.map_none,
      serve_streamChatMessage_uncaught found owns readable caught]
    rfl

/-- What a request does to the chat, however its run ends. -/
theorem after_settles (held : Held chatId chat w) :
    ∃ sent, x.after chatId w =
      w.settle chatId sent (x.rows chat (w.store.rows chatId)) (x.title chat (w.store.rows chatId)) := by
  by_cases proceeds : x.Proceeds chat (w.store.rows chatId)
  · cases sends : x.request with
    | send message files => exact ⟨[], after_send sends held proceeds⟩
    | stream message files => exact after_stream sends held proceeds
    | resume approved =>
      obtain ⟨current, found, owner⟩ := held
      refine ⟨[], ?_⟩
      simp only [Exchange.after, sends, World.settle, Exchange.title, Exchange.titles, Exchange.rows,
        proceeds, ↓reduceIte, Bool.false_eq_true, send_nil]
      exact serve_resumeChat found ((owner _).mpr proceeds.1)
  · refine ⟨[], ?_⟩
    simp only [World.settle, Exchange.title, Exchange.question, Exchange.rows, proceeds, ↓reduceIte,
      Option.map_none, ite_self, send_nil]
    exact after_refused held proceeds

theorem rows_move (ends : x.Ends) : x.rows chat stored = (x.move chat stored).rows := by
  by_cases proceeds : x.Proceeds chat stored
  · rw [Exchange.rows, if_pos proceeds]
    cases sends : x.request with
    | send message files => exact send_rows sends proceeds ends
    | stream message files => exact (if_pos ends.run).trans (stream_rows sends proceeds)
    | resume approved => exact resume_rows sends proceeds
  · simp [Exchange.rows, Exchange.move, proceeds, Move.rows]

/-- A request keeps the chat and its owner, and adds the rows of its move. -/
theorem after_spec (held : Held chatId chat w) (ends : x.Ends) :
    Held chatId chat (x.after chatId w) ∧ (x.after chatId w).store.rows chatId =
      w.store.rows chatId ++ (x.move chat (w.store.rows chatId)).rows := by
  obtain ⟨sent, settles⟩ := after_settles (x := x) held
  rw [settles, rows_settle, rows_move ends]
  exact ⟨held_settle held _ _ _, rfl⟩

end Request

/-! ## The whole conversation -/

section Conversation
variable {chatId : Str} {chat : ChatSession} {w : World}

theorem converse_concat (xs : List Exchange) (x : Exchange) :
    converse chatId chat w (xs ++ [x]) = (converse chatId chat w xs).next chatId chat x := by
  simp [converse]

theorem moves_concat (xs : List Exchange) (x : Exchange) :
    moves chat (xs ++ [x]) = moves chat xs ++ [x.move chat (playAll (moves chat xs)).rows] := by
  simp [moves]

theorem moves_lawful (xs : List Exchange) : ∀ move ∈ moves chat xs,
    move.Lawful (fun row => decide (row.role = .user)) (fun row => decide (row.role = .assistant)) := by
  induction xs using List.reverseRecOn with
  | nil => nofun
  | append_singleton xs x ih =>
    intro move member
    rw [moves_concat] at member
    rcases List.mem_append.mp member with earlier | last
    · exact ih move earlier
    · obtain rfl := List.mem_singleton.mp last
      exact move_lawful

/-- The conversation simulates the moves of its requests. -/
theorem converse_simulates (found : w.store.session chatId = some chat)
    (fresh : w.store.rows chatId = []) (xs : List Exchange) (ends : ∀ x ∈ xs, x.Ends) :
    Held chatId chat (converse chatId chat w xs).world ∧
      (converse chatId chat w xs).log = playAll (moves chat xs) ∧
      (converse chatId chat w xs).world.store.rows chatId = (converse chatId chat w xs).log.rows := by
  induction xs using List.reverseRecOn with
  | nil => exact ⟨⟨chat, found, fun _ => Iff.rfl⟩, rfl, fresh⟩
  | append_singleton xs x ih =>
    obtain ⟨held, log, rows⟩ := ih fun y member => ends y (by simp [member])
    obtain ⟨kept, added⟩ := after_spec held (ends x (by simp))
    have new : storedSince chatId (converse chatId chat w xs).world
        (x.after chatId (converse chatId chat w xs).world) =
          (x.move chat (converse chatId chat w xs).log.rows).rows := by
      rw [storedSince, added, List.drop_left, rows]
    rw [converse_concat, moves_concat, playAll_concat]
    refine ⟨kept, ?_, ?_⟩
    · simp only [Conversation.next, new, rows, log, Log.play, move_opens]
    · simp only [Conversation.next, added, new, rows]
      simp [Log.add, Log.rows]

/-- A conversation's transcript is sound exactly when its resumes are orderly: each one
that completes finds the latest message stored and an unanswered message to spare. -/
theorem transcript_sound_iff (chatId : Str) (chat : ChatSession) (w : World)
    (found : w.store.session chatId = some chat) (fresh : w.store.rows chatId = [])
    (xs : List Exchange) (ends : ∀ x ∈ xs, x.Ends) :
    (converse chatId chat w xs).world.store.rows chatId = (converse chatId chat w xs).log.rows ∧
      (Sound (fun row => decide (row.role = .user)) (fun row => decide (row.role = .assistant))
          (converse chatId chat w xs).log ↔
        Orderly (moves chat xs)) := by
  obtain ⟨_, log, rows⟩ := converse_simulates found fresh xs ends
  refine ⟨rows, ?_⟩
  rw [log]
  exact sound_iff_orderly _ (moves_lawful xs)

end Conversation

/-- A streamed message pauses for approval, and the resume completes. -/
def approvedLater : List Exchange := [
  { request := .stream "Order two pizzas".toList [], auth := sampleAuth
    backend := { run := ⟨[], some (.graphInterrupt .absent)⟩ } },
  { request := .resume true, auth := sampleAuth
    backend := { resumed := .ok { finalResponse := some (some "Ordered.".toList) } } }]

theorem transcript_sound_iff_sample :
    (converse "c".toList sampleChat sampleWorld approvedLater).world.store.rows "c".toList =
        (converse "c".toList sampleChat sampleWorld approvedLater).log.rows ∧
      (Sound (fun row => decide (row.role = .user)) (fun row => decide (row.role = .assistant))
          (converse "c".toList sampleChat sampleWorld approvedLater).log ↔
        Orderly (moves sampleChat approvedLater)) := by
  refine transcript_sound_iff "c".toList sampleChat sampleWorld rfl rfl approvedLater ?_
  intro x member
  simp only [approvedLater, List.mem_cons, List.not_mem_nil, or_false] at member
  rcases member with rfl | rfl <;> exact ⟨by simp [Caught, Exn.isException], by simp⟩

/-- The same message sent without streaming. -/
def approvedWithoutQuestion : List Exchange := [
  { request := .send "Order two pizzas".toList [], auth := sampleAuth
    backend := { run := ⟨[], some (.graphInterrupt .absent)⟩ } },
  { request := .resume true, auth := sampleAuth
    backend := { resumed := .ok { finalResponse := some (some "Ordered.".toList) } } }]

/-- The interrupt stores nothing, and the resume then stores the answer to a question that
the chat does not have. -/
theorem answer_without_question :
    (converse "c".toList sampleChat sampleWorld approvedWithoutQuestion).world.store.rows "c".toList =
        [{ role := .assistant, content := some "Ordered.".toList }] ∧
      ¬Sound (fun row => decide (row.role = .user)) (fun row => decide (row.role = .assistant))
        (converse "c".toList sampleChat sampleWorld approvedWithoutQuestion).log := by
  refine ⟨by decide, fun sound => ?_⟩
  have alone := sound.2 _ List.prefix_rfl
  revert alone
  decide

end OrchidApi
