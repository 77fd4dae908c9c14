import OrchidApi.MessagesRun
import OrchidApi.StreamingAnswer

/-! The two message endpoints side by side: where they store the same turn and leave the
same title, and where they were built to differ. -/
namespace OrchidApi
open Text

/-- The part of a row on which the endpoints are compared. -/
def Row.stored (row : Row) : Role × Option Str × Bool := (row.role, row.content, row.cancelled)

def SameRows (chatId : Str) (s t : MemoryStore) : Prop :=
  (s.rows chatId).map Row.stored = (t.rows chatId).map Row.stored

instance : Decidable (SameRows chatId s t) := inferInstanceAs (Decidable (_ = _))

/-- The store after the message went to the non-streaming endpoint. -/
def afterSend (b : Backend) (w : World) (chatId message : Str) (files : List UploadFile)
    (auth : AuthContext) (settings : Settings) (runtime : Runtime) : MemoryStore :=
  (serve b (sendChatMessage chatId message files auth settings runtime) w).2.store

/-- The store after the same message was streamed. -/
def afterStream (b : Backend) (w : World) (chatId message : Str) (files : List UploadFile)
    (auth : AuthContext) (settings : Settings) (runtime : Runtime) : MemoryStore :=
  (serve b (streamChatMessage chatId message files auth settings runtime) w).2.store

/-- The last state value carries the answer, and what was accepted of the supervisor's
chunks makes up that answer, if there was any. -/
structure Answers (settings : Settings) (run : GraphRun) (r : Str) : Prop where
  final : ∃ payload, run.values.getLast? = some payload ∧ payload.finalResponse = some (some r)
  spoken : r ≠ []
  chunks : (loopState settings run.events).buffer.chunks = [] ∨
    (loopState settings run.events).buffer.chunks.flatten = r

theorem answers_values (run : GraphRun) : answers run.events = run.values.filterMap Values.answer? := by
  rw [GraphRun.values, List.filterMap_filterMap]
  rfl

theorem direct_answer {settings : Settings} {run : GraphRun} {r : Str}
    (answered : Answers settings run r) : (loopState settings run.events).directFinal = some r := by
  obtain ⟨payload, last, final⟩ := answered.final
  obtain ⟨earlier, values⟩ := List.getLast?_eq_some_iff.mp last
  have answer : payload.answer? = some r := by simp [Values.answer?, final, answered.spoken]
  rw [loopState, drive_directFinal, answers_values, values]
  simp [answer]

/-- The streamed response of an answered run is the answer, from chunks or from the state. -/
theorem answered_response {settings : Settings} {run : GraphRun} {r : Str}
    (answered : Answers settings run r) :
    (exitState (loopState settings run.events) none).response = r := by
  have parts := (exhausted_exit settings _ (loopState_invariant settings run.events)
    (loopState_parts settings run.events)).2
  have whole : (exitState (loopState settings run.events) none).fullResponseParts.flatten = r := by
    rw [parts, StreamState.answerTokens, direct_answer answered]
    rcases answered.chunks with silent | spoken
    · simp [silent]
    · have held : (loopState settings run.events).buffer.chunks ≠ [] := by
        intro empty
        rw [empty] at spoken
        exact answered.spoken spoken.symm
      simp [held, spoken]
  simp [StreamState.response, whole, answered.spoken]

section Agreement
variable (b : Backend) (w : World) (chatId message : Str) (files : List UploadFile)
  (auth : AuthContext) (settings : Settings) (runtime : Runtime) (chat : ChatSession)
  (found : w.store.session chatId = some chat) (own : chat.OwnedBy auth)
include found own

/-- A chat whose history cannot be read refuses both before any run. -/
theorem unreadable_agrees (unreadable : ¬Readable (w.store.rows chatId)) :
    afterSend b w chatId message files auth settings runtime = w.store ∧
      afterStream b w chatId message files auth settings runtime = w.store := by
  rw [afterSend, afterStream, serve_send_unreadable found own unreadable,
    serve_stream_unreadable found own unreadable]
  exact ⟨rfl, rfl⟩

theorem normal_agrees (r : Str) (normal : b.run.ending = none) (answered : Answers settings b.run r) :
    SameRows chatId (afterSend b w chatId message files auth settings runtime)
        (afterStream b w chatId message files auth settings runtime) ∧
      (afterSend b w chatId message files auth settings runtime).title chatId =
        (afterStream b w chatId message files auth settings runtime).title chatId := by
  by_cases readable : Readable (w.store.rows chatId)
  swap
  · obtain ⟨sent, streamed⟩ :=
      unreadable_agrees b w chatId message files auth settings runtime chat found own readable
    rw [sent, streamed]
    exact ⟨rfl, rfl⟩
  obtain ⟨sent, streamed⟩ := serve_streamChatMessage b message files settings runtime found own readable
    (by simp [Caught, normal])
  obtain ⟨payload, last, final⟩ := answered.final
  have text : responseText b.run.lastResult = some r := by
    simp [GraphRun.lastResult, last, responseText, final]
  have response := answered_response answered
  simp only [afterSend, afterStream, SameRows]
  rw [serve_sendChatMessage found own readable, streamed]
  by_cases first : (w.store.rows chatId).isEmpty <;>
    simp [first, sendTitles, sendRows, streamedRows, normal, errored, World.retitle, Row.stored,
      resultRow, text, StreamState.assistantRow, response]

/-- An exception other than an interrupt or an expired budget leaves the question alone. -/
theorem failure_agrees (error : Exn) (failed : b.run.ending = some error)
    (isException : error.isException = true) (notInterrupt : error.isInterrupt = false)
    (notTimeout : timedOut (some error) = false) :
    SameRows chatId (afterSend b w chatId message files auth settings runtime)
        (afterStream b w chatId message files auth settings runtime) ∧
      (w.store.rows chatId ≠ [] →
        (afterSend b w chatId message files auth settings runtime).title chatId =
          (afterStream b w chatId message files auth settings runtime).title chatId) := by
  by_cases readable : Readable (w.store.rows chatId)
  swap
  · obtain ⟨sent, streamed⟩ :=
      unreadable_agrees b w chatId message files auth settings runtime chat found own readable
    rw [sent, streamed]
    exact ⟨rfl, fun _ => rfl⟩
  obtain ⟨sent, streamed⟩ := serve_streamChatMessage b message files settings runtime found own readable
    (by simp [Caught, failed, isException])
  have rows : sendRows message b.run = streamedRows settings message b.run := by
    cases error <;> simp_all [sendRows, streamedRows, errored, Exn.isException, Exn.isInterrupt, timedOut]
  have untitled : sendTitles b.run = false := by
    cases error <;> simp_all [sendTitles, Exn.isException, Exn.isInterrupt]
  simp only [afterSend, afterStream, SameRows]
  rw [serve_sendChatMessage found own readable, streamed, rows, untitled]
  constructor
  · by_cases first : (w.store.rows chatId).isEmpty <;> simp [first, World.retitle]
  · intro later
    simp [later]

/-- The rows of a stopped run, in a chat whose history can be read. -/
def stoppedRows (w : World) (chatId message : Str) (run : GraphRun) : List Row :=
  if Readable (w.store.rows chatId) then
    [{ role := .user, content := some message }, resultRow run.lastResult true]
  else []

/-- A stop before any content: the one keeps the turn with its marker, the other nothing. -/
theorem stop_differs (stopped : b.run.ending = some .cancelled) :
    (afterSend b w chatId message files auth settings runtime).rows chatId =
        w.store.rows chatId ++ stoppedRows w chatId message b.run ∧
      (afterSend b w chatId message files auth settings runtime).title chatId =
        (if w.store.rows chatId = [] then some (titleOf message) else w.store.title chatId) ∧
      (afterStream b w chatId message files auth settings runtime).rows chatId =
        w.store.rows chatId ∧
      (afterStream b w chatId message files auth settings runtime).title chatId =
        w.store.title chatId := by
  by_cases readable : Readable (w.store.rows chatId)
  · have uncaught : ¬Caught b.run.ending := by simp [Caught, stopped, Exn.isException]
    simp only [afterSend, afterStream, stoppedRows, readable, ↓reduceIte]
    rw [serve_sendChatMessage found own readable,
      serve_streamChatMessage_uncaught found own readable uncaught]
    have titled : w.store.title chatId = some chat.title := by simp [MemoryStore.title, found]
    by_cases first : w.store.rows chatId = [] <;>
      simp [first, sendTitles, sendRows, stopped, World.retitle, titled]
  · obtain ⟨sent, streamed⟩ :=
      unreadable_agrees b w chatId message files auth settings runtime chat found own readable
    have later : w.store.rows chatId ≠ [] := fun none => readable (by simp [Readable, none])
    rw [sent, streamed, stoppedRows, if_neg readable, List.append_nil, if_neg later]
    exact ⟨rfl, rfl, rfl, rfl⟩

/-- The endpoints agree on answered runs and on failures; they differ by design on a stop
before any content. -/
theorem endpoints_agree :
    (∀ r, b.run.ending = none → Answers settings b.run r →
      SameRows chatId (afterSend b w chatId message files auth settings runtime)
          (afterStream b w chatId message files auth settings runtime) ∧
        (afterSend b w chatId message files auth settings runtime).title chatId =
          (afterStream b w chatId message files auth settings runtime).title chatId) ∧
    (∀ error, b.run.ending = some error → error.isException = true → error.isInterrupt = false →
      timedOut (some error) = false →
      SameRows chatId (afterSend b w chatId message files auth settings runtime)
          (afterStream b w chatId message files auth settings runtime) ∧
        (w.store.rows chatId ≠ [] →
          (afterSend b w chatId message files auth settings runtime).title chatId =
            (afterStream b w chatId message files auth settings runtime).title chatId)) ∧
    (b.run.ending = some .cancelled → (loopState settings b.run.events).buffer.chunks = [] →
      (afterSend b w chatId message files auth settings runtime).rows chatId =
          w.store.rows chatId ++ stoppedRows w chatId message b.run ∧
        (afterSend b w chatId message files auth settings runtime).title chatId =
          (if w.store.rows chatId = [] then some (titleOf message) else w.store.title chatId) ∧
        (afterStream b w chatId message files auth settings runtime).rows chatId =
          w.store.rows chatId ∧
        (afterStream b w chatId message files auth settings runtime).title chatId =
          w.store.title chatId) :=
  ⟨fun r normal answered =>
      normal_agrees b w chatId message files auth settings runtime chat found own r normal answered,
    fun error failed isException notInterrupt notTimeout =>
      failure_agrees b w chatId message files auth settings runtime chat found own error failed
        isException notInterrupt notTimeout,
    fun stopped _ =>
      stop_differs b w chatId message files auth settings runtime chat found own stopped⟩

end Agreement

theorem endpoints_agree_sample :
    SameRows "c".toList
        (afterSend { run := ⟨sampleEvents, none⟩ } sampleWorld "c".toList "Hi".toList [] sampleAuth {} {})
        (afterStream { run := ⟨sampleEvents, none⟩ } sampleWorld "c".toList "Hi".toList [] sampleAuth {} {}) ∧
      (afterSend { run := ⟨sampleEvents, none⟩ } sampleWorld "c".toList "Hi".toList [] sampleAuth {} {}).title
          "c".toList =
        (afterStream { run := ⟨sampleEvents, none⟩ } sampleWorld "c".toList "Hi".toList [] sampleAuth {} {}).title
          "c".toList :=
  (endpoints_agree { run := ⟨sampleEvents, none⟩ } sampleWorld "c".toList "Hi".toList [] sampleAuth
    {} {} sampleChat rfl ⟨rfl, rfl⟩).1 "Two pizzas are left.".toList rfl
    ⟨⟨_, rfl, rfl⟩, by decide, .inr (by decide)⟩

/-- On a chat without messages: a stop, an empty answer, a null answer and a timeout store
different rows, and a failure leaves a different title. -/
theorem endpoints_disagree :
    (∀ run ∈ [⟨[], some .cancelled⟩, ⟨[.values { finalResponse := some (some []) }], none⟩,
        ⟨[.values { finalResponse := some none }], none⟩, ⟨[], some .timeout⟩],
      ¬SameRows "c".toList
        (afterSend { run } sampleWorld "c".toList "Hi".toList [] sampleAuth {} {})
        (afterStream { run } sampleWorld "c".toList "Hi".toList [] sampleAuth {} {})) ∧
    (afterSend { run := ⟨[], some .other⟩ } sampleWorld "c".toList "Hi".toList [] sampleAuth {} {}).title
        "c".toList ≠
      (afterStream { run := ⟨[], some .other⟩ } sampleWorld "c".toList "Hi".toList [] sampleAuth {} {}).title
        "c".toList := by
  constructor
  · intro run member
    simp only [List.mem_cons, List.not_mem_nil, or_false] at member
    rcases member with rfl | rfl | rfl | rfl <;> decide
  · decide

end OrchidApi
