import OrchidApi.Messages
import OrchidApi.StreamingRun

/-! What one request to each of the three endpoints does to the in-memory storage. -/
namespace OrchidApi
open Text Async

section Serve
variable {b : Backend} {w : World} {chatId message : Str} {files : List UploadFile}
  {auth : AuthContext} {settings : Settings} {runtime : Runtime} {chat : ChatSession}

/-! ## Preparation -/

theorem serve_verify_owned (found : w.store.session chatId = some chat) (own : chat.OwnedBy auth) :
    serve b (verifyChatOwnership chatId auth) w = (.ok chat, w) :=
  exec_verifyChatOwnership (by simp [server, found]) own

theorem serve_verify_foreign (foreign : ∀ chat ∈ w.store.session chatId, ¬chat.OwnedBy auth) :
    serve b (verifyChatOwnership chatId auth) w = (.error chatNotFound, w) := by
  rw [verifyChatOwnership, serve_bind_ok (serve_getChat chatId)]
  cases found : w.store.session chatId with
  | none => rfl
  | some chat => simp [foreign chat found]

theorem serve_ingest (document : Ingestion) :
    serve b (suppress (do let _ ← ingestDocument document; pure ())) w = (.ok (), w) := by
  rw [suppress, serve_attempt]
  cases ingested : b.ingest document with
  | none =>
    rw [serve_bind_error (by rw [serve_ingestDocument, ingested]; rfl)]
    rfl
  | some chunks =>
    rw [serve_bind_ok (by rw [serve_ingestDocument, ingested]; rfl)]
    rfl

variable (b w chatId auth settings runtime) in
/-- Attachments contribute text and never fail the request. -/
theorem serve_processUploadedFile (file : UploadFile) :
    ∃ parts, serve b (processUploadedFile chatId auth settings runtime.reader file) w =
      (.ok parts, w) := by
  unfold processUploadedFile
  split
  · exact ⟨_, rfl⟩
  · rename_i filename named
    split
    · exact ⟨_, rfl⟩
    · rw [serve_attempt, serve_extractText]
      cases extracted : b.extract file with
      | none => exact ⟨[], rfl⟩
      | some text =>
        simp only [orRaise]
        by_cases writer : runtime.reader.isWriter
        · simp only [writer, ↓reduceIte]
          rw [serve_bind_ok (serve_ingest _)]
          exact ⟨_, rfl⟩
        · simp only [writer, Bool.false_eq_true, ↓reduceIte]
          exact ⟨_, rfl⟩

variable (b w chatId auth settings runtime) in
theorem serve_processUploadedFiles (files : List UploadFile) :
    ∃ parts, serve b (processUploadedFiles chatId auth settings runtime.reader files) w =
      (.ok parts, w) := by
  induction files with
  | nil => exact ⟨[], rfl⟩
  | cons file rest ih =>
    obtain ⟨parts, first⟩ := serve_processUploadedFile b w chatId auth settings runtime file
    obtain ⟨later, tail⟩ := ih
    refine ⟨parts ++ later, ?_⟩
    rw [processUploadedFiles, serve_bind_ok first, serve_bind_ok tail]
    rfl

/-- The caller has a token for the server that is still valid. -/
def Backend.authorizes (b : Backend) (auth : AuthContext) (name : Str) : Bool :=
  ((b.token auth.tenantKey auth.userId name).map fun token => !token.isExpired).getD false

theorem serve_tokenStatus (names : List Str) :
    serve b (tokenStatus auth names) w = (.ok (names.map fun name => (name, b.authorizes auth name)), w) := by
  induction names with
  | nil => rfl
  | cons name rest ih =>
    rw [tokenStatus, serve_bind_ok (serve_getToken _ _ _), serve_bind_ok ih]
    rfl

variable (b w auth runtime) in
theorem serve_checkMcpAuth : ∃ status, serve b (checkMcpAuth auth runtime) w = (.ok status, w) := by
  unfold checkMcpAuth
  split
  · exact ⟨[], rfl⟩
  · split
    · exact ⟨[], rfl⟩
    · exact ⟨_, serve_tokenStatus _⟩

/-- The history that is loaded can be turned into messages. -/
def Readable (rows : List Row) : Prop := ∀ row ∈ rows.take 50, row.readable = true

instance (rows : List Row) : Decidable (Readable rows) :=
  inferInstanceAs (Decidable (∀ row ∈ rows.take 50, row.readable = true))

variable (b w chatId) in
theorem serve_loadConversationHistory :
    serve b (loadConversationHistory chatId) w =
      (if Readable (w.store.rows chatId) then
        .ok ((w.store.page chatId 50 0).filter fun row => row.role = .user ∨ row.role = .assistant,
          w.store.page chatId 50 0)
      else .error .other, w) := by
  have readable : (w.store.page chatId 50 0).all Row.readable = true ↔ Readable (w.store.rows chatId) :=
    List.all_eq_true
  rw [loadConversationHistory, serve_bind_ok (serve_getMessages _ _ _)]
  by_cases all : Readable (w.store.rows chatId)
  · rw [if_pos (readable.mpr all), if_pos all]
    rfl
  · rw [if_neg fun every => all (readable.mp every), if_neg all]
    rfl

variable (message files settings) in
theorem serve_prepared {status : List (Str × Bool)} (found : w.store.session chatId = some chat)
    (own : chat.OwnedBy auth) (readable : Readable (w.store.rows chatId))
    (tokens : serve b (checkMcpAuth auth runtime) w = (.ok status, w)) :
    ∃ prepared, serve b (prepareGraphState chatId message files auth settings runtime) w =
        (.ok prepared, w) ∧
      prepared.message = message ∧ prepared.historyRows = w.store.page chatId 50 0 ∧
      prepared.mcpAuthStatus = status := by
  obtain ⟨parts, uploads⟩ := serve_processUploadedFiles b w chatId auth settings runtime files
  have history := serve_loadConversationHistory b w chatId
  rw [if_pos readable] at history
  rw [prepareGraphState, serve_bind_ok (serve_verify_owned found own), serve_bind_ok uploads,
    serve_bind_ok history, serve_bind_ok tokens]
  exact ⟨_, rfl, rfl, rfl, rfl⟩

variable (b message files settings runtime) in
/-- The owner's request is prepared without an effect on the storage. -/
theorem serve_prepareGraphState (found : w.store.session chatId = some chat)
    (own : chat.OwnedBy auth) (readable : Readable (w.store.rows chatId)) :
    ∃ prepared, serve b (prepareGraphState chatId message files auth settings runtime) w =
        (.ok prepared, w) ∧
      prepared.message = message ∧ prepared.historyRows = w.store.page chatId 50 0 := by
  obtain ⟨status, tokens⟩ := serve_checkMcpAuth b w auth runtime
  obtain ⟨prepared, prepares, asked, history, _⟩ :=
    serve_prepared message files settings found own readable tokens
  exact ⟨prepared, prepares, asked, history⟩

/-- A history with a row that lacks its content fails the request before it reaches the graph. -/
theorem serve_prepare_unreadable (found : w.store.session chatId = some chat) (own : chat.OwnedBy auth)
    (unreadable : ¬Readable (w.store.rows chatId)) :
    serve b (prepareGraphState chatId message files auth settings runtime) w = (.error .other, w) := by
  obtain ⟨parts, uploads⟩ := serve_processUploadedFiles b w chatId auth settings runtime files
  have history := serve_loadConversationHistory b w chatId
  rw [if_neg unreadable] at history
  rw [prepareGraphState, serve_bind_ok (serve_verify_owned found own), serve_bind_ok uploads,
    serve_bind_error history]

theorem serve_prepare_foreign (foreign : ∀ chat ∈ w.store.session chatId, ¬chat.OwnedBy auth) :
    serve b (prepareGraphState chatId message files auth settings runtime) w =
      (.error chatNotFound, w) := by
  rw [prepareGraphState, serve_bind_error (serve_verify_foreign foreign)]

/-! ## The non-streaming endpoint -/

/-- The rows that a non-streaming send appends. -/
def sendRows (message : Str) (run : GraphRun) : List Row :=
  match run.ending with
  | none => [{ role := .user, content := some message }, resultRow run.lastResult false]
  | some .cancelled => [{ role := .user, content := some message }, resultRow run.lastResult true]
  | some (.graphInterrupt _) => []
  | some error => if error.isException then [{ role := .user, content := some message }] else []

/-- It titles a new chat only at its normal tail. -/
def sendTitles (run : GraphRun) : Bool :=
  match run.ending with
  | none | some .cancelled => true
  | _ => false

theorem serve_replyOf (result : Values) (authRequired : List Str) :
    (serve b (replyOf chatId auth result authRequired) w).2 = w := by
  unfold replyOf
  split <;> rfl

theorem serve_interrupted (payload : InterruptPayload) :
    (serve b (interrupted payload chatId auth) w).2 = w := by
  unfold interrupted
  split <;> rfl

theorem serve_finishMessage (prepared : PreparedState) (result : Values) (cancelled : Bool) :
    (serve b (finishMessage chatId auth prepared result cancelled) w).2 =
      (w.addRows chatId [userRow prepared, resultRow result cancelled]).autoTitle chatId prepared := by
  rw [finishMessage, serve_bind_ok (serve_addMessage _ _), serve_bind_ok (serve_addMessage _ _),
    serve_bind_ok serve_autoTitle]
  exact serve_replyOf _ _

/-- Titling reads the rows before the request, so it may be done on the world before it. -/
theorem autoTitle_eq {prepared : PreparedState} {v : World}
    (history : prepared.historyRows = w.store.page chatId 50 0) :
    v.autoTitle chatId prepared = if (w.store.rows chatId).isEmpty then
      v.retitle chatId (titleOf prepared.message) else v := by
  rw [World.autoTitle, history, w.store.page_isEmpty chatId 50 (by decide)]

theorem serve_sendChatMessage (found : w.store.session chatId = some chat) (own : chat.OwnedBy auth)
    (readable : Readable (w.store.rows chatId)) :
    (serve b (sendChatMessage chatId message files auth settings runtime) w).2 =
      if sendTitles b.run ∧ (w.store.rows chatId).isEmpty then
        (w.addRows chatId (sendRows message b.run)).retitle chatId (titleOf message)
      else w.addRows chatId (sendRows message b.run) := by
  obtain ⟨prepared, prepares, rfl, history⟩ := serve_prepareGraphState b message files
    settings runtime found own readable
  rw [sendChatMessage, serve_bind_ok prepares, serve_bind_ok (serve_startGraph _)]
  have user : ({ role := .user, content := some prepared.message } : Row) = userRow prepared := rfl
  unfold sendRows sendTitles
  cases ending : b.run.ending with
  | none =>
    dsimp only
    rw [serve_finishMessage, autoTitle_eq history]
    simp [user]
  | some error =>
    cases error
    case cancelled =>
      dsimp only
      rw [serve_finishMessage, autoTitle_eq history]
      simp [user]
    case graphInterrupt payload => exact serve_interrupted payload
    case generatorExit => rfl
    all_goals
      simp only [Exn.isException, ↓reduceIte, Bool.false_eq_true, false_and, user]
      rw [serve_bind_ok (serve_suppress (serve_addMessage _ _))]
      rfl

theorem serve_send_foreign (foreign : ∀ chat ∈ w.store.session chatId, ¬chat.OwnedBy auth) :
    serve b (sendChatMessage chatId message files auth settings runtime) w =
      (.error chatNotFound, w) := by
  rw [sendChatMessage, serve_bind_error (serve_prepare_foreign foreign)]

theorem serve_send_unreadable (found : w.store.session chatId = some chat) (own : chat.OwnedBy auth)
    (unreadable : ¬Readable (w.store.rows chatId)) :
    serve b (sendChatMessage chatId message files auth settings runtime) w = (.error .other, w) := by
  rw [sendChatMessage, serve_bind_error (serve_prepare_unreadable found own unreadable)]

/-! ## The streaming endpoint -/

/-- The rows that a streamed send appends when the iteration was not cancelled. -/
def streamedRows (settings : Settings) (message : Str) (run : GraphRun) : List Row :=
  { role := .user, content := some message } :: if errored run.ending then [] else
    [(exitState (loopState settings run.events) run.ending).assistantRow false]

variable (b message files settings runtime) in
theorem serve_streamChatMessage (found : w.store.session chatId = some chat)
    (own : chat.OwnedBy auth) (readable : Readable (w.store.rows chatId))
    (caught : Caught b.run.ending) :
    ∃ sent, (serve b (streamChatMessage chatId message files auth settings runtime) w).2 =
      if (w.store.rows chatId).isEmpty then
        ((w.send sent).addRows chatId (streamedRows settings message b.run)).retitle chatId
          (titleOf message)
      else (w.send sent).addRows chatId (streamedRows settings message b.run) := by
  obtain ⟨prepared, prepares, rfl, history⟩ := serve_prepareGraphState b message files
    settings runtime found own readable
  refine ⟨streamFrames settings prepared b.run, ?_⟩
  rw [streamChatMessage, serve_bind_ok prepares, serve_stream caught, autoTitle_eq history]
  rfl

theorem serve_streamChatMessage_uncaught (found : w.store.session chatId = some chat)
    (own : chat.OwnedBy auth) (readable : Readable (w.store.rows chatId))
    (uncaught : ¬Caught b.run.ending) :
    (serve b (streamChatMessage chatId message files auth settings runtime) w).2 =
      w.send (loopFrames settings b.run.events) := by
  obtain ⟨prepared, prepares, rfl, _⟩ := serve_prepareGraphState b message files
    settings runtime found own readable
  rw [streamChatMessage, serve_bind_ok prepares, serve_stream_uncaught uncaught]

theorem serve_stream_foreign (foreign : ∀ chat ∈ w.store.session chatId, ¬chat.OwnedBy auth) :
    serve b (streamChatMessage chatId message files auth settings runtime) w =
      (.error chatNotFound, w) := by
  rw [streamChatMessage, serve_bind_error (serve_prepare_foreign foreign)]

theorem serve_stream_unreadable (found : w.store.session chatId = some chat) (own : chat.OwnedBy auth)
    (unreadable : ¬Readable (w.store.rows chatId)) :
    serve b (streamChatMessage chatId message files auth settings runtime) w = (.error .other, w) := by
  rw [streamChatMessage, serve_bind_error (serve_prepare_unreadable found own unreadable)]

/-! ## Resuming -/

def resumeRows (runtime : Runtime) (resumed : Except Exn Values) : List Row :=
  match resumed with
  | .ok result => if runtime.hasCheckpointer then [resultRow result false] else []
  | .error _ => []

theorem serve_resumeChat {approved : Bool} (found : w.store.session chatId = some chat)
    (own : chat.OwnedBy auth) :
    (serve b (resumeChat chatId approved auth runtime) w).2 =
      w.addRows chatId (resumeRows runtime b.resumed) := by
  rw [resumeChat, serve_bind_ok (serve_verify_owned found own)]
  by_cases checkpointer : runtime.hasCheckpointer
  · simp only [checkpointer, ↓reduceIte, resumeRows]
    rw [serve_attempt, serve_ainvoke]
    cases b.resumed with
    | ok result =>
      dsimp only
      rw [serve_bind_ok (serve_addMessage _ _)]
      exact serve_replyOf _ _
    | error error =>
      cases error
      case graphInterrupt payload => exact serve_interrupted payload
      all_goals rfl
  · cases resumed : b.resumed <;> simp [checkpointer, resumeRows] <;> rfl

theorem serve_resume_foreign {approved : Bool}
    (foreign : ∀ chat ∈ w.store.session chatId, ¬chat.OwnedBy auth) :
    serve b (resumeChat chatId approved auth runtime) w = (.error chatNotFound, w) := by
  rw [resumeChat, serve_bind_error (serve_verify_foreign foreign)]

end Serve

/-! A chat without messages, with its owner. -/

def sampleChat : ChatSession := ⟨"c".toList, "t".toList, "u".toList, "New chat".toList, false⟩

def sampleAuth : AuthContext := { tenantKey := "t".toList, userId := "u".toList }

def sampleWorld : World := ⟨{ sessions := [sampleChat] }, []⟩

end OrchidApi
