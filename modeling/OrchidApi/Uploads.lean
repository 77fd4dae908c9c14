import OrchidApi.ChatRequests
import OrchidApi.MessagesRun

/-! What requests with files do on the in-memory storage: which calls hand a file on to the
document pipeline, and which rows an upload stores. -/
namespace OrchidApi
open Text Async

/-! ## Files by themselves -/

def tooLarge (settings : Settings) (file : UploadFile) : Bool :=
  file.bytes.length > settings.uploadMaxSizeMb * 1024 * 1024

/-- A file with a name and within the limit, as both loops take it. -/
def namedFile (settings : Settings) (file : UploadFile) : Option Str :=
  match file.filename with
  | none => none
  | some filename => if filename.isEmpty || tooLarge settings file then none else some filename

/-- The name under which the upload endpoint ingests a file. -/
def uploadedAs (settings : Settings) (file : UploadFile) : Option Str :=
  (namedFile settings file).bind fun filename =>
    match validateUpload filename file.contentType file.bytes with
    | (safeName, none) => some safeName
    | (_, some _) => none

section Files
variable (chatId : Str) (auth : AuthContext) (settings : Settings) (b : Backend)

def uploadOf (file : UploadFile) (safeName : Str) : Ingestion :=
  ⟨file.bytes, safeName, scopeOf chatId auth, settings.uploadNamespace, none⟩

def attachmentOf (file : UploadFile) (filename text : Str) : Ingestion :=
  ⟨file.bytes, filename, scopeOf chatId auth, settings.uploadNamespace, some text⟩

/-- The calls with which the upload endpoint hands a file on. -/
def uploadCalls (file : UploadFile) : List Call :=
  match uploadedAs settings file with
  | some safeName => [.ingestDocument (uploadOf chatId auth settings file safeName)]
  | none => []

/-- The calls with which the message endpoints hand an attachment on. -/
def attachmentCalls (reader : Reader) (file : UploadFile) : List Call :=
  match namedFile settings file with
  | none => []
  | some filename => .extractText file filename ::
    match b.extract file with
    | some text =>
      if reader.isWriter then [.ingestDocument (attachmentOf chatId auth settings file filename text)]
      else []
    | none => []

/-- The row that an ingested file leaves in the chat. -/
def uploadRows (file : UploadFile) : List Row :=
  match uploadedAs settings file with
  | some safeName =>
    ((b.ingest (uploadOf chatId auth settings file safeName)).map (uploadedRow safeName)).toList
  | none => []

end Files

/-- The calls of a request that hand files on, in order. -/
def handedOn (b : Backend) (p : Handler α) (w : World) : List Call :=
  (p.calls (server b) w).filter Call.processes

section Handed
variable {b : Backend} {w : World} {chatId : Str} {auth : AuthContext}

theorem handedOn_plain {p : Handler α} (plain : p.Uses (PlainCall chatId auth)) : handedOn b p w = [] := by
  refine List.filter_eq_nil_iff.mpr fun c made => ?_
  have quiet : c.processes = false := (Prog.uses_calls plain w c made).2
  simp [quiet]

theorem handedOn_attempt (p : Handler α) (k : Except Exn α → Handler β) :
    handedOn b (p.attempt k) w =
      handedOn b p w ++ handedOn b (k (serve b p w).1) (serve b p w).2 := by
  rw [handedOn, Prog.calls_attempt, List.filter_append]
  rfl

theorem handedOn_bind {p : Handler α} {f : α → Handler β} {v : World} {value : α}
    (first : serve b p w = (.ok value, v)) :
    handedOn b (p >>= f) w = handedOn b p w ++ handedOn b (f value) v := by
  rw [handedOn, Prog.calls_bind_ok first, List.filter_append]
  rfl

theorem handedOn_raised {p : Handler α} {f : α → Handler β} {v : World} {error : Exn}
    (first : serve b p w = (.error error, v)) : handedOn b (p >>= f) w = handedOn b p w := by
  rw [handedOn, Prog.calls_bind_error first]
  rfl

theorem handedOn_await (c : Call) : handedOn b (await c) w = if c.processes then [c] else [] := by
  rw [handedOn, await, Prog.calls_await, List.filter_singleton]
  cases c.processes <;> rfl

theorem handedOn_getChat (id : Str) : handedOn b (ChatRepo.getChat id) w = [] :=
  handedOn_await (.getChat id)
theorem handedOn_extractText (file : UploadFile) (filename : Str) :
    handedOn b (extractText file filename) w = [.extractText file filename] :=
  handedOn_await (.extractText file filename)
theorem handedOn_ingestDocument (document : Ingestion) :
    handedOn b (ingestDocument document) w = [.ingestDocument document] :=
  handedOn_await (.ingestDocument document)

variable (b w chatId auth) in
theorem handedOn_verify : handedOn b (verifyChatOwnership chatId auth) w = [] := by
  rw [verifyChatOwnership, handedOn_bind (serve_getChat chatId), handedOn_getChat]
  split
  · rfl
  · split <;> rfl

/-! ## The upload endpoint -/

theorem addRows_append (w : World) (id : Str) (first second : List Row) :
    (w.addRows id first).addRows id second = w.addRows id (first ++ second) :=
  List.foldl_append.symm

/-- A failed ingestion is a result of its own, and a file that is ingested leaves its row. -/
theorem serve_ingestUpload (settings : Settings) (file : UploadFile) (safeName : Str) :
    ∃ results, serve b (ingestUpload chatId auth settings file.bytes safeName) w = (.ok results,
      w.addRows chatId ((b.ingest (uploadOf chatId auth settings file safeName)).map
        (uploadedRow safeName)).toList) := by
  rw [ingestUpload, serve_attempt, serve_ingestDocument, ← uploadOf]
  cases b.ingest (uploadOf chatId auth settings file safeName) <;> exact ⟨_, rfl⟩

theorem handedOn_ingestUpload (settings : Settings) (file : UploadFile) (safeName : Str) :
    handedOn b (ingestUpload chatId auth settings file.bytes safeName) w =
      [.ingestDocument (uploadOf chatId auth settings file safeName)] := by
  rw [ingestUpload, handedOn_attempt, handedOn_ingestDocument, serve_ingestDocument, ← uploadOf]
  cases b.ingest (uploadOf chatId auth settings file safeName) <;> rfl

variable (chatId auth) in
/-- One file of an upload is ingested or refused. -/
theorem uploadFile_cases (settings : Settings) (file : UploadFile) :
    (∃ safeName, uploadedAs settings file = some safeName ∧
      uploadFile chatId auth settings file = ingestUpload chatId auth settings file.bytes safeName) ∨
    uploadedAs settings file = none ∧ ∃ results, uploadFile chatId auth settings file = pure results := by
  unfold uploadFile uploadedAs namedFile tooLarge
  cases file.filename with
  | none => exact .inr ⟨rfl, _, rfl⟩
  | some filename =>
    by_cases unnamed : filename.isEmpty
    · simp [unnamed]
    · by_cases large : file.bytes.length > settings.uploadMaxSizeMb * 1024 * 1024
      · simp [unnamed, large]
      · rcases valid : validateUpload filename file.contentType file.bytes with ⟨safeName, _ | error⟩
        · simp [unnamed, large, valid]
        · simp [unnamed, large, valid]

variable (b w chatId auth) in
theorem uploadFile_spec (settings : Settings) (file : UploadFile) :
    (∃ results, serve b (uploadFile chatId auth settings file) w =
      (.ok results, w.addRows chatId (uploadRows chatId auth settings b file))) ∧
    handedOn b (uploadFile chatId auth settings file) w = uploadCalls chatId auth settings file := by
  unfold uploadRows uploadCalls
  rcases uploadFile_cases chatId auth settings file with ⟨safeName, taken, same⟩ | ⟨refused, results, same⟩
  · rw [taken, same]
    exact ⟨serve_ingestUpload settings file safeName, handedOn_ingestUpload settings file safeName⟩
  · rw [refused, same]
    exact ⟨⟨results, rfl⟩, rfl⟩

variable (b w chatId auth) in
theorem uploadFiles_spec (settings : Settings) (files : List UploadFile) :
    (∃ results, serve b (uploadFiles chatId auth settings files) w =
      (.ok results, w.addRows chatId (files.flatMap (uploadRows chatId auth settings b)))) ∧
    handedOn b (uploadFiles chatId auth settings files) w =
      files.flatMap (uploadCalls chatId auth settings) := by
  induction files generalizing w with
  | nil => exact ⟨⟨[], rfl⟩, rfl⟩
  | cons file rest ih =>
    obtain ⟨⟨results, first⟩, handed⟩ := uploadFile_spec b w chatId auth settings file
    obtain ⟨⟨later, tail⟩, after⟩ := ih (w.addRows chatId (uploadRows chatId auth settings b file))
    constructor
    · refine ⟨results ++ later, ?_⟩
      rw [uploadFiles, serve_bind_ok first, serve_bind_ok tail, addRows_append, List.flatMap_cons]
      rfl
    · rw [uploadFiles, handedOn_bind first, handed, handedOn_bind tail, after, List.flatMap_cons]
      exact congrArg _ (List.append_nil _)

section Endpoint
variable {settings : Settings} {runtime : Runtime} {chat : ChatSession}

theorem uploadDocuments_owned (files : List UploadFile) (found : w.store.session chatId = some chat)
    (own : chat.OwnedBy auth) (writer : runtime.reader.isWriter = true) :
    (serve b (uploadDocuments chatId files auth settings runtime) w).2 =
        w.addRows chatId (files.flatMap (uploadRows chatId auth settings b)) ∧
      handedOn b (uploadDocuments chatId files auth settings runtime) w =
        files.flatMap (uploadCalls chatId auth settings) := by
  obtain ⟨⟨results, uploads⟩, handed⟩ := uploadFiles_spec b w chatId auth settings files
  have gate := serve_verify_owned (b := b) found own
  rw [uploadDocuments, if_pos writer, serve_bind_ok gate, uploads, handedOn_bind gate, handedOn_verify,
    handed]
  exact ⟨rfl, rfl⟩

/-- Without a writer or without the chat, nothing happens. -/
theorem uploadDocuments_refused (files : List UploadFile)
    (refused : runtime.reader.isWriter = false ∨ ∀ chat ∈ w.store.session chatId, ¬chat.OwnedBy auth) :
    (serve b (uploadDocuments chatId files auth settings runtime) w).2 = w ∧
      handedOn b (uploadDocuments chatId files auth settings runtime) w = [] := by
  rw [uploadDocuments]
  cases writer : runtime.reader.isWriter with
  | false => exact ⟨rfl, rfl⟩
  | true =>
    have foreign := refused.resolve_left (by simp [writer])
    have gate : serve b (verifyChatOwnership chatId auth) w = (.error chatNotFound, w) :=
      serve_verify_foreign foreign
    rw [if_pos rfl, serve_bind_error gate, handedOn_raised gate, handedOn_verify]
    exact ⟨rfl, rfl⟩

end Endpoint

/-! ## Attachments -/

theorem handedOn_suppressed (document : Ingestion) :
    handedOn b (suppress (do let _ ← ingestDocument document; pure ())) w =
      [.ingestDocument document] := by
  rw [suppress, handedOn_attempt]
  cases ingested : b.ingest document with
  | none =>
    have raised : serve b (ingestDocument document) w = (.error .other, w) := by
      rw [serve_ingestDocument, ingested]
      rfl
    rw [handedOn_raised raised, serve_bind_error raised, handedOn_ingestDocument]
    rfl
  | some chunks =>
    have done : serve b (ingestDocument document) w = (.ok chunks, w) := by
      rw [serve_ingestDocument, ingested]
      rfl
    rw [handedOn_bind done, serve_bind_ok done, handedOn_ingestDocument]
    rfl

variable (b w chatId auth) in
theorem handedOn_processUploadedFile (settings : Settings) (reader : Reader) (file : UploadFile) :
    handedOn b (processUploadedFile chatId auth settings reader file) w =
      attachmentCalls chatId auth settings b reader file := by
  unfold processUploadedFile attachmentCalls namedFile tooLarge
  cases file.filename with
  | none => rfl
  | some filename =>
    dsimp only
    split
    · rfl
    · rw [handedOn_attempt, handedOn_extractText, serve_extractText]
      cases b.extract file with
      | none => rfl
      | some text =>
        simp only [orRaise, List.singleton_append]
        split
        · rw [handedOn_bind (serve_ingest _), handedOn_suppressed]
          rfl
        · rfl

variable (b w chatId auth) in
theorem handedOn_processUploadedFiles (settings : Settings) (runtime : Runtime)
    (files : List UploadFile) :
    handedOn b (processUploadedFiles chatId auth settings runtime.reader files) w =
      files.flatMap (attachmentCalls chatId auth settings b runtime.reader) := by
  induction files with
  | nil => rfl
  | cons file rest ih =>
    obtain ⟨parts, first⟩ := serve_processUploadedFile b w chatId auth settings runtime file
    obtain ⟨later, tail⟩ := serve_processUploadedFiles b w chatId auth settings runtime rest
    rw [processUploadedFiles, handedOn_bind first, handedOn_processUploadedFile, handedOn_bind tail, ih,
      List.flatMap_cons]
    exact congrArg _ (List.append_nil _)

section Endpoint
variable {settings : Settings} {runtime : Runtime} {chat : ChatSession}

theorem handedOn_prepareGraphState (message : Str) (files : List UploadFile)
    (found : w.store.session chatId = some chat) (own : chat.OwnedBy auth) :
    handedOn b (prepareGraphState chatId message files auth settings runtime) w =
      files.flatMap (attachmentCalls chatId auth settings b runtime.reader) := by
  obtain ⟨parts, uploads⟩ := serve_processUploadedFiles b w chatId auth settings runtime files
  rw [prepareGraphState, handedOn_bind (serve_verify_owned found own), handedOn_verify,
    handedOn_bind uploads, handedOn_processUploadedFiles, List.nil_append]
  refine (congrArg _ (@handedOn_plain b w chatId auth _ _ ?_)).trans (List.append_nil _)
  apply Prog.uses_bind uses_loadConversationHistory
  intro history
  apply Prog.uses_bind (uses_checkMcpAuth _)
  intro mcpAuthStatus
  trivial

theorem handedOn_prepare_foreign (message : Str) (files : List UploadFile)
    (foreign : ∀ chat ∈ w.store.session chatId, ¬chat.OwnedBy auth) :
    handedOn b (prepareGraphState chatId message files auth settings runtime) w = [] := by
  rw [prepareGraphState, handedOn_raised (serve_verify_foreign foreign), handedOn_verify]

/-- What a message endpoint hands on is what its preparation does. -/
theorem handedOn_rest {message : Str} {files : List UploadFile} {rest : PreparedState → Handler α}
    (plain : ∀ prepared, (rest prepared).Uses (PlainCall chatId auth)) :
    handedOn b (prepareGraphState chatId message files auth settings runtime >>= rest) w =
      handedOn b (prepareGraphState chatId message files auth settings runtime) w := by
  rcases prepares : serve b (prepareGraphState chatId message files auth settings runtime) w with
    ⟨error | prepared, v⟩
  · exact handedOn_raised prepares
  · rw [handedOn_bind prepares, handedOn_plain (plain prepared), List.append_nil]

theorem handedOn_sendChatMessage (message : Str) (files : List UploadFile) :
    handedOn b (sendChatMessage chatId message files auth settings runtime) w =
      handedOn b (prepareGraphState chatId message files auth settings runtime) w := by
  obtain ⟨rest, same, plain⟩ := @uses_sendRest chatId auth message files settings runtime
  rw [same, handedOn_rest plain]

theorem handedOn_streamChatMessage (message : Str) (files : List UploadFile) :
    handedOn b (streamChatMessage chatId message files auth settings runtime) w =
      handedOn b (prepareGraphState chatId message files auth settings runtime) w :=
  handedOn_rest fun _ => uses_streamSupervisorTokens _ _

end Endpoint

end Handed
end OrchidApi
