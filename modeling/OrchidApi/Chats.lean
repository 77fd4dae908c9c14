import OrchidApi.Messages

/-! `routers/chats.py`, `routers/sharing.py`, the upload endpoint of `routers/messages.py`,
and the chat event stream with its gate in `routers/_visibility.py`. -/
namespace OrchidApi
open Text Async

/-! ## Chat sessions -/

structure ChatSessionOut where
  id : Str
  title : Str
  isShared : Bool
  deriving DecidableEq, Repr

def sessionToOut (s : ChatSession) : ChatSessionOut := ⟨s.id, s.title, s.isShared⟩

structure MessageOut where
  role : Role
  content : Str
  agentsUsed : List Str
  cancelled : Bool
  deriving DecidableEq, Repr

/-- The content of a `MessageOut` must be a string. -/
def messageToOut (row : Row) : Except Exn MessageOut :=
  match row.content with
  | some content => .ok ⟨row.role, content, row.agentsUsed, row.cancelled⟩
  | none => .error .other

def createChat (title : Str) (auth : AuthContext) : Handler ChatSessionOut := do
  let session ← ChatRepo.createChat auth.tenantKey auth.userId
    (if title.isEmpty then "New chat".toList else title)
  pure (sessionToOut session)

def listChats (auth : AuthContext) : Handler (List ChatSessionOut) := do
  let sessions ← ChatRepo.listChats auth.tenantKey auth.userId
  pure (sessions.map sessionToOut)

def getMessages (chatId : Str) (limit offset : Nat) (auth : AuthContext) :
    Handler (List MessageOut) := do
  let _ ← verifyChatOwnership chatId auth
  let messages ← ChatRepo.getMessages chatId limit offset
  match messages.mapM messageToOut with
  | .ok out => pure out
  | .error error => raise error

def deleteChat (chatId : Str) (auth : AuthContext) : Handler Unit := do
  let _ ← verifyChatOwnership chatId auth
  ChatRepo.deleteChat chatId

/-! ## Uploads -/

/-- `Path(raw).name` of a POSIX path: the last component that is not empty or a dot. -/
def pathName (raw : Str) : Str :=
  ((raw.splitOn '/').filter fun part => part ≠ [] ∧ part ≠ ['.']).getLast?.getD []

/-- `Path(name).suffix`: from the last dot, unless it begins or ends the name. -/
def pathSuffix (name : Str) : Str :=
  let ext := (name.reverse.takeWhile (· ≠ '.')).reverse
  if name.contains '.' ∧ ext ≠ [] ∧ ext.length + 1 < name.length then '.' :: ext else []

def allowedExtensions : List Str :=
  [".pdf", ".docx", ".xlsx", ".csv", ".md", ".txt", ".png", ".jpg", ".jpeg"].map String.toList

def allowedMimeTypes : List Str := [
  "application/pdf", "application/vnd.openxmlformats-officedocument.wordprocessingml.document",
  "application/vnd.openxmlformats-officedocument.spreadsheetml.sheet", "text/csv", "text/plain",
  "text/markdown", "image/png", "image/jpeg", "application/octet-stream", ""].map String.toList

def magicBytes : List (Str × List UInt8) := [
  (".pdf".toList, [0x25, 0x50, 0x44, 0x46, 0x2D]),
  (".docx".toList, [0x50, 0x4B, 0x03, 0x04]),
  (".xlsx".toList, [0x50, 0x4B, 0x03, 0x04]),
  (".png".toList, [0x89, 0x50, 0x4E, 0x47, 0x0D, 0x0A, 0x1A, 0x0A]),
  (".jpg".toList, [0xFF, 0xD8, 0xFF]),
  (".jpeg".toList, [0xFF, 0xD8, 0xFF])]

/-- The safe name, and the first check that fails. The letters beyond ASCII stay as they are in a
suffix: none of them has a lower case that is a letter of an allowed one. -/
def validateUpload (rawFilename : Str) (contentType : Option Str) (bytes : List UInt8) :
    Str × Option Str :=
  let safeName := pathName rawFilename
  let ext := lower (pathSuffix safeName)
  if safeName.isEmpty ∨ startsWith safeName ['.'] ∨ safeName.contains '\x00' then
    (rawFilename, some "Invalid filename".toList)
  else if ext ∉ allowedExtensions then
    (safeName, some ("Unsupported file type: ".toList ++
      if ext.isEmpty then "(none)".toList else ext))
  else if contentType.getD [] ∉ allowedMimeTypes then
    (safeName, some ("Disallowed MIME type: ".toList ++ contentType.getD []))
  else match magicBytes.lookup ext with
    | some magic =>
      if magic.isPrefixOf bytes then (safeName, none)
      else (safeName, some "File contents do not match declared type".toList)
    | none => (safeName, none)

structure UploadFileResult where
  filename : Str
  chunksIndexed : Option Nat := none
  error : Option Str := none
  deriving DecidableEq, Repr

/-- The two `except` clauses around one file. -/
def uploadFailure (safeName : Str) (error : Exn) : Handler UploadFileResult :=
  match error with
  | .valueError text => pure { filename := safeName, error := some text }
  | error =>
    if error.isException then pure { filename := safeName, error := some "Processing failed".toList }
    else raise error

def uploadedRow (safeName : Str) (chunks : Nat) : Row :=
  { role := .system, content := some ("Uploaded ".toList ++ safeName ++ " (".toList ++
      Nat.toDigits 10 chunks ++ " chunks indexed)".toList) }

/-- An ingested file whose row cannot be stored has both its results listed. -/
def ingestUpload (chatId : Str) (auth : AuthContext) (settings : Settings) (bytes : List UInt8)
    (safeName : Str) : Handler (List UploadFileResult) :=
  (ingestDocument ⟨bytes, safeName, scopeOf chatId auth, settings.uploadNamespace, none⟩).attempt fun
    | .error error => do
      let failure ← uploadFailure safeName error
      pure [failure]
    | .ok chunks =>
      (ChatRepo.addMessage chatId (uploadedRow safeName chunks)).attempt fun
        | .ok _ => pure [{ filename := safeName, chunksIndexed := some chunks }]
        | .error error => do
          let failure ← uploadFailure safeName error
          pure [{ filename := safeName, chunksIndexed := some chunks }, failure]

def uploadFile (chatId : Str) (auth : AuthContext) (settings : Settings) (file : UploadFile) :
    Handler (List UploadFileResult) :=
  match file.filename with
  | none => pure []
  | some filename =>
    if filename.isEmpty then pure []
    else if file.bytes.length > settings.uploadMaxSizeMb * 1024 * 1024 then
      pure [{ filename, error := some ("File too large (max ".toList ++
        Nat.toDigits 10 settings.uploadMaxSizeMb ++ "MB)".toList) }]
    else match validateUpload filename file.contentType file.bytes with
      | (safeName, some error) => pure [{ filename := safeName, error := some error }]
      | (safeName, none) => ingestUpload chatId auth settings file.bytes safeName

def uploadFiles (chatId : Str) (auth : AuthContext) (settings : Settings) :
    List UploadFile → Handler (List UploadFileResult)
  | [] => pure []
  | file :: rest => do
    let results ← uploadFile chatId auth settings file
    let later ← uploadFiles chatId auth settings rest
    pure (results ++ later)

def notWritable : Exn := .http 503 "Vector store does not support writing".toList

def uploadDocuments (chatId : Str) (files : List UploadFile) (auth : AuthContext)
    (settings : Settings) (runtime : Runtime) : Handler (List UploadFileResult) :=
  if runtime.reader.isWriter then do
    let _ ← verifyChatOwnership chatId auth
    uploadFiles chatId auth settings files
  else raise notWritable

/-! ## Sharing -/

structure RagConfig where
  enabled : Bool
  ragNamespace : Str

/-- The namespaces of a set, whose order does not matter to the count. -/
def allNamespaces (settings : Settings) (agents : List RagConfig) : List Str :=
  (settings.uploadNamespace :: (agents.filter fun rag => rag.enabled && !rag.ragNamespace.isEmpty).map
    RagConfig.ragNamespace).dedup

def promoteAll (chatId : Str) (auth : AuthContext) : List Str → Handler Nat
  | [] => pure 0
  | ragNamespace :: rest => do
    let count ← (promoteScope ⟨ragNamespace, chatId, auth.userId, auth.tenantKey⟩).attempt fun
      | .ok count => pure count
      | .error error => if error.isException then pure 0 else raise error
    let later ← promoteAll chatId auth rest
    pure (count + later)

def sharingUnsupported : Exn :=
  .http 501 "Sharing is not supported by the configured vector backend.".toList

def sharingUnavailable : Exn := .http 503 "Sharing requires qdrant-client to be installed".toList

def shareChat (chatId : Str) (auth : AuthContext) (settings : Settings) (runtime : Runtime)
    (agents : List RagConfig) : Handler Nat :=
  if !runtime.reader.isRepository || !runtime.reader.supportsScopePromotion then
    raise sharingUnsupported
  else if !runtime.qdrantInstalled then raise sharingUnavailable
  else do
    let _ ← verifyChatOwnership chatId auth
    let promoted ← promoteAll chatId auth (allNamespaces settings agents)
    ChatRepo.markShared chatId
    pure promoted

/-! ## The chat event stream -/

def chatHidden : Exn := .http 404 "chat not found".toList

/-- Who may follow a chat's events: its owner, or an admin of the same tenant. -/
def ChatSession.Admits (chat : ChatSession) (auth : AuthContext) : Prop :=
  chat.tenantId = auth.tenantKey ∧ (chat.userId = auth.userId ∨ "admin".toList ∈ auth.roles)

def requireChatOwnerOrAdmin (chatId : Str) (auth : AuthContext) : Handler AuthContext := do
  match ← ChatRepo.getChat chatId with
  | none => raise chatHidden
  | some chat =>
    if chat.tenantId ≠ auth.tenantKey then raise chatHidden
    else if chat.userId = auth.userId then pure auth
    else if "admin".toList ∈ auth.roles then pure auth
    else raise chatHidden

/-- Where neither time is recorded the clock stands in for them. -/
def syntheticAttachedFor (run : BoundRun) : Handler ChatBloomEvent := do
  let occurred ← match run.startedAt.or run.queuedAt with
    | some time => pure time
    | none => clockNow
  let chatId := match run.chatBinding.lookup "chat_id".toList with
    | some (.str id) => id
    | _ => []
  pure ⟨"chat.bloom.attached".toList, chatId, run.runId, occurred,
    [("run_id".toList, .str run.runId), ("trigger_id".toList, .str run.triggerId),
      ("agent_name".toList, .str run.agentName),
      ("source_message_id".toList, (run.chatBinding.lookup "source_message_id".toList).getD .null),
      ("identity_mode".toList, (run.identityClaim.lookup "mode".toList).getD .null),
      ("attached_at".toList, .str occurred)]⟩

/-- Discovery, then the live channel; without an event stream only an idle comment. -/
def streamChatEvents (chatId : Str) (auth : AuthContext) (hasEventStream : Bool) : Handler Unit := do
  let _ ← requireChatOwnerOrAdmin chatId auth
  if hasEventStream then
    let inFlight ← listBoundRuns chatId [.pending, .running] 200
    Prog.each (fun run => syntheticAttachedFor run >>= emitBloom) inFlight
    let live ← subscribe chatId
    Prog.each emitBloom live
  else pure ()

end OrchidApi
