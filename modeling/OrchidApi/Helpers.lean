import OrchidApi.Effects
import OrchidApi.Overlay

/-! `routers/_helpers.py`: the ownership gate, auto-titling, interrupt conversion and
the preparation shared by both message endpoints. -/
namespace OrchidApi
open Text Async

/-- The settings the handlers read, and the interpreter's `str.title`, whose Unicode
tables are left open. -/
structure Settings where
  uploadMaxSizeMb : Nat := 20
  uploadNamespace : Str := "uploads".toList
  streamMaxSeconds : Nat := 300
  titleCase : Str → Str := id

/-- `runtime.get_reader()` by the interfaces it implements. -/
structure Reader where
  isWriter : Bool := true
  isRepository : Bool := true
  supportsScopePromotion : Bool := true

/-- The servers that require OAuth, by name, with the agents that use each. -/
structure AuthRegistry where
  empty : Bool
  oauthServers : List Str
  agentNames : Str → List Str := fun _ => []

structure Runtime where
  reader : Reader := {}
  hasCheckpointer : Bool := true
  mcpAuthRegistry : Option AuthRegistry := none
  hasTokenStore : Bool := false
  qdrantInstalled : Bool := true

/-! ## Ownership verification -/

def ChatSession.OwnedBy (chat : ChatSession) (auth : AuthContext) : Prop :=
  chat.tenantId = auth.tenantKey ∧ chat.userId = auth.userId

instance (chat : ChatSession) (auth : AuthContext) : Decidable (chat.OwnedBy auth) :=
  inferInstanceAs (Decidable (_ ∧ _))

def chatNotFound : Exn := .http 404 "Chat not found".toList

def verifyChatOwnership (chatId : Str) (auth : AuthContext) : Handler ChatSession := do
  match ← ChatRepo.getChat chatId with
  | none => raise chatNotFound
  | some chat => if chat.OwnedBy auth then pure chat else raise chatNotFound

theorem exec_verifyChatOwnership {σ : Type} {server : Server Api σ} {s : σ} {chatId : Str}
    {auth : AuthContext} {chat : ChatSession} (found : server (.getChat chatId) s = (.ok (some chat), s))
    (own : chat.OwnedBy auth) : (verifyChatOwnership chatId auth).exec server s = (.ok chat, s) := by
  have read : (ChatRepo.getChat chatId).exec server s = (.ok (some chat), s) :=
    (Prog.exec_await ..).trans found
  rw [verifyChatOwnership, Prog.exec_bind_ok read]
  simp [own]

/-! ## Auto-titling -/

def titleOf (message : Str) : Str :=
  strip (message.take 50) ++ if message.length > 50 then "...".toList else []

def autoTitleIfFirstMessage (chatId message : Str) (historyRows : List Row) : Handler Unit :=
  if historyRows.isEmpty then ChatRepo.updateTitle chatId (titleOf message) else pure ()

/-! ## GraphInterrupt to InterruptResponse -/

structure ToolApprovalRequest where
  tool : Str
  args : List (Str × PyValue)
  agent : Str
  interruptId : Str

structure InterruptResponse where
  chatId : Str
  tenantId : Str
  approvalsNeeded : List ToolApprovalRequest

/-- Validation of a `str` field, which decodes bytes. -/
def PyValue.asText : PyValue → Option Str
  | .str text => some text
  | .bytes content => (ByteArray.mk content.toArray).utf8Decode?.map Array.toList
  | .mapping _ | .other => none

/-- Validation of a `dict[str, Any]` field. -/
def PyValue.asDict : PyValue → Option (List (Str × PyValue))
  | .mapping entries => do
    let items ← entries.mapM fun (key, value) => key.asText.map fun text => (text, value)
    pure (items.foldl (fun d item => Overlay.assign d item.1 item.2) [])
  | .str _ | .bytes _ | .other => none

def PyValue.isKey (key : Str) : PyValue → Bool
  | .str text => text == key
  | .bytes _ | .mapping _ | .other => false

/-- `d.get(key)` -/
def getItem (entries : List (PyValue × PyValue)) (key : Str) : Option PyValue :=
  (entries.find? fun entry => entry.1.isKey key).map Prod.snd

/-- Attribute access on a foreign object raises, and so does a field of the wrong type. -/
def approvalOf : PayloadItem → Except Exn ToolApprovalRequest
  | .foreign | .interrupt _ (.other none) => .error .other
  | .interrupt id (.other (some rendered)) => .ok ⟨rendered, [], [], id⟩
  | .interrupt id (.dict entries) =>
    match ((getItem entries "tool".toList).getD (.str [])).asText,
        ((getItem entries "args".toList).getD (.mapping [])).asDict,
        ((getItem entries "agent".toList).getD (.str [])).asText with
    | some tool, some args, some agent => .ok ⟨tool, args, agent, id⟩
    | _, _, _ => .error .other

def buildInterruptResponse (payload : InterruptPayload) (chatId tenantKey : Str) :
    Except Exn InterruptResponse :=
  match payload with
  | .absent | .nonList => .ok ⟨chatId, tenantKey, []⟩
  | .items list => (list.mapM approvalOf).map (⟨chatId, tenantKey, ·⟩)

/-! ## Preparing the graph input -/

def scopeOf (chatId : Str) (auth : AuthContext) : RagScope := ⟨auth.tenantKey, auth.userId, chatId⟩

def attachmentPart (filename text : Str) : Str :=
  "--- Content of attached file: ".toList ++ filename ++ " ---\n".toList ++ text

/-- `except Exception: log`: what is not an `Exception` passes through. -/
def suppress (p : Handler Unit) : Handler Unit :=
  p.attempt fun
    | .ok _ => pure ()
    | .error error => if error.isException then pure () else raise error

/-- One attachment. The extracted text counts even when its ingestion fails. -/
def processUploadedFile (chatId : Str) (auth : AuthContext) (settings : Settings)
    (reader : Reader) (file : UploadFile) : Handler (List Str) :=
  match file.filename with
  | none => pure []
  | some filename =>
    if filename.isEmpty || file.bytes.length > settings.uploadMaxSizeMb * 1024 * 1024 then pure []
    else (extractText file filename).attempt fun
      | .error error => if error.isException then pure [] else raise error
      | .ok text => do
        if reader.isWriter then
          suppress (do
            let _ ← ingestDocument
              ⟨file.bytes, filename, scopeOf chatId auth, settings.uploadNamespace, some text⟩
            pure ())
        pure (if (strip text).isEmpty then [] else [attachmentPart filename text])

def processUploadedFiles (chatId : Str) (auth : AuthContext) (settings : Settings)
    (reader : Reader) : List UploadFile → Handler (List Str)
  | [] => pure []
  | file :: rest => do
    let parts ← processUploadedFile chatId auth settings reader file
    let later ← processUploadedFiles chatId auth settings reader rest
    pure (parts ++ later)

/-- Whether a message can be built from the row: neither a `HumanMessage` nor an `AIMessage` can
without a content, and other rows are passed over. -/
def Row.readable (row : Row) : Bool := row.role = .system || row.content.isSome

/-- The conversation for the graph, and the raw rows for the auto-title check. -/
def loadConversationHistory (chatId : Str) : Handler (List Row × List Row) := do
  let rows ← ChatRepo.getMessages chatId 50 0
  if rows.all Row.readable then
    pure (rows.filter fun row => row.role = .user ∨ row.role = .assistant, rows)
  else raise .other

def tokenStatus (auth : AuthContext) : List Str → Handler (List (Str × Bool))
  | [] => pure []
  | name :: rest => do
    let token ← getToken auth.tenantKey auth.userId name
    let later ← tokenStatus auth rest
    pure ((name, (token.map fun t => !t.isExpired).getD false) :: later)

def checkMcpAuth (auth : AuthContext) (runtime : Runtime) : Handler (List (Str × Bool)) :=
  match runtime.mcpAuthRegistry with
  | none => pure []
  | some registry =>
    if registry.empty || !runtime.hasTokenStore then pure []
    else tokenStatus auth registry.oauthServers

def buildAugmentedMessage (message : Str) (fileParts : List Str) : Str :=
  if fileParts.isEmpty then message
  else List.intercalate "\n\n".toList fileParts ++ "\n\n--- User message ---\n".toList ++ message

def buildInitialGraphState (augmented : Str) (history : List Row) (chatId : Str)
    (mcpAuthStatus : List (Str × Bool)) (hasCheckpointer : Bool) : InitialState :=
  let newUserMessage : Row := { role := .user, content := some augmented }
  ⟨if hasCheckpointer then [newUserMessage] else history ++ [newUserMessage], chatId, mcpAuthStatus⟩

structure PreparedState where
  initialState : InitialState
  message : Str
  historyRows : List Row
  mcpAuthStatus : List (Str × Bool) := []

def PreparedState.authRequired (prepared : PreparedState) : List Str :=
  (prepared.mcpAuthStatus.filter fun entry => !entry.2).map Prod.fst

def prepareGraphState (chatId message : Str) (files : List UploadFile) (auth : AuthContext)
    (settings : Settings) (runtime : Runtime) : Handler PreparedState := do
  let _ ← verifyChatOwnership chatId auth
  let fileParts ← processUploadedFiles chatId auth settings runtime.reader files
  let (history, historyRows) ← loadConversationHistory chatId
  let mcpAuthStatus ← checkMcpAuth auth runtime
  let initialState := buildInitialGraphState (buildAugmentedMessage message fileParts) history
    chatId mcpAuthStatus runtime.hasCheckpointer
  pure ⟨initialState, message, historyRows, mcpAuthStatus⟩

end OrchidApi
