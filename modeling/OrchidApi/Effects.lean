import OrchidApi.Async
import OrchidApi.Json
import OrchidApi.StreamBuffer

/-! What the handlers see of the world: identities, chats, graph runs, SSE frames,
and the calls they await. Everything a call reaches lies outside this repository. -/
namespace OrchidApi
open Text

structure AuthContext where
  tenantKey : Str
  userId : Str
  roles : List Str := []
  deriving DecidableEq, Repr

def AuthContext.identity (auth : AuthContext) : Str × Str := (auth.tenantKey, auth.userId)

structure ChatSession where
  id : Str
  tenantId : Str
  userId : Str
  title : Str
  isShared : Bool := false
  deriving DecidableEq, Repr

inductive Role where
  | user
  | assistant
  | system
  deriving DecidableEq, Repr

/-- A stored message. `cancelled` is the metadata marker; absent content is `None`. -/
structure Row where
  role : Role
  content : Option Str
  agentsUsed : List Str := []
  cancelled : Bool := false
  deriving DecidableEq, Repr

/-! ## Exceptions -/

/-- What the request model tells apart in an untyped value: a `str`, a `bytes` or `bytearray`, a
mapping with keys of any type, and the rest, which includes a `str` with lone surrogates. -/
inductive PyValue where
  | str (text : Str)
  | bytes (content : List UInt8)
  | mapping (entries : List (PyValue × PyValue))
  | other

/-- A dictionary, or another value with its `str`, if that is to be had. -/
inductive InterruptValue where
  | dict (entries : List (PyValue × PyValue))
  | other (rendered : Option Str)

/-- An object with a value and an id, or one that lacks them. -/
inductive PayloadItem where
  | interrupt (id : Str) (value : InterruptValue)
  | foreign

/-- `exc.args` of a `GraphInterrupt`. -/
inductive InterruptPayload where
  | absent
  | nonList
  | items (list : List PayloadItem)

inductive Exn where
  | http (status : Nat) (detail : Str)
  | graphInterrupt (payload : InterruptPayload)
  | valueError (text : Str)
  | timeout
  | cancelled
  | generatorExit
  | other

/-- Caught by `except Exception`: the two others derive from `BaseException` only. -/
def Exn.isException : Exn → Bool
  | .cancelled | .generatorExit => false
  | _ => true

/-- What `except Exception` catches. -/
abbrev Failure : Type := {error : Exn // error.isException = true}

def answered : Except Failure α → Except Exn α
  | .ok value => .ok value
  | .error failure => .error failure.val

def Exn.isInterrupt : Exn → Bool
  | .graphInterrupt _ => true
  | _ => false

/-! ## Graph runs -/

/-- A state value; the outer option of `finalResponse` is the presence of the key. -/
structure Values where
  finalResponse : Option (Option Str) := none
  activeAgents : Option (List Str) := none
  deriving DecidableEq, Repr

structure LifecycleEvent where
  name : Str
  data : Json.Dict

/-- A streamed message through what the loop reads of it: `extract_event(msg)`, its
content when that is a `str`, and whether it has tool calls. -/
structure Message where
  event : Option LifecycleEvent := none
  content : Option Str := none
  toolCalls : Bool := false

inductive GraphEvent where
  | values (payload : Values)
  | message (msg : Message) (node : Str)

/-- One iteration of `graph.astream`: the events it delivers, then exhaustion or the
exception raised at the next await. -/
structure GraphRun where
  events : List GraphEvent
  ending : Option Exn := none

def GraphEvent.value? : GraphEvent → Option Values
  | .values payload => some payload
  | .message _ _ => none

/-- What `stream_mode=["values"]` delivers of the same run. -/
def GraphRun.values (run : GraphRun) : List Values := run.events.filterMap GraphEvent.value?

structure InitialState where
  messages : List Row
  chatId : Str
  mcpAuthStatus : List (Str × Bool)

/-! ## Frames -/

/-- The `done` payload; the cancellation exit sends no `error` key. -/
structure Done where
  response : Str
  agentsUsed : List Str
  agentResults : List (Str × Str)
  authRequired : List Str
  timedOut : Bool
  cancelled : Bool
  error : Option Bool
  deriving DecidableEq, Repr

inductive Frame where
  | lifecycle (event : LifecycleEvent)
  | buffered (token : BufferedToken)
  | started (agent : Str)
  | finished (agent preview : Str)
  | error (message : Str)
  | done (payload : Done)

def TokenKind.name : TokenKind → String
  | .token => "token"
  | .handoff => "handoff"

def Done.payload (d : Done) : Json.Dict :=
  [("type".toList, Json.text "done"), ("response".toList, .str d.response),
    ("agents_used".toList, Json.strings d.agentsUsed),
    ("agent_results".toList, .obj (d.agentResults.map fun entry => (entry.1, .str entry.2))),
    ("auth_required".toList, Json.strings d.authRequired),
    ("timed_out".toList, .bool d.timedOut), ("cancelled".toList, .bool d.cancelled)] ++
    (d.error.map fun errored => ("error".toList, Json.Value.bool errored)).toList

/-- The JSON object on the wire; a lifecycle event's own data may overwrite its type. -/
def Frame.payload : Frame → Json.Dict
  | .lifecycle event => Json.merge [("type".toList, .str event.name)] event.data
  | .buffered token =>
    [("type".toList, Json.text token.kind.name), ("content".toList, .str token.content)]
  | .started agent =>
    [("type".toList, Json.text "status"), ("agent".toList, .str agent),
      ("status".toList, Json.text "started")]
  | .finished agent preview =>
    [("type".toList, Json.text "status"), ("agent".toList, .str agent),
      ("status".toList, Json.text "done"), ("preview".toList, .str preview)]
  | .error message => [("type".toList, Json.text "error"), ("message".toList, .str message)]
  | .done d => d.payload

/-- The client's dispatch on the `type` key. -/
def Frame.hasType (kind : String) (f : Frame) : Bool :=
  match f.payload.lookup "type".toList with
  | some (.str s) => s == kind.toList
  | _ => false

def Frame.content (f : Frame) : Option Str :=
  match f.payload.lookup "content".toList with
  | some (.str s) => some s
  | _ => none

/-- Contents of the frames a client takes for answer tokens, in order. -/
def tokenContents (frames : List Frame) : List Str :=
  (frames.filter (Frame.hasType "token")).filterMap Frame.content

/-! ## Calls -/

structure Token where
  isExpired : Bool
  deriving DecidableEq, Repr

structure UploadFile where
  filename : Option Str
  contentType : Option Str
  bytes : List UInt8
  deriving DecidableEq, Repr

structure RagScope where
  tenantId : Str
  userId : Str
  chatId : Str
  deriving DecidableEq, Repr

structure Ingestion where
  bytes : List UInt8
  filename : Str
  scope : RagScope
  ragNamespace : Str
  preExtractedText : Option Str
  deriving DecidableEq, Repr

structure Promotion where
  ragNamespace : Str
  sourceChat : Str
  userId : Str
  tenantId : Str
  deriving DecidableEq, Repr

/-- The statuses that the routers name, and any other of the framework's. -/
inductive JobStatus where
  | pending
  | running
  | succeeded
  | failed
  | cancelled
  | other (name : Str)
  deriving DecidableEq, Repr

/-- The fields of a job run that the chat event stream renders. -/
structure BoundRun where
  runId : Str
  triggerId : Str
  agentName : Str
  chatBinding : Json.Dict
  identityClaim : Json.Dict
  startedAt : Option Str
  queuedAt : Option Str

structure ChatBloomEvent where
  type : Str
  chatId : Str
  runId : Str
  occurredAt : Str
  payload : Json.Dict

inductive Call where
  | getChat (id : Str)
  | listChats (tenant user : Str)
  | createChat (tenant user title : Str)
  | deleteChat (id : Str)
  | getMessages (id : Str) (limit offset : Nat)
  | addMessage (id : Str) (row : Row)
  | updateTitle (id title : Str)
  | markShared (id : Str)
  | astream (thread : Str) (state : InitialState)
  | ainvoke (thread : Str) (approved : Bool)
  | getToken (tenant user server : Str)
  | extractText (file : UploadFile) (filename : Str)
  | ingestDocument (document : Ingestion)
  | promoteScope (promotion : Promotion)
  | emit (frame : Frame)
  | listBoundRuns (chat : Str) (statuses : List JobStatus) (limit : Nat)
  | subscribe (chat : Str)
  | emitBloom (event : ChatBloomEvent)
  | now

def Call.Reply : Call → Type
  | .getChat _ => Option ChatSession
  | .listChats _ _ => List ChatSession
  | .createChat _ _ _ => ChatSession
  | .getMessages _ _ _ => List Row
  | .astream _ _ => GraphRun
  | .ainvoke _ _ => Values
  | .getToken _ _ _ => Option Token
  | .extractText _ _ => Str
  | .ingestDocument _ => Nat
  | .promoteScope _ => Nat
  | .listBoundRuns _ _ _ => List BoundRun
  | .subscribe _ => List ChatBloomEvent
  | .now => Str
  | .deleteChat _ | .addMessage _ _ | .updateTitle _ _ | .markShared _ | .emit _ | .emitBloom _ => Unit

abbrev Api : Async.Signature := ⟨Call, Call.Reply, Exn⟩

/-- A request handler, or the part of one that may await. -/
abbrev Handler (α : Type) : Type := Async.Prog Api α

def await (c : Call) : Handler c.Reply := Async.Prog.await (S := Api) c

def raise (error : Exn) : Handler α := Async.Prog.raise (S := Api) error

namespace ChatRepo

def getChat (id : Str) : Handler (Option ChatSession) := await (.getChat id)
def listChats (tenant user : Str) : Handler (List ChatSession) := await (.listChats tenant user)
def createChat (tenant user title : Str) : Handler ChatSession := await (.createChat tenant user title)
def deleteChat (id : Str) : Handler Unit := await (.deleteChat id)
def getMessages (id : Str) (limit offset : Nat) : Handler (List Row) :=
  await (.getMessages id limit offset)
def addMessage (id : Str) (row : Row) : Handler Unit := await (.addMessage id row)
def updateTitle (id title : Str) : Handler Unit := await (.updateTitle id title)
def markShared (id : Str) : Handler Unit := await (.markShared id)

end ChatRepo

def astream (thread : Str) (state : InitialState) : Handler GraphRun := await (.astream thread state)
def ainvoke (thread : Str) (approved : Bool) : Handler Values := await (.ainvoke thread approved)
def getToken (tenant user server : Str) : Handler (Option Token) := await (.getToken tenant user server)
def extractText (file : UploadFile) (filename : Str) : Handler Str :=
  await (.extractText file filename)
def ingestDocument (document : Ingestion) : Handler Nat := await (.ingestDocument document)
def promoteScope (promotion : Promotion) : Handler Nat := await (.promoteScope promotion)
def listBoundRuns (chat : Str) (statuses : List JobStatus) (limit : Nat) : Handler (List BoundRun) :=
  await (.listBoundRuns chat statuses limit)
def subscribe (chat : Str) : Handler (List ChatBloomEvent) := await (.subscribe chat)
def clockNow : Handler Str := await .now

/-- `yield`: the consumer resumes the generator, or closes it with an exception. -/
def emit (frame : Frame) : Handler Unit := await (.emit frame)
def emitBloom (event : ChatBloomEvent) : Handler Unit := await (.emitBloom event)

/-! ## Frame types -/

section FrameTypes
variable (kind : String)

@[simp] theorem hasType_buffered (t : BufferedToken) :
    (Frame.buffered t).hasType kind = (t.kind.name.toList == kind.toList) := by
  simp [Frame.hasType, Frame.payload, Json.text]
@[simp] theorem hasType_started (agent : Str) :
    (Frame.started agent).hasType kind = ("status".toList == kind.toList) := by
  simp [Frame.hasType, Frame.payload, Json.text]
@[simp] theorem hasType_finished (agent preview : Str) :
    (Frame.finished agent preview).hasType kind = ("status".toList == kind.toList) := by
  simp [Frame.hasType, Frame.payload, Json.text]
@[simp] theorem hasType_error (message : Str) :
    (Frame.error message).hasType kind = ("error".toList == kind.toList) := by
  simp [Frame.hasType, Frame.payload, Json.text]
@[simp] theorem hasType_done (d : Done) :
    (Frame.done d).hasType kind = ("done".toList == kind.toList) := by
  simp [Frame.hasType, Frame.payload, Done.payload, Json.text]

@[simp] theorem content_buffered (t : BufferedToken) :
    (Frame.buffered t).content = some t.content := by
  simp [Frame.content, Frame.payload, List.lookup_cons]

end FrameTypes

/-- The lifecycle assumption: data without a `type` key, under a `mini_agent.` name. -/
structure LifecycleEvent.Documented (event : LifecycleEvent) : Prop where
  untyped : event.data.lookup "type".toList = none
  named : "mini_agent.".toList <+: event.name

theorem hasType_lifecycle (event : LifecycleEvent) (kind : String)
    (documented : event.Documented) (other : ¬"mini_agent.".toList <+: kind.toList) :
    (Frame.lifecycle event).hasType kind = false := by
  have typed : (Frame.lifecycle event).payload.lookup "type".toList = some (.str event.name) := by
    rw [Frame.payload, Json.lookup_merge_absent _ _ _ documented.untyped]; simp
  simp only [Frame.hasType, typed, beq_eq_false_iff_ne]
  intro same
  exact other (same ▸ documented.named)

@[simp] theorem tokenContents_nil : tokenContents [] = [] := rfl
@[simp] theorem tokenContents_append (first second : List Frame) :
    tokenContents (first ++ second) = tokenContents first ++ tokenContents second := by
  simp [tokenContents]

end OrchidApi
