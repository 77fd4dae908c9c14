import OrchidApi.Streaming

/-! The three endpoints that run the graph: `routers/messages.py` without uploads,
`routers/streaming.py` and `routers/resume.py`. -/
namespace OrchidApi
open Text Async

structure ChatResponse where
  response : Str
  chatId : Str
  tenantId : Str
  agentsUsed : List Str
  authRequired : List Str := []
  deriving DecidableEq, Repr

inductive ChatReply where
  | response (body : ChatResponse)
  | interrupt (body : InterruptResponse)

/-- `result.get("final_response", …)`: a present `None` stays `None`. -/
def responseText (result : Values) : Option Str := result.finalResponse.getD (some noResponse)

def activeAgents (result : Values) : List Str := result.activeAgents.getD []

/-- The assistant row of a result, with the marker of a partial answer. -/
def resultRow (result : Values) (cancelled : Bool) : Row :=
  { role := .assistant, content := responseText result, agentsUsed := activeAgents result, cancelled }

/-- Validation of the response model, whose text must be a string. -/
def replyOf (chatId : Str) (auth : AuthContext) (result : Values) (authRequired : List Str) :
    Handler ChatReply :=
  match responseText result with
  | some text => pure (.response ⟨text, chatId, auth.tenantKey, activeAgents result, authRequired⟩)
  | none => raise .other

def interrupted (payload : InterruptPayload) (chatId : Str) (auth : AuthContext) :
    Handler ChatReply :=
  match buildInterruptResponse payload chatId auth.tenantKey with
  | .ok body => pure (.interrupt body)
  | .error error => raise error

/-- The tail of the non-streaming endpoint, for a finished or a cancelled run. -/
def finishMessage (chatId : Str) (auth : AuthContext) (prepared : PreparedState) (result : Values)
    (cancelled : Bool) : Handler ChatReply := do
  ChatRepo.addMessage chatId (userRow prepared)
  ChatRepo.addMessage chatId (resultRow result cancelled)
  autoTitleIfFirstMessage chatId prepared.message prepared.historyRows
  replyOf chatId auth result prepared.authRequired

/-- `(last_result or {})` -/
def GraphRun.lastResult (run : GraphRun) : Values := run.values.getLast?.getD {}

def sendChatMessage (chatId message : Str) (files : List UploadFile) (auth : AuthContext)
    (settings : Settings) (runtime : Runtime) : Handler ChatReply := do
  let prepared ← prepareGraphState chatId message files auth settings runtime
  let run ← startGraph chatId prepared.initialState
  match run.ending with
  | none => finishMessage chatId auth prepared run.lastResult false
  | some .cancelled => finishMessage chatId auth prepared run.lastResult true
  | some (.graphInterrupt payload) => interrupted payload chatId auth
  | some error =>
    if error.isException then
      suppress (ChatRepo.addMessage chatId (userRow prepared))
      pure (.response ⟨errorMessage, chatId, auth.tenantKey, [], []⟩)
    else raise error

/-- The response body is the generator; the client reads it to its end. -/
def streamChatMessage (chatId message : Str) (files : List UploadFile) (auth : AuthContext)
    (settings : Settings) (runtime : Runtime) : Handler Unit := do
  let prepared ← prepareGraphState chatId message files auth settings runtime
  streamSupervisorTokens settings chatId prepared

def noCheckpointer : Exn := .http 400
  "Cannot resume: no checkpointer configured. Enable checkpointing to use tool approval.".toList

def resumeChat (chatId : Str) (approved : Bool) (auth : AuthContext) (runtime : Runtime) :
    Handler ChatReply := do
  let _ ← verifyChatOwnership chatId auth
  if runtime.hasCheckpointer then
    (ainvoke chatId approved).attempt fun
      | .ok result => do
        ChatRepo.addMessage chatId (resultRow result false)
        replyOf chatId auth result []
      | .error (.graphInterrupt payload) => interrupted payload chatId auth
      | .error error => raise error
  else raise noCheckpointer

end OrchidApi
