import Mathlib.Data.Char
import Mathlib.Data.List.Lex
import Mathlib.Data.List.Sort
import OrchidApi.Helpers
import OrchidApi.Transducer

/-! `routers/_streaming.py`: the SSE generator. The loop body is a pure step that
returns the frames it yields; the generator awaits the graph, yields, then persists. -/
namespace OrchidApi
open Text Async

def noResponse : Str := "No response generated.".toList

structure StreamState where
  seenAgents : List Str := []
  agentResults : List (Str × Str) := []
  agentsDone : Bool := false
  fullResponseParts : List Str := []
  buffer : SupervisorTokenBuffer := {}
  directFinal : Option Str := none
  deriving DecidableEq, Repr

namespace StreamState

/-- The `emit` closure over several buffered tokens: only tokens join the response. -/
def emit (s : StreamState) (tokens : List BufferedToken) : StreamState × List Frame :=
  ({ s with fullResponseParts := s.fullResponseParts ++
      (tokens.filter (·.kind = .token)).map BufferedToken.content }, tokens.map .buffered)

def withBuffer (s : StreamState) (buffer : SupervisorTokenBuffer) : StreamState :=
  { s with buffer := buffer }

end StreamState

/-- `payload.get("final_response")` when it is truthy. -/
def Values.answer? (payload : Values) : Option Str :=
  payload.finalResponse.join.filter fun text => !text.isEmpty

def preview (stripped : Str) : Str :=
  if stripped.length > 200 then stripped.take 200 ++ "…".toList else stripped

/-- The cleaned reply and its frame, for the first substantial reply of an agent. -/
def maybeEmitAgentDone (settings : Settings) (msg : Message) (agentName : Str)
    (agentResults : List (Str × Str)) : Option (Str × Frame) :=
  if (agentResults.lookup agentName).isSome then none
  else match msg.content with
    | none => none
    | some content =>
      if content.isEmpty || msg.toolCalls then none
      else
        let stripped := strip (removePrefix
          ("[".toList ++ settings.titleCase agentName ++ " Agent]\n".toList) content)
        if stripped.length ≤ 50 || !stripped.contains ' ' then none
        else some (stripped, .finished agentName (preview stripped))

def onAgent (settings : Settings) (s : StreamState) (msg : Message) (agentName : Str) :
    StreamState × List Frame :=
  let handoff := s.buffer.discardAsHandoff
  let emitted := (s.withBuffer handoff.1).emit handoff.2.toList
  let started := if s.seenAgents.contains agentName then [] else [Frame.started agentName]
  let finished := maybeEmitAgentDone settings msg agentName s.agentResults
  ({ emitted.1 with
      seenAgents := s.seenAgents.insert agentName
      agentResults := s.agentResults ++ (finished.map fun done => (agentName, done.1)).toList
      agentsDone := true },
    emitted.2 ++ started ++ (finished.map Prod.snd).toList)

def jsonLike (content : Str) : Bool := startsWith (strip content) ['{']
def inlineMark : Str := "[Supervisor".toList
def handoffMark : Str := "[Supervisor →".toList
def supervisorNode : Str := "supervisor".toList
def agentSuffix : Str := "_agent".toList
def miniSuffix : Str := "_mini".toList
def aggregatorSuffix : Str := "_aggregator".toList

def onSupervisor (s : StreamState) (msg : Message) : StreamState × List Frame :=
  match msg.content with
  | none => (s, [])
  | some content =>
    if content.isEmpty then (s, [])
    else if jsonLike content then (s, [])
    else if startsWith content inlineMark then
      if startsWith content handoffMark then
        let handoff := s.buffer.recordInlineHandoff content
        (s.withBuffer handoff.1).emit handoff.2.toList
      else (s, [])
    else if !s.agentsDone then (s, [])
    else if msg.toolCalls then (s, [])
    else if s.buffer.alreadyEmitted content || s.buffer.wouldDuplicate content then (s, [])
    else (s.withBuffer (s.buffer.append content), [])

/-- One turn of the `async for` body. -/
def onEvent (settings : Settings) (s : StreamState) : GraphEvent → StreamState × List Frame
  | .values payload => ({ s with directFinal := payload.answer?.or s.directFinal }, [])
  | .message msg node =>
    match msg.event with
    | some event => (s, [.lifecycle event])
    | none =>
      if endsWith node miniSuffix || endsWith node aggregatorSuffix then (s, [])
      else if endsWith node agentSuffix then
        onAgent settings s msg (removeSuffix agentSuffix node)
      else if node ≠ supervisorNode then (s, [])
      else onSupervisor s msg

/-- The loop over a finite run, with the frames of all its turns. -/
def drive (settings : Settings) : StreamState → List GraphEvent → StreamState × List Frame :=
  Transducer.run (onEvent settings)

/-- After exhaustion: flush, then the direct-response fallback. -/
def flush (s : StreamState) : StreamState × List Frame :=
  (s.withBuffer s.buffer.flushAsTokens.1).emit s.buffer.flushAsTokens.2

def fallback (s : StreamState) : StreamState × List Frame :=
  match s.directFinal with
  | some text => if s.fullResponseParts.isEmpty then s.emit [⟨.token, text⟩] else (s, [])
  | none => (s, [])

def StreamState.response (s : StreamState) : Str :=
  if s.fullResponseParts.flatten.isEmpty then noResponse else s.fullResponseParts.flatten

def StreamState.agentsUsed (s : StreamState) : List Str :=
  s.seenAgents.insertionSort (· ≤ ·)

def StreamState.done (s : StreamState) (prepared : PreparedState) (timedOut cancelled : Bool)
    (error : Option Bool) : Done :=
  ⟨s.response, s.agentsUsed, s.agentResults, prepared.authRequired, timedOut, cancelled, error⟩

def timeoutMessage (settings : Settings) : Str :=
  "Stream exceeded the ".toList ++ Nat.toDigits 10 settings.streamMaxSeconds ++
    "s budget — showing what we have so far.".toList

def errorMessage : Str := "An error occurred while processing your request.".toList

/-! ## The generator -/

def emitFrames (frames : List Frame) : Handler Unit := Prog.each emit frames

def superviseLoop (settings : Settings) : StreamState → List GraphEvent → Handler StreamState
  | s, [] => pure s
  | s, event :: rest => do
    emitFrames (onEvent settings s event).2
    superviseLoop settings (onEvent settings s event).1 rest

/-- The graph's iteration; failing to start it is failing at its first await. -/
def startGraph (chatId : Str) (state : InitialState) : Handler GraphRun :=
  (astream chatId state).attempt fun
    | .ok run => pure run
    | .error error => pure ⟨[], some error⟩

def userRow (prepared : PreparedState) : Row := { role := .user, content := some prepared.message }

def StreamState.assistantRow (s : StreamState) (cancelled : Bool) : Row :=
  { role := .assistant, content := some s.response, agentsUsed := s.agentsUsed, cancelled }

def persist (chatId : Str) (prepared : PreparedState) (rows : List Row) : Handler Unit :=
  suppress (do
    Prog.each (ChatRepo.addMessage chatId) rows
    autoTitleIfFirstMessage chatId prepared.message prepared.historyRows)

/-- The tail shared by exhaustion, timeout and error. -/
def finishStream (chatId : Str) (prepared : PreparedState) (s : StreamState)
    (timedOut errored : Bool) : Handler Unit := do
  emit (.done (s.done prepared timedOut false (some errored)))
  persist chatId prepared (userRow prepared :: if errored then [] else [s.assistantRow false])

/-- The `CancelledError` clause, which re-raises. -/
def cancelStream (chatId : Str) (prepared : PreparedState) (s : StreamState) : Handler Unit := do
  if s.fullResponseParts.isEmpty then pure ()
  else
    emit (.done (s.done prepared false true none))
    persist chatId prepared [userRow prepared, s.assistantRow true]
  raise .cancelled

def streamSupervisorTokens (settings : Settings) (chatId : Str) (prepared : PreparedState) :
    Handler Unit := do
  let run ← startGraph chatId prepared.initialState
  let s ← superviseLoop settings {} run.events
  match run.ending with
  | none =>
    emitFrames (flush s).2
    emitFrames (fallback (flush s).1).2
    finishStream chatId prepared (fallback (flush s).1).1 false false
  | some .cancelled => cancelStream chatId prepared s
  | some .timeout =>
    emit (.error (timeoutMessage settings))
    finishStream chatId prepared s true false
  | some error =>
    if error.isException then
      emit (.error errorMessage)
      finishStream chatId prepared s false true
    else raise error

end OrchidApi
