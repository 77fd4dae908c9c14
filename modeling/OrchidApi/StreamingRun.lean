import OrchidApi.Storage
import OrchidApi.Streaming

/-! The generator run to its end against the in-memory storage: which frames it sends
and which rows it stores, for each way the graph iteration can end. -/
namespace OrchidApi
open Text Async

/-! ## The loop -/

@[simp] theorem emit_handoffs_parts (s : StreamState) (t : Option BufferedToken)
    (handoff : ∀ token, t = some token → token.kind = .handoff) :
    (s.emit t.toList).1.fullResponseParts = s.fullResponseParts := by
  cases t with
  | none => simp [StreamState.emit]
  | some token => simp [StreamState.emit, handoff token rfl]

theorem onAgent_parts (settings : Settings) (s : StreamState) (msg : Message) (agent : Str) :
    (onAgent settings s msg agent).1.fullResponseParts = s.fullResponseParts := by
  simp only [onAgent]
  exact emit_handoffs_parts _ _ fun token recorded =>
    s.buffer.discardAsHandoff_kind token recorded

theorem onSupervisor_parts (s : StreamState) (msg : Message) :
    (onSupervisor s msg).1.fullResponseParts = s.fullResponseParts := by
  unfold onSupervisor
  cases msg.content with
  | none => rfl
  | some content =>
    dsimp only
    repeat' split
    all_goals try rfl
    exact emit_handoffs_parts _ _ fun token recorded =>
      s.buffer.recordInlineHandoff_kind content token recorded

/-- Nothing is streamed as a token while the graph is still running. -/
theorem onEvent_parts (settings : Settings) (s : StreamState) (event : GraphEvent) :
    (onEvent settings s event).1.fullResponseParts = s.fullResponseParts := by
  cases event with
  | values payload => rfl
  | message msg node =>
    simp only [onEvent]
    repeat' split
    all_goals try rfl
    · exact onAgent_parts _ _ _ _
    · exact onSupervisor_parts _ _

theorem drive_parts (settings : Settings) (s : StreamState) (events : List GraphEvent) :
    (drive settings s events).1.fullResponseParts = s.fullResponseParts :=
  Transducer.run_unchanged (onEvent_parts settings) s events

/-- The state in which the iteration ends, from the start of the request. -/
def loopState (settings : Settings) (events : List GraphEvent) : StreamState :=
  (drive settings {} events).1

def loopFrames (settings : Settings) (events : List GraphEvent) : List Frame :=
  (drive settings {} events).2

@[simp] theorem loopState_parts (settings : Settings) (events : List GraphEvent) :
    (loopState settings events).fullResponseParts = [] := drive_parts settings {} events

/-! ## The exits -/

def timedOut : Option Exn → Bool
  | some .timeout => true
  | _ => false

/-- The iteration raised something other than the expired budget. -/
def errored : Option Exn → Bool
  | none | some .timeout => false
  | some _ => true

/-- Exhausted, or ended by something `except Exception` catches. -/
def Caught (ending : Option Exn) : Prop := ∀ error ∈ ending, error.isException = true

instance (ending : Option Exn) : Decidable (Caught ending) :=
  inferInstanceAs (Decidable (∀ error ∈ ending, error.isException = true))

def exitState (s : StreamState) : Option Exn → StreamState
  | none => (fallback (flush s).1).1
  | some _ => s

def exitFrames (settings : Settings) (s : StreamState) : Option Exn → List Frame
  | none => (flush s).2 ++ (fallback (flush s).1).2
  | some .timeout => [.error (timeoutMessage settings)]
  | some _ => [.error errorMessage]

def exitRows (prepared : PreparedState) (s : StreamState) (ending : Option Exn) : List Row :=
  userRow prepared :: if errored ending then [] else [(exitState s ending).assistantRow false]

def exitDone (prepared : PreparedState) (s : StreamState) (ending : Option Exn) : Done :=
  (exitState s ending).done prepared (timedOut ending) false (some (errored ending))

/-- All frames of a run that reaches the shared tail. -/
def streamFrames (settings : Settings) (prepared : PreparedState) (run : GraphRun) : List Frame :=
  loopFrames settings run.events ++
    (exitFrames settings (loopState settings run.events) run.ending ++
      [.done (exitDone prepared (loopState settings run.events) run.ending)])

def streamRows (settings : Settings) (prepared : PreparedState) (run : GraphRun) : List Row :=
  exitRows prepared (loopState settings run.events) run.ending

def World.autoTitle (w : World) (chatId : Str) (prepared : PreparedState) : World :=
  if prepared.historyRows.isEmpty then w.retitle chatId (titleOf prepared.message) else w

@[simp] theorem autoTitle_rows (w : World) (chatId other : Str) (prepared : PreparedState) :
    (w.autoTitle chatId prepared).store.rows other = w.store.rows other := by
  unfold World.autoTitle; split <;> rfl

@[simp] theorem autoTitle_frames (w : World) (chatId : Str) (prepared : PreparedState) :
    (w.autoTitle chatId prepared).frames = w.frames := by
  unfold World.autoTitle; split <;> rfl

section Serve
variable {b : Backend} {w : World} {settings : Settings} {chatId : Str} {prepared : PreparedState}

theorem serve_emitFrames (frames : List Frame) :
    serve b (emitFrames frames) w = (.ok (), w.send frames) := serve_emits frames

theorem serve_superviseLoop (s : StreamState) (events : List GraphEvent) :
    serve b (superviseLoop settings s events) w =
      (.ok (drive settings s events).1, w.send (drive settings s events).2) := by
  induction events generalizing s w with
  | nil => simp [superviseLoop, drive, Transducer.run]
  | cons event rest ih =>
    rw [superviseLoop, serve_bind_ok (serve_emitFrames _), ih, send_send]
    rfl

theorem serve_startGraph (state : InitialState) :
    serve b (startGraph chatId state) w = (.ok b.run, w) := by
  rw [startGraph, serve_attempt, serve_astream]; rfl

theorem serve_autoTitle :
    serve b (autoTitleIfFirstMessage chatId prepared.message prepared.historyRows) w =
      (.ok (), w.autoTitle chatId prepared) := by
  unfold autoTitleIfFirstMessage World.autoTitle
  by_cases first : prepared.historyRows.isEmpty
  · simp only [first, ↓reduceIte, serve_updateTitle]
  · simp [first]

theorem serve_persist (rows : List Row) :
    serve b (persist chatId prepared rows) w =
      (.ok (), (w.addRows chatId rows).autoTitle chatId prepared) :=
  serve_suppress ((serve_bind_ok (serve_addMessages chatId rows)).trans serve_autoTitle)

theorem serve_finishStream (s : StreamState) (late failed : Bool) :
    serve b (finishStream chatId prepared s late failed) w =
      (.ok (), ((w.send [.done (s.done prepared late false (some failed))]).addRows chatId
        (userRow prepared :: if failed then [] else [s.assistantRow false])).autoTitle
          chatId prepared) :=
  (serve_bind_ok (serve_emit _)).trans (serve_persist _)

theorem serve_cancelStream (s : StreamState) (quiet : s.fullResponseParts = []) :
    serve b (cancelStream chatId prepared s) w = (.error .cancelled, w) := by
  unfold cancelStream; simp [quiet]

theorem serve_untilExit :
    serve b (streamSupervisorTokens settings chatId prepared) w =
      serve b (match b.run.ending with
        | none => do
          emitFrames (flush (loopState settings b.run.events)).2
          emitFrames (fallback (flush (loopState settings b.run.events)).1).2
          finishStream chatId prepared
            (fallback (flush (loopState settings b.run.events)).1).1 false false
        | some .cancelled => cancelStream chatId prepared (loopState settings b.run.events)
        | some .timeout => do
          emit (.error (timeoutMessage settings))
          finishStream chatId prepared (loopState settings b.run.events) true false
        | some error =>
          if error.isException then do
            emit (.error errorMessage)
            finishStream chatId prepared (loopState settings b.run.events) false true
          else raise error) (w.send (loopFrames settings b.run.events)) := by
  rw [streamSupervisorTokens, serve_bind_ok (serve_startGraph _),
    serve_bind_ok (serve_superviseLoop _ _)]
  rfl

/-- Exhaustion, timeout and any other exception all send one `done` and then persist. -/
theorem serve_stream (caught : Caught b.run.ending) :
    serve b (streamSupervisorTokens settings chatId prepared) w =
      (.ok (), ((w.send (streamFrames settings prepared b.run)).addRows chatId
        (streamRows settings prepared b.run)).autoTitle chatId prepared) := by
  rw [serve_untilExit]
  simp only [streamFrames, streamRows]
  generalize loopState settings b.run.events = s
  rcases h : b.run.ending with _ | error
  · dsimp only
    rw [serve_bind_ok (serve_emitFrames _), serve_bind_ok (serve_emitFrames _), serve_finishStream]
    simp [exitFrames, exitDone, exitRows, exitState, errored, timedOut]
  · have isException : error.isException = true := caught error (by simp [h])
    cases error
    case cancelled => contradiction
    case generatorExit => contradiction
    all_goals
      simp only [Exn.isException, ↓reduceIte]
      rw [serve_bind_ok (serve_emit _), serve_finishStream]
      simp [exitFrames, exitDone, exitRows, exitState, errored, timedOut]

/-- A cancelled iteration sends no further frame and stores nothing. -/
theorem serve_stream_cancelled (stopped : b.run.ending = some .cancelled) :
    serve b (streamSupervisorTokens settings chatId prepared) w =
      (.error .cancelled, w.send (loopFrames settings b.run.events)) := by
  rw [serve_untilExit, stopped]
  exact serve_cancelStream _ (loopState_parts _ _)

/-- An iteration that ends in what `except Exception` passes over stores nothing. -/
theorem serve_stream_uncaught (uncaught : ¬Caught b.run.ending) :
    (serve b (streamSupervisorTokens settings chatId prepared) w).2 =
      w.send (loopFrames settings b.run.events) := by
  cases ended : b.run.ending with
  | none => exact absurd (by simp [ended, Caught]) uncaught
  | some error =>
    have passed : error.isException = false := by simpa [ended, Caught] using uncaught
    cases error
    case cancelled => rw [serve_stream_cancelled ended]
    case generatorExit => rw [serve_untilExit, ended]; rfl
    all_goals cases passed

end Serve
end OrchidApi
