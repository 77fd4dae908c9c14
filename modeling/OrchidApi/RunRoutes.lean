import OrchidApi.Transducer
import OrchidApi.Visibility

/-! `routers/runs.py`: the endpoints on one run, all behind the same gate. A caller learns
nothing of the runs hidden from it, and changes none of them. -/
namespace OrchidApi
open Text Async

def optionalText : Option Str → Json.Value
  | some text => .str text
  | none => .null

/-- `_run_to_dict` -/
def runToDict (run : JobRun) (includeResult : Bool) : Json.Dict :=
  [("run_id".toList, .str run.runId.text), ("trigger_id".toList, .str run.spec.triggerId),
    ("signal_id".toList, .str run.spec.signalId.text), ("agent_name".toList, .str run.spec.agentName),
    ("attempt_number".toList, .num run.attemptNumber), ("status".toList, .str run.status.value),
    ("visibility".toList, .str run.spec.visibility),
    ("visibility_user_id".toList, optionalText run.spec.visibilityUserId),
    ("queued_at".toList, .str run.queuedAt), ("started_at".toList, optionalText run.startedAt),
    ("finished_at".toList, optionalText run.finishedAt), ("error".toList, optionalText run.error)] ++
    if includeResult then
      [("result".toList, run.result.getD .null), ("next_retry_at".toList, optionalText run.nextRetryAt)]
    else []

inductive RunResponse where
  | body (fields : Json.Dict)
  | stream (run : Uuid)

def JobStatus.isTerminal : JobStatus → Bool
  | .succeeded | .failed | .cancelled => true
  | .pending | .running | .other _ => false

namespace RunRoutes

def getRun (run : JobRun) : EventsHandler RunResponse := pure (.body (runToDict run true))

def streamRun (hasEventStream : Bool) (run : JobRun) : EventsHandler RunResponse :=
  if hasEventStream then pure (.stream run.runId)
  else Events.raise (.http 503 "event stream not configured".toList)

def cancelled (run : JobRun) (now : Str) : JobRun :=
  { run with status := .cancelled, finishedAt := some now, error := some "cancelled by operator".toList }

def cancelRun (run : JobRun) : EventsHandler RunResponse :=
  if run.status.isTerminal then pure (.body (runToDict run true))
  else do
    let now ← Events.now
    Events.updateRun (cancelled run now)
    pure (.body (runToDict (cancelled run now) true))

def retryRun (run : JobRun) : EventsHandler RunResponse := do
  let queueMsgId ← Events.enqueue run.spec.signalId
  let now ← Events.now
  pure (.body [("previous_run_id".toList, .str run.runId.text),
    ("queue_msg_id".toList, .str queueMsgId), ("retried_at".toList, .str now)])

end RunRoutes

inductive RunEndpoint where
  | get
  | stream
  | cancel
  | retry
  deriving DecidableEq, Repr

structure RunRequest where
  endpoint : RunEndpoint
  runId : Str
  auth : AuthContext

def RunEndpoint.handle (hasEventStream : Bool) : RunEndpoint → JobRun → EventsHandler RunResponse
  | .get => RunRoutes.getRun
  | .stream => RunRoutes.streamRun hasEventStream
  | .cancel => RunRoutes.cancelRun
  | .retry => RunRoutes.retryRun

section Isolation
variable (runIsVisible : JobRun → AuthContext → Bool) (hasEventStream : Bool) (b : EventsBackend)

def RunRequest.handle (q : RunRequest) : EventsHandler RunResponse :=
  requireVisibleRun runIsVisible q.runId q.auth >>= q.endpoint.handle hasEventStream

/-! ## One request -/

/-- The worlds differ in their job stores alone, and there only in runs that the caller may
not see. -/
structure EventsWorld.Agrees (auth : AuthContext) (w w' : EventsWorld) : Prop where
  runs : ∀ id, (w'.run id).filter (runIsVisible · auth) = (w.run id).filter (runIsVisible · auth)
  rest : w' = { w with runs := w'.runs }

variable {runIsVisible hasEventStream b} {w w' : EventsWorld} {q : RunRequest}

/-- Behind the gate the run is the visible one; without one the answer is always the same. -/
theorem serve_runRequest (w : EventsWorld) (q : RunRequest) :
    serveEvents b (q.handle runIsVisible hasEventStream) w =
      match w.visibleRun runIsVisible q.auth q.runId with
      | some run => serveEvents b (q.endpoint.handle hasEventStream run) w
      | none => (.error runNotFound, w) := by
  have gate := EventsWorld.serve_requireVisibleRun runIsVisible b w q.runId q.auth
  cases found : w.visibleRun runIsVisible q.auth q.runId with
  | none =>
    rw [found] at gate
    exact serveEvents_bind_error gate
  | some run =>
    rw [found] at gate
    exact serveEvents_bind_ok gate

theorem EventsWorld.Agrees.visibleRun (agrees : w.Agrees runIsVisible q.auth w') :
    w'.visibleRun runIsVisible q.auth q.runId = w.visibleRun runIsVisible q.auth q.runId := by
  rw [EventsWorld.visibleRun, EventsWorld.visibleRun]
  cases Uuid.parse q.runId with
  | none => rfl
  | some id => exact agrees.runs id

/-- What a handler makes of the job store. -/
def RunEndpoint.runsAfter (endpoint : RunEndpoint) (b : EventsBackend) (run : JobRun)
    (runs : List JobRun) : List JobRun :=
  if endpoint = .cancel ∧ run.status.isTerminal = false then
    (EventsWorld.updateRun { runs } (RunRoutes.cancelled run b.clock)).runs
  else runs

/-- A handler's answer depends on the run and the queue; it only ever changes this run. -/
theorem serve_endpoint (hasEventStream : Bool) (b : EventsBackend) (endpoint : RunEndpoint)
    (run : JobRun) (w : EventsWorld) :
    ∃ answer queue, ∀ runs, serveEvents b (endpoint.handle hasEventStream run) { w with runs } =
      (answer, { w with runs := endpoint.runsAfter b run runs, queue }) := by
  cases endpoint with
  | get => exact ⟨.ok (.body (runToDict run true)), w.queue, fun runs => rfl⟩
  | stream =>
    cases hasEventStream with
    | false => exact ⟨.error (.http 503 "event stream not configured".toList), w.queue, fun runs => rfl⟩
    | true => exact ⟨.ok (.stream run.runId), w.queue, fun runs => rfl⟩
  | cancel =>
    rw [RunEndpoint.handle, RunRoutes.cancelRun]
    cases terminal : run.status.isTerminal with
    | true =>
      refine ⟨.ok (.body (runToDict run true)), w.queue, fun runs => ?_⟩
      have kept : RunEndpoint.cancel.runsAfter b run runs = runs := by
        simp [RunEndpoint.runsAfter, terminal]
      rw [kept]
      rfl
    | false =>
      refine ⟨.ok (.body (runToDict (RunRoutes.cancelled run b.clock) true)), w.queue, fun runs => ?_⟩
      have updated : RunEndpoint.cancel.runsAfter b run runs =
          (EventsWorld.updateRun { runs } (RunRoutes.cancelled run b.clock)).runs := by
        simp [RunEndpoint.runsAfter, terminal]
      rw [updated]
      rfl
  | retry =>
    exact ⟨.ok (.body [("previous_run_id".toList, .str run.runId.text),
      ("queue_msg_id".toList, .str (b.ticket w.queue run.spec.signalId)),
      ("retried_at".toList, .str b.clock)]), w.queue ++ [run.spec.signalId], fun runs => rfl⟩

theorem EventsWorld.run_id {w : EventsWorld} {id : Uuid} {run : JobRun} (found : w.run id = some run) :
    run.runId = id := by simpa using List.find?_some found

theorem EventsWorld.run_updateRun (w : EventsWorld) (new : JobRun) (id : Uuid) :
    (w.updateRun new).run id = if id = new.runId then (w.run id).map fun _ => new else w.run id := by
  have mapped : (w.updateRun new).run id =
      (w.run id).map fun row => if row.runId = new.runId then new else row := by
    refine find?_map_key JobRun.runId (fun row => ?_) w.runs id
    split
    · rename_i same
      exact same.symm
    · rfl
  rw [mapped]
  cases found : w.run id with
  | none => simp
  | some row =>
    rw [← EventsWorld.run_id found]
    by_cases same : row.runId = new.runId <;> simp [same]

theorem EventsWorld.visibleRun_some {auth : AuthContext} {runId : Str} {run : JobRun}
    (found : w.visibleRun runIsVisible auth runId = some run) :
    w.run run.runId = some run ∧ runIsVisible run auth = true := by
  obtain ⟨stored, visible⟩ := Option.filter_eq_some_iff.mp found
  obtain ⟨id, _, addressed⟩ := Option.bind_eq_some_iff.mp stored
  rw [EventsWorld.run_id addressed]
  exact ⟨addressed, visible⟩

/-- Both stores change the run that the caller sees, in the same way. -/
theorem EventsWorld.Agrees.updateRun {auth : AuthContext} (agrees : w.Agrees runIsVisible auth w')
    {run new : JobRun} (stored : w.run run.runId = some run) (visible : runIsVisible run auth = true)
    (same : new.runId = run.runId) (id : Uuid) :
    ((w'.updateRun new).run id).filter (runIsVisible · auth) =
      ((w.updateRun new).run id).filter (runIsVisible · auth) := by
  rw [EventsWorld.run_updateRun, EventsWorld.run_updateRun, same]
  by_cases here : id = run.runId
  · have both := agrees.runs run.runId
    rw [stored, Option.filter_some, if_pos visible] at both
    have stored' := (Option.filter_eq_some_iff.mp both).1
    rw [if_pos here, if_pos here, here, stored, stored']
  · rw [if_neg here, if_neg here]
    exact agrees.runs id

variable (hasEventStream b) in
/-- A request has the same outcome in both worlds, and leaves them in agreement. -/
theorem RunRequest.agrees_after {q : RunRequest} (agrees : w.Agrees runIsVisible q.auth w') :
    (serveEvents b (q.handle runIsVisible hasEventStream) w').1 =
        (serveEvents b (q.handle runIsVisible hasEventStream) w).1 ∧
      (serveEvents b (q.handle runIsVisible hasEventStream) w).2.Agrees runIsVisible q.auth
        (serveEvents b (q.handle runIsVisible hasEventStream) w').2 := by
  rw [serve_runRequest, serve_runRequest, agrees.visibleRun]
  cases found : w.visibleRun runIsVisible q.auth q.runId with
  | none => exact ⟨rfl, agrees⟩
  | some run =>
    obtain ⟨stored, visible⟩ := EventsWorld.visibleRun_some found
    obtain ⟨answer, queue, served⟩ := serve_endpoint hasEventStream b q.endpoint run w
    have here := served w.runs
    have there := served w'.runs
    rw [← agrees.rest] at there
    dsimp only
    rw [here, there]
    refine ⟨rfl, fun id => ?_, rfl⟩
    rw [RunEndpoint.runsAfter, RunEndpoint.runsAfter]
    split
    · have same : (RunRoutes.cancelled run b.clock).runId = run.runId := rfl
      exact agrees.updateRun stored visible same id
    · exact agrees.runs id

/-- For every pair of stores that agree on the visible runs, an endpoint on one run gives the
same outcome; a run that is not visible gets the one 404 and nothing is changed. -/
theorem hidden_runs_unseen (agrees : w.Agrees runIsVisible q.auth w') :
    (serveEvents b (q.handle runIsVisible hasEventStream) w').1 =
        (serveEvents b (q.handle runIsVisible hasEventStream) w).1 ∧
      (w.visibleRun runIsVisible q.auth q.runId = none →
        serveEvents b (q.handle runIsVisible hasEventStream) w = (.error runNotFound, w)) := by
  refine ⟨(RunRequest.agrees_after hasEventStream b agrees).1, fun hidden => ?_⟩
  rw [serve_runRequest, hidden]

end Isolation

def secondId : Str := "00000000-0000-0000-0000-000000000002".toList

/-- A cancel of a run that someone else sees, and of a run that is not there. -/
theorem hidden_runs_unseen_cancel :
    (serveEvents {} (RunRequest.handle visibleToActor true ⟨.cancel, secondId, claimant⟩) {}).1 =
        (serveEvents {} (RunRequest.handle visibleToActor true ⟨.cancel, secondId, claimant⟩)
          { runs := [hiddenRun] }).1 ∧
      serveEvents {} (RunRequest.handle visibleToActor true ⟨.cancel, secondId, claimant⟩)
        { runs := [hiddenRun] } = (.error runNotFound, { runs := [hiddenRun] }) := by
  have agrees : EventsWorld.Agrees visibleToActor claimant { runs := [hiddenRun] } {} := by
    have hidden : visibleToActor hiddenRun claimant = false := by decide
    refine ⟨fun id => ?_, rfl⟩
    by_cases same : hiddenRun.runId = id <;>
      simp [EventsWorld.run, same, Option.filter_some, hidden]
  obtain ⟨outcome, unchanged⟩ := hidden_runs_unseen (q := ⟨.cancel, secondId, claimant⟩) agrees
  exact ⟨outcome, unchanged rfl⟩

/-! ## Any number of requests -/

/-- One caller's requests, each with the world that the last one left. -/
def serveRunRequest (runIsVisible : JobRun → AuthContext → Bool) (hasEventStream : Bool)
    (b : EventsBackend) (w : EventsWorld) (q : RunRequest) :
    EventsWorld × List (Except Exn RunResponse) :=
  ((serveEvents b (q.handle runIsVisible hasEventStream) w).2,
    [(serveEvents b (q.handle runIsVisible hasEventStream) w).1])

theorem requests_unseen {runIsVisible : JobRun → AuthContext → Bool} {hasEventStream : Bool}
    {b : EventsBackend} {auth : AuthContext} {requests : List RunRequest}
    (own : ∀ q ∈ requests, q.auth = auth) {w w' : EventsWorld} (agrees : w.Agrees runIsVisible auth w') :
    (Transducer.run (serveRunRequest runIsVisible hasEventStream b) w' requests).2 =
      (Transducer.run (serveRunRequest runIsVisible hasEventStream b) w requests).2 := by
  induction requests generalizing w w' with
  | nil => rfl
  | cons q rest ih =>
    obtain rfl := own q (.head _)
    obtain ⟨same, later⟩ := RunRequest.agrees_after hasEventStream b agrees
    rw [Transducer.run, Transducer.run]
    exact congrArg₂ List.append (congrArg (fun outcome => [outcome]) same)
      (ih (fun other member => own other (.tail _ member)) later)

end OrchidApi
