import OrchidApi.AuthenticatedStore
import OrchidApi.Listings
import OrchidApi.SchedulePatch

/-! The requests to the events runtime: `routers/signals.py` and `routers/schedules.py` beside
the endpoints of `routers/runs.py` and `routers/jobs.py`, and what each may do and tell. -/
namespace OrchidApi
open Text Async

/-! ## Endpoints -/

def SignalRoutes.getSignal (runIsVisible : JobRun → AuthContext → Bool) (signalId : Str)
    (auth : AuthContext) : EventsHandler Json.Dict := do
  let signal ← requireVisibleSignal runIsVisible signalId auth
  pure (signalToDict signal)

def replayBody (signal : Signal) (queueMsgId now : Str) : Json.Dict :=
  [("signal_id".toList, .str signal.signalId.text), ("queue_msg_id".toList, .str queueMsgId),
    ("replayed_at".toList, .str now)]

/-- The row goes back onto the queue as it is. -/
def SignalRoutes.replaySignal (signalId : Str) (auth : AuthContext) : EventsHandler Json.Dict :=
  if auth.isAdmin = false then Events.raise adminNotFound
  else match Uuid.parse signalId with
  | none => Events.raise adminNotFound
  | some sid => do
    match ← Events.getSignal sid with
    | none => Events.raise adminNotFound
    | some signal =>
      if signal.tenantKey ≠ auth.tenantKey then Events.raise adminNotFound
      else do
        let queueMsgId ← Events.enqueue signal.signalId
        let now ← Events.now
        pure (replayBody signal queueMsgId now)

def ScheduleRoutes.getSchedule (scheduleId : Str) (auth : AuthContext) : EventsHandler Json.Dict :=
  if auth.isAdmin = false then Events.raise adminNotFound
  else do
    match ← Events.getSchedule scheduleId with
    | none => Events.raise adminNotFound
    | some record => pure (scheduleToDict record)

/-- What a process brings to the endpoints. -/
structure EventsDeployment where
  fromIsoformat : Str → Option Datetime
  isPrintable : Char → Bool
  runIsVisible : JobRun → AuthContext → Bool
  registered : Str → Bool := fun _ => true
  hasEventStream : Bool := true
  producers : List Nat := []

inductive EventsRequest where
  | run (endpoint : RunEndpoint) (runId : Str)
  | list (limit : Nat) (request : ListRequest)
  | getSignal (signalId : Str)
  | replaySignal (signalId : Str)
  | getSchedule (scheduleId : Str)
  | patchSchedule (scheduleId : Str) (body : SchedulePatchBody)

inductive EventsReply where
  | run (response : RunResponse)
  | body (fields : Json.Dict)
  | done

def replied (p : EventsHandler Json.Dict) : EventsHandler EventsReply :=
  p >>= fun fields => pure (.body fields)

def EventsRequest.handle (d : EventsDeployment) (auth : AuthContext) :
    EventsRequest → EventsHandler EventsReply
  | run endpoint runId => do
    let response ← RunRequest.handle d.runIsVisible d.hasEventStream ⟨endpoint, runId, auth⟩
    pure (.run response)
  | list limit request =>
    replied (request.handle d.fromIsoformat d.isPrintable d.runIsVisible d.registered limit auth)
  | getSignal signalId => replied (SignalRoutes.getSignal d.runIsVisible signalId auth)
  | replaySignal signalId => replied (SignalRoutes.replaySignal signalId auth)
  | getSchedule scheduleId => replied (ScheduleRoutes.getSchedule scheduleId auth)
  | patchSchedule scheduleId body => replied (OrchidApi.patchSchedule d.producers scheduleId body auth)

/-! ## The stores as a log -/

inductive EventsKind where
  | run
  | queue
  | schedule
  | fire
  | rewrite
  deriving DecidableEq

def EventsCall.writes : EventsCall → Option EventsKind
  | updateRun _ => some .run
  | enqueue _ => some .queue
  | upsertSchedule _ => some .schedule
  | recordFire _ _ _ => some .fire
  | rewrite _ => some .rewrite
  | _ => none

def EventsCall.isRefresh : EventsCall → Bool
  | refresh _ => true
  | _ => false

/-- A refresh changes the producers, not the stores. -/
def eventsStore : Store EventsApi EventsWorld where
  answers w c value := ∃ b, (eventsServer b c w).1 = .ok value
  changes c := c.writes.isSome || c.isRefresh
  after c w := (eventsServer {} c w).2

def eventsService (d : EventsDeployment) : Service EventsCall.Reply EventsCall EventsRequest EventsRuntime
    EventsReply EventsWorld where
  access _ := .identified
  depends _ := depend AppContext.getEventsRuntime
  handle asked auth _ := asked.handle d auth
  acts := id
  idle := .done
  store := eventsStore

/-! ## What a request may do -/

section Rules
variable (d : EventsDeployment) (auth : AuthContext) (told : Told EventsApi)

/-- A run that the caller may see has been told under the id. -/
def ShowsRun (runId : Str) (row : JobRun) : Prop :=
  ∃ rid, Uuid.parse runId = some rid ∧ told (.getRun rid) (some row) ∧ d.runIsVisible row auth = true

/-- A signal of the caller's tenant has been told under the id. -/
def ShowsSignal (signalId : Str) (signal : Signal) : Prop :=
  ∃ sid, Uuid.parse signalId = some sid ∧ told (.getSignal sid) (some signal) ∧
    signal.tenantKey = auth.tenantKey

/-- A schedule has been told to an admin. -/
def ShowsSchedule (scheduleId : Str) (record : ScheduleRecord) : Prop :=
  auth.isAdmin = true ∧ told (.getSchedule scheduleId) (some record)

/-- The changes that a request may make. -/
inductive EventsRequest.Permits : EventsRequest → EventsCall → Prop where
  | cancel {runId row} (now : Str) (shows : ShowsRun d auth told runId row)
      (active : row.status.isTerminal = false) :
      Permits (.run .cancel runId) (.updateRun (RunRoutes.cancelled row now))
  | retry {runId row} (shows : ShowsRun d auth told runId row) :
      Permits (.run .retry runId) (.enqueue row.spec.signalId)
  | replay {signalId signal} (admin : auth.isAdmin = true) (shows : ShowsSignal auth told signalId signal) :
      Permits (.replaySignal signalId) (.enqueue signal.signalId)
  | patch {scheduleId record} (body : SchedulePatchBody) (shows : ShowsSchedule auth told scheduleId record) :
      Permits (.patchSchedule scheduleId body) (.upsertSchedule (body.patch record))
  | refresh {scheduleId record body producer} (shows : ShowsSchedule auth told scheduleId record)
      (patched : told (.upsertSchedule (body.patch record)) ()) (known : producer ∈ d.producers) :
      Permits (.patchSchedule scheduleId body) (.refresh producer)

/-- What an endpoint on one run answers with. -/
inductive RunEndpoint.Tells (row : JobRun) : RunEndpoint → RunResponse → Prop where
  | get : Tells row .get (.body (runToDict row true))
  | stream : Tells row .stream (.stream row.runId)
  | ended (ended : row.status.isTerminal = true) : Tells row .cancel (.body (runToDict row true))
  | cancelled {now} (made : told (.updateRun (RunRoutes.cancelled row now)) ()) :
      Tells row .cancel (.body (runToDict (RunRoutes.cancelled row now) true))
  | retried {queueMsgId now} (made : told (.enqueue row.spec.signalId) queueMsgId) :
      Tells row .retry (.body [("previous_run_id".toList, .str row.runId.text),
        ("queue_msg_id".toList, .str queueMsgId), ("retried_at".toList, .str now)])

/-- Why a signal of the tenant is shown. -/
def ShownFor (signalId : Str) (signal : Signal) : Prop :=
  auth.isAdmin = true ∨ signal.names auth = true ∨
    ∃ rows : List JobRun, told (.listRuns { limit := 200 }) rows ∧
      ∃ run ∈ rows, Uuid.parse signalId = some run.spec.signalId ∧ d.runIsVisible run auth = true

/-- The answers that a request may get. -/
inductive EventsRequest.Tells : EventsRequest → EventsReply → Prop where
  | run {endpoint runId row response} (shows : ShowsRun d auth told runId row)
      (tells : endpoint.Tells told row response) : Tells (.run endpoint runId) (.run response)
  | runs {limit status triggerId since parsed rows}
      (listed : told (.listRuns { triggerId, status, since := parsed, limit }) rows) :
      Tells (.list limit (.runs status triggerId since)) (.body
        (itemList (((rows : List JobRun).filter (d.runIsVisible · auth)).map (runToDict · false))))
  | triggerRuns {limit triggerId status rows}
      (listed : told (.listRuns { triggerId := some triggerId, status, limit }) rows) :
      Tells (.list limit (.triggerRuns triggerId status)) (.body
        (itemsBody ((rows : List JobRun).filter (d.runIsVisible · auth))))
  | signals {limit type source since parsed rows} (admin : auth.isAdmin = true)
      (listed : told (.listSignals { type, tenantKey := auth.tenantKey, since := parsed, limit }) rows) :
      Tells (.list limit (.signals type source since)) (.body
        (itemList (((rows : List Signal).filter (ofSource source)).map signalToDict)))
  | signal {signalId signal} (shows : ShowsSignal auth told signalId signal)
      (shown : ShownFor d auth told signalId signal) :
      Tells (.getSignal signalId) (.body (signalToDict signal))
  | replayed {signalId signal queueMsgId now} (admin : auth.isAdmin = true)
      (shows : ShowsSignal auth told signalId signal)
      (made : told (.enqueue signal.signalId) queueMsgId) :
      Tells (.replaySignal signalId) (.body (replayBody signal queueMsgId now))
  | schedule {scheduleId record} (shows : ShowsSchedule auth told scheduleId record) :
      Tells (.getSchedule scheduleId) (.body (scheduleToDict record))
  | patched {scheduleId record body} (shows : ShowsSchedule auth told scheduleId record)
      (made : told (.upsertSchedule (body.patch record)) ()) :
      Tells (.patchSchedule scheduleId body) (.body (scheduleToDict (body.patch record)))

end Rules

def EventsRequest.Ends (d : EventsDeployment) (auth : AuthContext) (told : Told EventsApi)
    (request : EventsRequest) : Except Exn EventsReply → Prop
  | .ok reply => request.Tells d auth told reply
  | .error _ => True

/-- A request to a process without events gets the 503 of the helper. -/
def eventsRules (d : EventsDeployment) :
    ServiceRules EventsCall.Reply (eventsService d).access EventsRuntime EventsReply where
  given _ facts runtime := facts.Shows AppContext.getEventsRuntime (.ok runtime)
  lacks _ facts error := facts.Shows AppContext.getEventsRuntime (.error error)
  permits asked auth _ told c := asked.Permits d auth told c
  ends asked auth _ told outcome := asked.Ends d auth told outcome
  once c := c.writes.isSome

end OrchidApi
