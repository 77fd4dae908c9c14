import OrchidApi.Effects
import OrchidApi.Uuid

/-! The events runtime as its routers see it: job runs, signals and schedules, the calls that
reach their stores, and an in-memory runtime that answers them. Times are ISO texts. -/
namespace OrchidApi
open Text Async

/-! ## Rows -/

def JobStatus.value : JobStatus → Str
  | .pending => "pending".toList
  | .running => "running".toList
  | .succeeded => "succeeded".toList
  | .failed => "failed".toList
  | .cancelled => "cancelled".toList
  | .other name => name

structure JobSpec where
  triggerId : Str
  signalId : Uuid
  agentName : Str
  identityClaim : Json.Dict := []
  visibility : Str
  visibilityUserId : Option Str := none

structure JobRun where
  runId : Uuid
  spec : JobSpec
  attemptNumber : Nat := 1
  status : JobStatus
  queuedAt : Str
  startedAt : Option Str := none
  finishedAt : Option Str := none
  error : Option Str := none
  result : Option Json.Value := none
  nextRetryAt : Option Str := none

structure Signal where
  signalId : Uuid
  tenantKey : Str
  userId : Option Str := none
  identityClaim : Json.Dict := []
  type : Str := []
  source : Str := []
  payload : Json.Dict := []
  correlationId : Option Str := none
  dedupeKey : Option Str := none
  chatBinding : Option Json.Dict := none
  occurredAt : Str := []
  persistedAt : Str := []
  relayStatus : Str := []

/-- `OrchidScheduleRecord` -/
structure ScheduleRecord where
  scheduleId : Str
  triggerId : Str
  cron : Option Str := none
  intervalSeconds : Option Nat := none
  identityClaim : Json.Dict := []
  lastFireAt : Option Str := none
  nextFireAt : Option Str := none
  enabled : Bool := true

/-! ## Stores -/

/-- The filters of `job_store.list`. -/
structure RunQuery where
  triggerId : Option Str := none
  status : Option Str := none
  limit : Nat
  since : Option Str := none

/-- The filters of `signal_store.list`. -/
structure SignalQuery where
  type : Option Str := none
  tenantKey : Str
  since : Option Str := none
  limit : Nat

def RunQuery.Matches (query : RunQuery) (run : JobRun) : Prop :=
  (∀ trigger ∈ query.triggerId, run.spec.triggerId = trigger) ∧
    ∀ status ∈ query.status, run.status.value = status

instance (query : RunQuery) (run : JobRun) : Decidable (query.Matches run) :=
  inferInstanceAs (Decidable (_ ∧ _))

def SignalQuery.Matches (query : SignalQuery) (signal : Signal) : Prop :=
  signal.tenantKey = query.tenantKey ∧ ∀ type ∈ query.type, signal.type = type

instance (query : SignalQuery) (signal : Signal) : Decidable (query.Matches signal) :=
  inferInstanceAs (Decidable (_ ∧ _))

/-- The stores, with the rows in the order in which they are listed, the ids of the signals in
the queue, and how the stores compare a row's time with `since`. -/
structure EventsWorld where
  runs : List JobRun := []
  signals : List Signal := []
  schedules : List ScheduleRecord := []
  queue : List Uuid := []
  queuedSince : Str → JobRun → Bool := fun _ _ => true
  persistedSince : Str → Signal → Bool := fun _ _ => true

namespace EventsWorld

def run (w : EventsWorld) (id : Uuid) : Option JobRun := w.runs.find? (·.runId = id)

/-- The runs that match the filters, before the limit. -/
def matchingRuns (w : EventsWorld) (query : RunQuery) : List JobRun :=
  w.runs.filter fun run => query.Matches run ∧ ∀ since ∈ query.since, w.queuedSince since run = true

def listRuns (w : EventsWorld) (query : RunQuery) : List JobRun :=
  (w.matchingRuns query).take query.limit

/-- `update(run)` writes the whole row. -/
def updateRun (w : EventsWorld) (run : JobRun) : EventsWorld :=
  { w with runs := w.runs.map fun row => if row.runId = run.runId then run else row }

def signal (w : EventsWorld) (id : Uuid) : Option Signal := w.signals.find? (·.signalId = id)

/-- The signals that match the filters, before the limit. -/
def matchingSignals (w : EventsWorld) (query : SignalQuery) : List Signal :=
  w.signals.filter fun signal =>
    query.Matches signal ∧ ∀ since ∈ query.since, w.persistedSince since signal = true

def listSignals (w : EventsWorld) (query : SignalQuery) : List Signal :=
  (w.matchingSignals query).take query.limit

def schedule (w : EventsWorld) (id : Str) : Option ScheduleRecord :=
  w.schedules.find? (·.scheduleId = id)

def upsertSchedule (w : EventsWorld) (record : ScheduleRecord) : EventsWorld :=
  { w with schedules :=
      if w.schedules.any (·.scheduleId = record.scheduleId) then
        w.schedules.map fun row => if row.scheduleId = record.scheduleId then record else row
      else w.schedules ++ [record] }

/-- The scheduler's own write of when it fired and fires next. -/
def recordFire (w : EventsWorld) (id : Str) (lastFireAt nextFireAt : Option Str) : EventsWorld :=
  { w with schedules := w.schedules.map fun row =>
      if row.scheduleId = id then { row with lastFireAt, nextFireAt } else row }

end EventsWorld

/-- A change of rows that keeps their ids changes the row that an id finds. -/
theorem find?_map_key {row key : Type} [DecidableEq key] (id : row → key) {change : row → row}
    (same : ∀ r, id (change r) = id r) (rows : List row) (wanted : key) :
    (rows.map change).find? (fun r => id r = wanted) =
      (rows.find? fun r => id r = wanted).map change := by
  rw [List.find?_map]
  congr 2
  funext r
  simp [same]

/-! ## Calls -/

/-- The calls of the routers; `rewrite` is whatever else the processors, the schedulers and the
producers make of the stores, which put rows in, take them off the queue and prune them. -/
inductive EventsCall where
  | getRun (id : Uuid)
  | listRuns (query : RunQuery)
  | updateRun (run : JobRun)
  | enqueue (signal : Uuid)
  | getSignal (id : Uuid)
  | listSignals (query : SignalQuery)
  | getSchedule (id : Str)
  | upsertSchedule (record : ScheduleRecord)
  | recordFire (id : Str) (lastFireAt nextFireAt : Option Str)
  | refresh (producer : Nat)
  | now
  | rewrite (change : EventsWorld → EventsWorld)

def EventsCall.Reply : EventsCall → Type
  | .getRun _ => Option JobRun
  | .listRuns _ => List JobRun
  | .enqueue _ => Str
  | .getSignal _ => Option Signal
  | .listSignals _ => List Signal
  | .getSchedule _ => Option ScheduleRecord
  | .now => Str
  | .updateRun _ | .upsertSchedule _ | .recordFire _ _ _ | .refresh _ | .rewrite _ => Unit

abbrev EventsApi : Signature := ⟨EventsCall, EventsCall.Reply, Exn⟩

abbrev EventsHandler (α : Type) : Type := Prog EventsApi α

namespace Events

def await (c : EventsCall) : EventsHandler c.Reply := Prog.await (S := EventsApi) c
def raise (error : Exn) : EventsHandler α := Prog.raise (S := EventsApi) error

def getRun (id : Uuid) : EventsHandler (Option JobRun) := await (.getRun id)
def listRuns (query : RunQuery) : EventsHandler (List JobRun) := await (.listRuns query)
def updateRun (run : JobRun) : EventsHandler Unit := await (.updateRun run)
def enqueue (signal : Uuid) : EventsHandler Str := await (.enqueue signal)
def getSignal (id : Uuid) : EventsHandler (Option Signal) := await (.getSignal id)
def listSignals (query : SignalQuery) : EventsHandler (List Signal) := await (.listSignals query)
def getSchedule (id : Str) : EventsHandler (Option ScheduleRecord) := await (.getSchedule id)
def upsertSchedule (record : ScheduleRecord) : EventsHandler Unit := await (.upsertSchedule record)
def recordFire (id : Str) (lastFireAt nextFireAt : Option Str) : EventsHandler Unit :=
  await (.recordFire id lastFireAt nextFireAt)
def refresh (producer : Nat) : EventsHandler Unit := await (.refresh producer)
def now : EventsHandler Str := await .now

end Events

/-! ## The in-memory runtime -/

/-- What lies outside the stores: the clock, the message id that the queue hands out, and
whether a producer's refresh succeeds. -/
structure EventsBackend where
  clock : Str := []
  ticket : List Uuid → Uuid → Str := fun _ _ => []
  refreshed : Nat → Except Exn Unit := fun _ => .ok ()

def eventsServer (b : EventsBackend) : Server EventsApi EventsWorld := fun c w =>
  match c with
  | .getRun id => (.ok (w.run id), w)
  | .listRuns query => (.ok (w.listRuns query), w)
  | .updateRun run => (.ok (), w.updateRun run)
  | .enqueue signal => (.ok (b.ticket w.queue signal), { w with queue := w.queue ++ [signal] })
  | .getSignal id => (.ok (w.signal id), w)
  | .listSignals query => (.ok (w.listSignals query), w)
  | .getSchedule id => (.ok (w.schedule id), w)
  | .upsertSchedule record => (.ok (), w.upsertSchedule record)
  | .recordFire id lastFireAt nextFireAt => (.ok (), w.recordFire id lastFireAt nextFireAt)
  | .refresh producer => (b.refreshed producer, w)
  | .now => (.ok b.clock, w)
  | .rewrite change => (.ok (), change w)

/-- Run a handler against the in-memory runtime. -/
def serveEvents (b : EventsBackend) (p : EventsHandler α) (w : EventsWorld) :
    Except Exn α × EventsWorld := p.exec (eventsServer b) w

section Serve
variable {b : EventsBackend} {w : EventsWorld}

@[simp] theorem serveEvents_pure (value : α) : serveEvents b (pure value) w = (.ok value, w) := rfl
@[simp] theorem serveEvents_raise (error : Exn) :
    serveEvents b (Events.raise error : EventsHandler α) w = (.error error, w) := rfl

theorem serveEvents_await (c : EventsCall) : serveEvents b (Events.await c) w = eventsServer b c w :=
  Prog.exec_await ..

theorem serveEvents_bind_ok {p : EventsHandler α} {f : α → EventsHandler β} {v : EventsWorld}
    {value : α} (first : serveEvents b p w = (.ok value, v)) :
    serveEvents b (p >>= f) w = serveEvents b (f value) v := Prog.exec_bind_ok first

theorem serveEvents_bind_error {p : EventsHandler α} {f : α → EventsHandler β} {v : EventsWorld}
    {error : Exn} (first : serveEvents b p w = (.error error, v)) :
    serveEvents b (p >>= f) w = (.error error, v) := Prog.exec_bind_error first

end Serve
end OrchidApi
