import OrchidApi.AsyncPool
import OrchidApi.RunRoutes

/-! `PATCH /schedules/{id}` of `routers/schedules.py`, any number of requests interleaved at
their awaits with the scheduler's own writes. -/
namespace OrchidApi
open Text Async

/-! ## The endpoint -/

/-- `_SchedulePatchBody` -/
structure SchedulePatchBody where
  enabled : Option Bool := none
  cron : Option Str := none
  intervalSeconds : Option Nat := none

/-- Setting one cadence clears the other, unless both are set. -/
def SchedulePatchBody.patch (body : SchedulePatchBody) (record : ScheduleRecord) : ScheduleRecord :=
  let newCron := body.cron.or record.cron
  let newInterval := body.intervalSeconds.or record.intervalSeconds
  { record with
    cron := if body.intervalSeconds.isSome ∧ body.cron.isNone then none else newCron
    intervalSeconds := if body.cron.isSome ∧ body.intervalSeconds.isNone then none else newInterval
    enabled := body.enabled.getD record.enabled }

/-- `_to_dict` -/
def scheduleToDict (record : ScheduleRecord) : Json.Dict :=
  [("schedule_id".toList, .str record.scheduleId), ("trigger_id".toList, .str record.triggerId),
    ("cron".toList, optionalText record.cron),
    ("interval_seconds".toList, match record.intervalSeconds with
      | some seconds => .num seconds
      | none => .null),
    ("identity_claim".toList, .obj record.identityClaim),
    ("last_fire_at".toList, optionalText record.lastFireAt),
    ("next_fire_at".toList, optionalText record.nextFireAt), ("enabled".toList, .bool record.enabled)]

/-- A producer that fails to refresh is only logged. -/
def refreshProducer (producer : Nat) : EventsHandler Unit :=
  (Events.refresh producer).attempt fun
    | .ok _ => pure ()
    | .error error => if error.isException then pure () else Events.raise error

/-- The rest of the handler, once the record is there. -/
def writePatch (producers : List Nat) (body : SchedulePatchBody) (record : ScheduleRecord) :
    EventsHandler Json.Dict := do
  Events.upsertSchedule (body.patch record)
  Prog.each refreshProducer producers
  pure (scheduleToDict (body.patch record))

def patchSchedule (producers : List Nat) (scheduleId : Str) (body : SchedulePatchBody)
    (auth : AuthContext) : EventsHandler Json.Dict :=
  if auth.isAdmin = false then Events.raise adminNotFound
  else do
    match ← Events.getSchedule scheduleId with
    | none => Events.raise adminNotFound
    | some record => writePatch producers body record

/-! ## Updates one after the other -/

/-- What an accepted request or the scheduler asks of the record. -/
inductive ScheduleUpdate where
  | patch (body : SchedulePatchBody)
  | fire (lastFireAt nextFireAt : Option Str)

def ScheduleUpdate.apply (record : ScheduleRecord) : ScheduleUpdate → ScheduleRecord
  | .patch body => body.patch record
  | .fire lastFireAt nextFireAt => { record with lastFireAt, nextFireAt }

def replay (initial : ScheduleRecord) (updates : List ScheduleUpdate) : ScheduleRecord :=
  updates.foldl ScheduleUpdate.apply initial

/-- The parts of a record that an update may set. -/
def ScheduleUpdate.enabled? : ScheduleUpdate → Option Bool
  | .patch body => body.enabled
  | .fire _ _ => none

def ScheduleUpdate.cadence? : ScheduleUpdate → Option (Option Str × Option Nat)
  | .patch body =>
    if body.cron.isSome ∨ body.intervalSeconds.isSome then some (body.cron, body.intervalSeconds)
    else none
  | .fire _ _ => none

def ScheduleUpdate.fires? : ScheduleUpdate → Option (Option Str × Option Str)
  | .patch _ => none
  | .fire lastFireAt nextFireAt => some (lastFireAt, nextFireAt)

/-- Each part of the record has the value of the last update that set it. -/
structure CarriesAll (initial : ScheduleRecord) (updates : List ScheduleUpdate)
    (record : ScheduleRecord) : Prop where
  enabled : record.enabled =
    (updates.filterMap ScheduleUpdate.enabled?).getLast?.getD initial.enabled
  cadence : (record.cron, record.intervalSeconds) =
    (updates.filterMap ScheduleUpdate.cadence?).getLast?.getD (initial.cron, initial.intervalSeconds)
  fires : (record.lastFireAt, record.nextFireAt) =
    (updates.filterMap ScheduleUpdate.fires?).getLast?.getD (initial.lastFireAt, initial.nextFireAt)
  rest : record.scheduleId = initial.scheduleId ∧ record.triggerId = initial.triggerId ∧
    record.identityClaim = initial.identityClaim

section Replay
variable {initial record : ScheduleRecord} {updates : List ScheduleUpdate}

theorem patch_cadence (body : SchedulePatchBody) (record : ScheduleRecord) :
    ((body.patch record).cron, (body.patch record).intervalSeconds) =
      ((ScheduleUpdate.patch body).cadence?).getD (record.cron, record.intervalSeconds) := by
  obtain ⟨enabled, cron, interval⟩ := body
  cases cron <;> cases interval <;> rfl

/-- The last value set, when one more update follows. -/
theorem lastSet_concat {β : Type} (part : ScheduleUpdate → Option β) (updates : List ScheduleUpdate)
    (update : ScheduleUpdate) (first : β) :
    ((updates ++ [update]).filterMap part).getLast?.getD first =
      (part update).getD ((updates.filterMap part).getLast?.getD first) := by
  rw [List.filterMap_append]
  cases set : part update with
  | none => simp [set]
  | some value => simp [set]

theorem carriesAll_apply (carries : CarriesAll initial updates record) (update : ScheduleUpdate) :
    CarriesAll initial (updates ++ [update]) (update.apply record) := by
  obtain ⟨enabled, cadence, fires, rest⟩ := carries
  constructor
  · rw [lastSet_concat, ← enabled]
    cases update <;> rfl
  · rw [lastSet_concat, ← cadence]
    cases update with
    | patch body => exact patch_cadence body record
    | fire => rfl
  · rw [lastSet_concat, ← fires]
    cases update <;> rfl
  · cases update <;> exact rest

theorem carriesAll_replay (initial : ScheduleRecord) (updates : List ScheduleUpdate) :
    CarriesAll initial updates (replay initial updates) := by
  induction updates using List.reverseRecOn with
  | nil => exact ⟨rfl, rfl, rfl, rfl, rfl, rfl⟩
  | append_singleton updates update ih =>
    rw [replay, List.foldl_append]
    exact carriesAll_apply ih update

end Replay

/-! ## Interleavings -/

inductive ScheduleWorker where
  | patch (scheduleId : Str) (body : SchedulePatchBody) (auth : AuthContext)
  | fire (scheduleId : Str) (lastFireAt nextFireAt : Option Str)

def ScheduleWorker.work (producers : List Nat) : ScheduleWorker → EventsHandler (Option Json.Dict)
  | .patch scheduleId body auth => do
    let response ← patchSchedule producers scheduleId body auth
    pure (some response)
  | .fire scheduleId lastFireAt nextFireAt => do
    Events.recordFire scheduleId lastFireAt nextFireAt
    pure none

/-- The update that a worker's write stands for, under the id of its schedule. -/
def ScheduleWorker.writes : ScheduleWorker → EventsCall → List (Str × ScheduleUpdate)
  | .patch _ body _, .upsertSchedule record => [(record.scheduleId, .patch body)]
  | _, .recordFire id lastFireAt nextFireAt => [(id, .fire lastFireAt nextFireAt)]
  | _, _ => []

/-- The store, and the updates written to it so far. -/
structure ScheduleLedger where
  store : EventsWorld
  written : List (Str × ScheduleUpdate) := []

def ScheduleLedger.updates (w : ScheduleLedger) (id : Str) : List ScheduleUpdate :=
  (w.written.filter (·.1 = id)).map Prod.snd

/-- A request keeps the record that it fetched. -/
def fetchedSchedule (known : Option ScheduleRecord) :
    (c : EventsCall) → EventsApi.Answer c → Option ScheduleRecord
  | .getSchedule _, .ok found => found
  | _, _ => known

def scheduleSystem (producers : List Nat) :
    System EventsApi ScheduleWorker (Option ScheduleRecord) (Option Json.Dict) ScheduleLedger where
  start := ScheduleWorker.work producers
  fresh := none
  learn _ := fetchedSchedule
  serves worker w c answer w' := (∃ b, eventsServer b c w.store = (answer, w'.store)) ∧
    w'.written = w.written ++ worker.writes c

/-- A request writes back the record that it fetched, patched. -/
def WritesPatched (worker : ScheduleWorker) (known : Option ScheduleRecord) : EventsCall → Prop
  | .upsertSchedule record =>
    ∃ id body auth fetched, worker = .patch id body auth ∧ known = some fetched ∧
      record = body.patch fetched
  | .rewrite _ => False
  | _ => True

/-- The parts of the record that the body does not set are the same. -/
structure SchedulePatchBody.LeavesAlike (body : SchedulePatchBody) (fetched stored : ScheduleRecord) :
    Prop where
  scheduleId : fetched.scheduleId = stored.scheduleId
  triggerId : fetched.triggerId = stored.triggerId
  identityClaim : fetched.identityClaim = stored.identityClaim
  fires : fetched.lastFireAt = stored.lastFireAt ∧ fetched.nextFireAt = stored.nextFireAt
  enabled : body.enabled = none → fetched.enabled = stored.enabled
  cadence : body.cron = none → body.intervalSeconds = none →
    fetched.cron = stored.cron ∧ fetched.intervalSeconds = stored.intervalSeconds

/-- At its write, the request finds whatever it does not set as it has fetched it. -/
def Unmoved (w : ScheduleLedger) (worker : ScheduleWorker) (known : Option ScheduleRecord) :
    EventsCall → Prop
  | .upsertSchedule record => ∀ id body auth, worker = .patch id body auth →
      ∀ fetched ∈ known, ∀ stored ∈ w.store.schedule record.scheduleId, body.LeavesAlike fetched stored
  | _ => True

/-- This is just when patching the fetched record and the stored one comes to the same. -/
theorem leavesAlike_iff (body : SchedulePatchBody) (fetched stored : ScheduleRecord) :
    body.LeavesAlike fetched stored ↔ body.patch fetched = body.patch stored := by
  obtain ⟨enabled, cron, interval⟩ := body
  constructor
  · rintro ⟨scheduleId, triggerId, identityClaim, ⟨last, next⟩, enabledAlike, cadenceAlike⟩
    simp only [SchedulePatchBody.patch, ScheduleRecord.mk.injEq]
    refine ⟨scheduleId, triggerId, ?_, ?_, identityClaim, last, next, ?_⟩
    · cases cron <;> cases interval <;> simp_all
    · cases cron <;> cases interval <;> simp_all
    · cases enabled <;> simp_all
  · intro same
    simp only [SchedulePatchBody.patch, ScheduleRecord.mk.injEq] at same
    obtain ⟨scheduleId, triggerId, cronSame, intervalSame, identityClaim, last, next, enabledSame⟩ := same
    refine ⟨scheduleId, triggerId, identityClaim, ⟨last, next⟩, ?_, ?_⟩
    · rintro rfl
      exact enabledSame
    · rintro rfl rfl
      exact ⟨cronSame, intervalSame⟩

section Guarded
variable {producers : List Nat}

def IsRefresh (c : EventsCall) : Prop := ∃ producer, c = .refresh producer

theorem uses_refreshProducer (producer : Nat) : (refreshProducer producer).Uses IsRefresh := by
  refine Prog.uses_attempt (Prog.uses_await ⟨producer, rfl⟩) fun outcome => ?_
  cases outcome with
  | ok value => exact trivial
  | error error =>
    change (if error.isException then pure () else Events.raise error : EventsHandler Unit).Uses _
    split <;> exact trivial

theorem guarded_writePatch (id : Str) (body : SchedulePatchBody) (auth : AuthContext)
    (record : ScheduleRecord) :
    (writePatch producers body record).Guarded (WritesPatched (.patch id body auth)) fetchedSchedule
      (fun _ _ => True) (some record) := by
  refine ⟨⟨id, body, auth, record, rfl, rfl, rfl⟩, fun written => ?_⟩
  rcases written with error | written
  · exact trivial
  · have refreshes : (Prog.each refreshProducer producers).Uses IsRefresh :=
      Prog.uses_each fun producer _ => uses_refreshProducer producer
    refine Prog.guarded_of_uses (Prog.uses_bind refreshes fun _ => trivial) ?_ ?_ fun _ => trivial
    · rintro c ⟨producer, rfl⟩
      exact trivial
    · rintro c answer ⟨producer, rfl⟩
      rfl

theorem guarded_patchSchedule (id : Str) (body : SchedulePatchBody) (auth : AuthContext) :
    (patchSchedule producers id body auth).Guarded (WritesPatched (.patch id body auth))
      fetchedSchedule (fun _ _ => True) none := by
  rw [patchSchedule]
  split
  · exact trivial
  · refine ⟨trivial, fun found => ?_⟩
    rcases found with error | _ | record
    · exact trivial
    · exact trivial
    · exact guarded_writePatch id body auth record

theorem guarded_scheduleWork (worker : ScheduleWorker) :
    (worker.work producers).Guarded (WritesPatched worker) fetchedSchedule (fun _ _ => True) none := by
  cases worker with
  | patch id body auth =>
    exact Prog.guarded_bind (guarded_patchSchedule id body auth) (fun _ _ _ => trivial)
      fun _ _ _ => trivial
  | fire id lastFireAt nextFireAt =>
    refine ⟨trivial, fun written => ?_⟩
    rcases written with error | written <;> exact trivial

theorem schedule_discipline (producers : List Nat) :
    Discipline (scheduleSystem producers) WritesPatched (fun _ _ _ => True) (fun _ => True)
      (fun _ _ _ => True) where
  starts := guarded_scheduleWork
  means_fresh _ _ := trivial
  keeps _ _ _ _ := trivial
  stable _ _ _ _ _ _ _ := trivial
  learns _ _ _ _ := trivial

end Guarded

/-! ## No update is lost -/

namespace EventsWorld

theorem schedule_id {w : EventsWorld} {id : Str} {record : ScheduleRecord}
    (found : w.schedule id = some record) : record.scheduleId = id := by
  simpa using List.find?_some found

theorem schedule_upsert (w : EventsWorld) (record : ScheduleRecord) (id : Str) :
    (w.upsertSchedule record).schedule id =
      if id = record.scheduleId then some record else w.schedule id := by
  by_cases present : w.schedules.any (·.scheduleId = record.scheduleId) = true
  · have mapped : (w.upsertSchedule record).schedule id = (w.schedule id).map fun row =>
        if row.scheduleId = record.scheduleId then record else row := by
      simp only [upsertSchedule, present, ↓reduceIte, schedule]
      refine find?_map_key ScheduleRecord.scheduleId (fun row => ?_) w.schedules id
      split
      · rename_i same
        exact same.symm
      · rfl
    rw [mapped]
    cases found : w.schedule id with
    | none =>
      have missing : id ≠ record.scheduleId := by
        rintro rfl
        obtain ⟨row, member, same⟩ := List.any_eq_true.mp present
        exact List.find?_eq_none.mp found row member same
      rw [if_neg missing]
      rfl
    | some row =>
      rw [← schedule_id found]
      by_cases same : row.scheduleId = record.scheduleId <;> simp [same]
  · simp only [upsertSchedule, present, Bool.false_eq_true, ↓reduceIte, schedule, List.find?_append]
    by_cases same : id = record.scheduleId
    · subst same
      have missing : (w.schedules.find? fun row => row.scheduleId = record.scheduleId) = none := by
        rw [List.find?_eq_none]
        intro row member found
        exact present (List.any_eq_true.mpr ⟨row, member, found⟩)
      simp [missing]
    · simp [same, Ne.symm same]

theorem schedule_recordFire (w : EventsWorld) (id other : Str) (lastFireAt nextFireAt : Option Str) :
    (w.recordFire id lastFireAt nextFireAt).schedule other =
      (w.schedule other).map fun record =>
        if other = id then { record with lastFireAt, nextFireAt } else record := by
  have mapped : (w.recordFire id lastFireAt nextFireAt).schedule other =
      (w.schedule other).map fun row =>
        if row.scheduleId = id then { row with lastFireAt, nextFireAt } else row := by
    refine find?_map_key ScheduleRecord.scheduleId (fun row => ?_) w.schedules other
    split <;> rfl
  rw [mapped]
  cases found : w.schedule other with
  | none => rfl
  | some row => rw [Option.map_some, Option.map_some, schedule_id found]

end EventsWorld

abbrev SchedulePool : Type :=
  Pool EventsApi ScheduleWorker (Option ScheduleRecord) (Option Json.Dict) ScheduleLedger

/-- Requests about to write hold the record that they will patch. -/
abbrev SchedulesInOrder (producers : List Nat) (pool : SchedulePool) : Prop :=
  InOrder (scheduleSystem producers) WritesPatched (fun _ _ _ => True) (fun _ => True)
    (fun _ _ _ => True) pool

/-- The stored record is what the updates written so far make of the first one. -/
def ScheduleLedger.Replayed (id : Str) (initial : ScheduleRecord) (w : ScheduleLedger) : Prop :=
  w.store.schedule id = some (replay initial (w.updates id))

section Write
variable {id : Str} {initial : ScheduleRecord} {w w' : ScheduleLedger}

theorem replayed_same (schedules : w'.store.schedules = w.store.schedules)
    (ledger : w'.written = w.written) (replayed : w.Replayed id initial) : w'.Replayed id initial := by
  rw [ScheduleLedger.Replayed, EventsWorld.schedule, ScheduleLedger.updates, schedules, ledger]
  exact replayed

/-- One more update, under the id of the record or another's. -/
theorem updates_concat {other : Str} {update : ScheduleUpdate}
    (ledger : w'.written = w.written ++ [(other, update)]) :
    w'.updates id = if id = other then w.updates id ++ [update] else w.updates id := by
  rw [ScheduleLedger.updates, ledger, List.filter_append, List.map_append]
  by_cases here : id = other
  · simp [here, ScheduleLedger.updates]
  · simp [here, Ne.symm here, ScheduleLedger.updates]

theorem replay_concat (initial : ScheduleRecord) (updates : List ScheduleUpdate)
    (update : ScheduleUpdate) :
    replay initial (updates ++ [update]) = update.apply (replay initial updates) := by
  rw [replay, List.foldl_append]
  rfl

/-- A patch of the fetched record is a patch of the stored one. -/
theorem replayed_upsert {body : SchedulePatchBody} {fetched : ScheduleRecord}
    (stored : w'.store = w.store.upsertSchedule (body.patch fetched))
    (ledger : w'.written = w.written ++ [(fetched.scheduleId, .patch body)])
    (alike : ∀ record ∈ w.store.schedule fetched.scheduleId, body.LeavesAlike fetched record)
    (replayed : w.Replayed id initial) : w'.Replayed id initial := by
  have same : (body.patch fetched).scheduleId = fetched.scheduleId := rfl
  rw [ScheduleLedger.Replayed, stored, EventsWorld.schedule_upsert, updates_concat ledger, same]
  by_cases here : id = fetched.scheduleId
  · subst here
    rw [if_pos rfl, if_pos rfl, replay_concat]
    exact congrArg some ((leavesAlike_iff body fetched _).mp (alike _ replayed))
  · rw [if_neg here, if_neg here]
    exact replayed

theorem replayed_fire {fired : Str} {lastFireAt nextFireAt : Option Str}
    (stored : w'.store = w.store.recordFire fired lastFireAt nextFireAt)
    (ledger : w'.written = w.written ++ [(fired, .fire lastFireAt nextFireAt)])
    (replayed : w.Replayed id initial) : w'.Replayed id initial := by
  rw [ScheduleLedger.Replayed] at replayed ⊢
  rw [stored, EventsWorld.schedule_recordFire, updates_concat ledger, replayed, Option.map_some]
  by_cases here : id = fired
  · rw [if_pos here, if_pos here, replay_concat]
    rfl
  · rw [if_neg here, if_neg here]

theorem replayed_served {producers : List Nat} {worker : ScheduleWorker}
    {known : Option ScheduleRecord} {c : EventsCall} {answer : EventsApi.Answer c}
    (allowed : WritesPatched worker known c) (fits : Unmoved w worker known c)
    (served : (scheduleSystem producers).serves worker w c answer w')
    (replayed : w.Replayed id initial) : w'.Replayed id initial := by
  obtain ⟨⟨b, served⟩, ledger⟩ := served
  have stored : w'.store = (eventsServer b c w.store).2 := (congrArg Prod.snd served).symm
  cases c with
  | upsertSchedule record =>
    obtain ⟨requested, body, auth, fetched, rfl, rfl, rfl⟩ := allowed
    exact replayed_upsert stored ledger (fits requested body auth rfl fetched rfl) replayed
  | recordFire fired lastFireAt nextFireAt =>
    have written : worker.writes (.recordFire fired lastFireAt nextFireAt) =
        [(fired, .fire lastFireAt nextFireAt)] := by cases worker <;> rfl
    exact replayed_fire stored (written ▸ ledger) replayed
  | rewrite change => exact allowed.elim
  | _ =>
    refine replayed_same ?_ ?_ replayed
    · rw [stored]
      rfl
    · cases worker <;> exact ledger.trans (List.append_nil _)

end Write

section Run
variable {producers : List Nat} {pool pool' : SchedulePool} {id : Str} {initial : ScheduleRecord}

theorem replayed_step (order : SchedulesInOrder producers pool)
    (step : StepWhen (scheduleSystem producers) Unmoved pool pool')
    (replayed : pool.world.Replayed id initial) : pool'.world.Replayed id initial := by
  cases step with
  | spawn pool owner => exact replayed
  | advance served fits =>
    obtain ⟨_, allowed, _⟩ := order.moving
    exact replayed_served allowed fits served replayed

/-- In every run in which a request finds what it does not set as it has fetched it, no update
is lost: each part of the record has the value that was last written to it. -/
theorem no_update_lost {w : EventsWorld} (found : w.schedule id = some initial)
    (run : ReachesWhen (scheduleSystem producers) Unmoved ⟨⟨w, []⟩, []⟩ pool) :
    ∃ record, pool.world.store.schedule id = some record ∧
      CarriesAll initial (pool.world.updates id) record := by
  have start : SchedulesInOrder producers ⟨⟨w, []⟩, []⟩ :=
    ⟨trivial, fun task none => absurd none List.not_mem_nil⟩
  have replayed := (ReachesWhen.keeps (fun world => world.Replayed id initial)
    (fun order step => inOrder_step (schedule_discipline producers) order step.step)
    replayed_step start run found).2
  exact ⟨_, replayed, carriesAll_replay initial (pool.world.updates id)⟩

end Run

/-! One request disables the schedule while another changes its cadence, and it fires. -/

def nightly : ScheduleRecord :=
  { scheduleId := "s-1".toList, triggerId := "t1".toList, cron := some "0 2 * * *".toList }

def operator : AuthContext :=
  { tenantKey := "t-1".toList, userId := "u-1".toList, roles := ["admin".toList] }

def scheduleWorkers : List ScheduleWorker := [
  .patch "s-1".toList { enabled := some false } operator,
  .patch "s-1".toList { intervalSeconds := some 60 } operator,
  .fire "s-1".toList (some "2026-01-01T02:00:00+00:00".toList) (some "2026-01-02T02:00:00+00:00".toList)]

def ledgerServer (worker : ScheduleWorker) : Server EventsApi ScheduleLedger := fun c w =>
  ((eventsServer {} c w.store).1, ⟨(eventsServer {} c w.store).2, w.written ++ worker.writes c⟩)

theorem ledgerServer_serves (worker : ScheduleWorker) (w : ScheduleLedger) (c : EventsCall) :
    (scheduleSystem []).serves worker w c (ledgerServer worker c w).1 (ledgerServer worker c w).2 :=
  ⟨⟨{}, rfl⟩, rfl⟩

def patches (workers : List ScheduleWorker) (schedule : List Nat) : SchedulePool :=
  Pool.turns (scheduleSystem []) ledgerServer ⟨{ schedules := [nightly] }, []⟩ workers schedule

def disabling : ScheduleWorker := .patch "s-1".toList { enabled := some false } operator

theorem disabled_run :
    ReachesWhen (scheduleSystem []) Unmoved ⟨⟨{ schedules := [nightly] }, []⟩, []⟩
      (patches [disabling] [0, 0]) := by
  have read := ledgerServer_serves disabling ⟨{ schedules := [nightly] }, []⟩
    (.getSchedule "s-1".toList)
  have written := ledgerServer_serves disabling ⟨{ schedules := [nightly] }, []⟩
    (.upsertSchedule { nightly with enabled := false })
  have alike : Unmoved ⟨{ schedules := [nightly] }, []⟩ disabling (some nightly)
      (.upsertSchedule { nightly with enabled := false }) := by
    intro _ body _ _ fetched known stored present
    obtain rfl : nightly = fetched := Option.some.inj known
    obtain rfl : nightly = stored := Option.some.inj present
    exact ⟨rfl, rfl, rfl, ⟨rfl, rfl⟩, fun _ => rfl, fun _ _ => ⟨rfl, rfl⟩⟩
  refine .tail (.tail (.single (.spawn _ disabling)) (@StepWhen.advance EventsApi ScheduleWorker
    (Option ScheduleRecord) (Option Json.Dict) _ (scheduleSystem []) Unmoved _ _ [] [] disabling
    (.getSchedule "s-1".toList) _ none _ read trivial)) ?_
  exact @StepWhen.advance EventsApi ScheduleWorker (Option ScheduleRecord) (Option Json.Dict) _
    (scheduleSystem []) Unmoved _ _ [] [] disabling
    (.upsertSchedule { nightly with enabled := false }) _ (some nightly) _ written alike

theorem no_update_lost_disabled :
    ∃ record, (patches [disabling] [0, 0]).world.store.schedule "s-1".toList = some record ∧
      CarriesAll nightly [.patch { enabled := some false }] record :=
  no_update_lost rfl disabled_run

/-- Both requests are accepted, yet the schedule is still enabled and has never fired. -/
theorem updates_lost :
    Reaches (scheduleSystem []) ⟨⟨{ schedules := [nightly] }, []⟩, []⟩ (patches scheduleWorkers [0, 1, 0, 2, 1]) ∧
      (patches scheduleWorkers [0, 1, 0, 2, 1]).world.store.schedule "s-1".toList =
        some { nightly with cron := none, intervalSeconds := some 60 } ∧
      (patches scheduleWorkers [0, 1, 0, 2, 1]).tasks.map Task.outcome = [
        some (.ok (some (scheduleToDict { nightly with enabled := false }))),
        some (.ok (some (scheduleToDict { nightly with cron := none, intervalSeconds := some 60 }))),
        some (.ok none)] ∧
      ¬∃ record, (patches scheduleWorkers [0, 1, 0, 2, 1]).world.store.schedule "s-1".toList = some record ∧
        CarriesAll nightly ((patches scheduleWorkers [0, 1, 0, 2, 1]).world.updates "s-1".toList) record := by
  refine ⟨reaches_turns ledgerServer_serves _ scheduleWorkers _, rfl, rfl, ?_⟩
  rintro ⟨record, stored, carries⟩
  obtain rfl := Option.some.inj stored
  exact absurd carries.enabled (by decide)

end OrchidApi
