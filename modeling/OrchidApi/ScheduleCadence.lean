import OrchidApi.SchedulePatch

/-! A schedule runs by cron or by interval, never by both and never by neither: what requests
of `PATCH /schedules/{id}`, one after another, do to that. -/
namespace OrchidApi
open Text Async

/-- Exactly one of a non-empty cron and an interval is set. -/
def ScheduleRecord.OneCadence (record : ScheduleRecord) : Prop :=
  Xor (∃ cron ∈ record.cron, cron ≠ []) (record.intervalSeconds.isSome = true)

/-- The body asks for no cadence, for an interval, for a non-empty cron, or, when an interval
comes with it, for the empty cron. -/
def SchedulePatchBody.OneCadence (body : SchedulePatchBody) : Prop :=
  ∀ cron ∈ body.cron, (cron = [] ↔ body.intervalSeconds.isSome = true)

/-- The parts of a record that no patch may set. -/
def ScheduleRecord.fixed (record : ScheduleRecord) : ScheduleRecord :=
  { record with cron := none, intervalSeconds := none, enabled := true }

theorem patch_fixed (body : SchedulePatchBody) (record : ScheduleRecord) :
    (body.patch record).fixed = record.fixed := rfl

/-- Whatever cadence the record had, the patched one has one cadence just when the body asks so. -/
theorem patch_oneCadence_iff (body : SchedulePatchBody) {record : ScheduleRecord}
    (one : record.OneCadence) : (body.patch record).OneCadence ↔ body.OneCadence := by
  obtain ⟨enabled, cron, interval⟩ := body
  cases cron with
  | none => cases interval <;> simp_all [SchedulePatchBody.patch, ScheduleRecord.OneCadence,
      SchedulePatchBody.OneCadence, Xor]
  | some cron => cases interval <;> simp [SchedulePatchBody.patch, ScheduleRecord.OneCadence,
      SchedulePatchBody.OneCadence, Xor]

/-! ## One request -/

/-- A request, and what lies outside the stores while it is handled. -/
structure SchedulePatchRequest where
  backend : EventsBackend := {}
  producers : List Nat := []
  scheduleId : Str
  body : SchedulePatchBody
  auth : AuthContext

def SchedulePatchRequest.handle (request : SchedulePatchRequest) (w : EventsWorld) : EventsWorld :=
  (serveEvents request.backend (patchSchedule request.producers request.scheduleId request.body
    request.auth) w).2

/-- Refreshing the producers leaves the stores alone. -/
theorem refreshes_keep (b : EventsBackend) (producers : List Nat) (w : EventsWorld) :
    (serveEvents b (Prog.each refreshProducer producers) w).2 = w := by
  refine @Prog.exec_keeps EventsApi _ IsRefresh _ _ _ (fun final => final = w)
    (Prog.uses_each fun producer _ => uses_refreshProducer producer) ?_ w rfl
  rintro c s ⟨producer, rfl⟩ rfl
  rfl

theorem handle_eq (request : SchedulePatchRequest) (w : EventsWorld) :
    request.handle w = match request.auth.isAdmin, w.schedule request.scheduleId with
      | true, some record => w.upsertSchedule (request.body.patch record)
      | _, _ => w := by
  rw [SchedulePatchRequest.handle, patchSchedule]
  cases admin : request.auth.isAdmin with
  | false => rfl
  | true =>
    rw [if_neg (by simp)]
    refine (congrArg Prod.snd (serveEvents_bind_ok (serveEvents_await
      (.getSchedule request.scheduleId)))).trans ?_
    cases w.schedule request.scheduleId with
    | none => rfl
    | some record =>
      refine (congrArg Prod.snd (serveEvents_bind_ok (serveEvents_await (.upsertSchedule
        (request.body.patch record))))).trans ?_
      have kept := refreshes_keep request.backend request.producers
        (w.upsertSchedule (request.body.patch record))
      cases refreshed : serveEvents request.backend (Prog.each refreshProducer request.producers)
          (w.upsertSchedule (request.body.patch record)) with
      | mk outcome final =>
        rw [refreshed] at kept
        obtain rfl := kept
        cases outcome with
        | ok value => exact congrArg Prod.snd (serveEvents_bind_ok refreshed)
        | error error => exact congrArg Prod.snd (serveEvents_bind_error refreshed)

/-- The request changes the record of its id, if there is one and the caller is an admin. -/
theorem handle_schedule (request : SchedulePatchRequest) (w : EventsWorld) (id : Str) :
    (request.handle w).schedule id = (w.schedule id).map fun record =>
      if request.auth.isAdmin = true ∧ id = request.scheduleId then request.body.patch record
      else record := by
  rw [handle_eq]
  cases admin : request.auth.isAdmin with
  | false => simp
  | true =>
    cases found : w.schedule request.scheduleId with
    | none =>
      by_cases here : id = request.scheduleId
      · simp [here, found]
      · simp [here]
    | some record =>
      have named : (request.body.patch record).scheduleId = request.scheduleId :=
        (rfl : _ = record.scheduleId).trans (EventsWorld.schedule_id found)
      dsimp only
      rw [EventsWorld.schedule_upsert, named]
      by_cases here : id = request.scheduleId
      · simp [here, found]
      · simp [here]

/-! ## Any number of requests -/

def patchAll (requests : List SchedulePatchRequest) (w : EventsWorld) : EventsWorld :=
  requests.foldl (fun store request => request.handle store) w

/-- Every record has one cadence, and but for that and `enabled` is the original one. -/
structure CadenceKept (original w : EventsWorld) : Prop where
  cadence : ∀ id, ∀ record ∈ w.schedule id, record.OneCadence
  fixed : ∀ id, (w.schedule id).map ScheduleRecord.fixed =
    (original.schedule id).map ScheduleRecord.fixed

/-- The request writes no record, or asks for one cadence. -/
def SchedulePatchRequest.Sound (request : SchedulePatchRequest) (original : EventsWorld) : Prop :=
  request.auth.isAdmin = true → (original.schedule request.scheduleId).isSome = true →
    request.body.OneCadence

theorem handle_fixed (request : SchedulePatchRequest) (w : EventsWorld) (id : Str) :
    ((request.handle w).schedule id).map ScheduleRecord.fixed =
      (w.schedule id).map ScheduleRecord.fixed := by
  rw [handle_schedule, Option.map_map]
  congr 1
  funext record
  dsimp only [Function.comp]
  split
  · exact patch_fixed request.body record
  · rfl

/-- Which records there are is the same from the first request to the last. -/
theorem present_of_fixed {w original : EventsWorld} {id : Str}
    (fixed : (w.schedule id).map ScheduleRecord.fixed =
      (original.schedule id).map ScheduleRecord.fixed) :
    (w.schedule id).isSome = (original.schedule id).isSome := by
  simpa using congrArg Option.isSome fixed

theorem handle_kept_iff {original w : EventsWorld} (kept : CadenceKept original w)
    (request : SchedulePatchRequest) :
    CadenceKept original (request.handle w) ↔ request.Sound original := by
  have present := present_of_fixed (kept.fixed request.scheduleId)
  constructor
  · intro after admin known
    obtain ⟨record, found⟩ := Option.isSome_iff_exists.mp (present.trans known)
    refine (patch_oneCadence_iff request.body (kept.cadence _ record found)).mp
      (after.cadence request.scheduleId _ ?_)
    simp [handle_schedule, found, admin]
  · intro sound
    refine ⟨fun id patched stored => ?_, fun id => (handle_fixed request w id).trans (kept.fixed id)⟩
    rw [handle_schedule] at stored
    obtain ⟨record, found, rfl⟩ := Option.map_eq_some_iff.mp stored
    split
    · rename_i writes
      obtain ⟨admin, rfl⟩ := writes
      exact (patch_oneCadence_iff request.body (kept.cadence _ record found)).mpr
        (sound admin (present.symm.trans (Option.isSome_iff_exists.mpr ⟨record, found⟩)))
    · exact kept.cadence id record found

/-- After every one of the requests each record has one cadence, exactly when every request
that writes a record asks for one. -/
theorem cadence_kept_iff {original : EventsWorld}
    (initial : ∀ id, ∀ record ∈ original.schedule id, record.OneCadence)
    (requests : List SchedulePatchRequest) :
    (∀ before after, requests = before ++ after → CadenceKept original (patchAll before original)) ↔
      ∀ request ∈ requests, request.Sound original := by
  induction requests using List.reverseRecOn with
  | nil =>
    refine iff_of_true (fun before after split => ?_) (by simp)
    obtain ⟨rfl, rfl⟩ := List.append_eq_nil_iff.mp split.symm
    exact ⟨initial, fun id => rfl⟩
  | append_singleton requests request ih =>
    have step : patchAll (requests ++ [request]) original =
        request.handle (patchAll requests original) := by simp [patchAll]
    constructor
    · intro holds
      have earlier : ∀ r ∈ requests, r.Sound original := ih.mp fun before after split =>
        holds before (after ++ [request]) (by simp [split])
      have last := (handle_kept_iff (holds requests [request] rfl) request).mp
        (step ▸ holds (requests ++ [request]) [] (by simp))
      intro r member
      rcases List.mem_append.mp member with old | new
      · exact earlier r old
      · rw [List.mem_singleton.mp new]
        exact last
    · intro sound before after split
      have earlier := ih.mpr fun r member => sound r (List.mem_append_left _ member)
      rcases List.eq_nil_or_concat' after with rfl | ⟨after, final, rfl⟩
      · rw [List.append_nil] at split
        rw [← split, step]
        exact (handle_kept_iff (earlier requests [] (by simp)) request).mpr
          (sound request (by simp))
      · rw [← List.append_assoc] at split
        obtain ⟨same, _⟩ := List.append_inj' split rfl
        exact earlier before after same

/-! An operator changes the nightly schedule to an hourly interval and back. -/

def patchNightly (body : SchedulePatchBody) : SchedulePatchRequest :=
  { scheduleId := "s-1".toList, body, auth := operator }

theorem nightly_oneCadence : ∀ id, ∀ record ∈ EventsWorld.schedule { schedules := [nightly] } id,
    record.OneCadence := by
  intro id record found
  obtain rfl := List.mem_singleton.mp (List.mem_of_find?_eq_some found)
  exact .inl ⟨⟨_, rfl, by decide⟩, by decide⟩

theorem cadence_kept_hourly :
    (∀ before after, [patchNightly { intervalSeconds := some 3600 },
        patchNightly { cron := some "0 2 * * *".toList, enabled := some false }] = before ++ after →
      CadenceKept { schedules := [nightly] } (patchAll before { schedules := [nightly] })) ↔
      ∀ request ∈ [patchNightly { intervalSeconds := some 3600 },
        patchNightly { cron := some "0 2 * * *".toList, enabled := some false }],
        request.Sound { schedules := [nightly] } :=
  cadence_kept_iff nightly_oneCadence _

/-- One accepted body sets both. -/
theorem both_cadences :
    (∀ id, ∀ record ∈ EventsWorld.schedule { schedules := [nightly] } id, record.OneCadence) ∧
      (patchAll [patchNightly { cron := some "0 3 * * *".toList, intervalSeconds := some 3600 }]
        { schedules := [nightly] }).schedule "s-1".toList =
          some { nightly with cron := some "0 3 * * *".toList, intervalSeconds := some 3600 } ∧
      ¬CadenceKept { schedules := [nightly] }
        (patchAll [patchNightly { cron := some "0 3 * * *".toList, intervalSeconds := some 3600 }]
          { schedules := [nightly] }) := by
  refine ⟨nightly_oneCadence, rfl, fun kept => ?_⟩
  rcases kept.cadence "s-1".toList _ rfl with ⟨_, single⟩ | ⟨_, single⟩
  · exact single rfl
  · exact single ⟨_, rfl, by decide⟩

end OrchidApi
