import OrchidApi.EventsRouters

/-! Every request keeps to what it may do: it writes once at most, only what it has read
allows, and it answers with nothing else. -/
namespace OrchidApi
open Text Async

section Mono
variable {d : EventsDeployment} {auth : AuthContext} {told wider : Told EventsApi}

theorem ShowsRun.mono (widens : ∀ c value, told c value → wider c value) {runId : Str} {row : JobRun}
    (shows : ShowsRun d auth told runId row) : ShowsRun d auth wider runId row := by
  obtain ⟨rid, parsed, stored, visible⟩ := shows
  exact ⟨rid, parsed, widens _ _ stored, visible⟩

theorem ShowsSignal.mono (widens : ∀ c value, told c value → wider c value) {signalId : Str}
    {signal : Signal} (shows : ShowsSignal auth told signalId signal) :
    ShowsSignal auth wider signalId signal := by
  obtain ⟨sid, parsed, stored, tenant⟩ := shows
  exact ⟨sid, parsed, widens _ _ stored, tenant⟩

theorem ShowsSchedule.mono (widens : ∀ c value, told c value → wider c value) {scheduleId : Str}
    {record : ScheduleRecord} (shows : ShowsSchedule auth told scheduleId record) :
    ShowsSchedule auth wider scheduleId record :=
  ⟨shows.1, widens _ _ shows.2⟩

theorem EventsRequest.Permits.mono (widens : ∀ c value, told c value → wider c value)
    {request : EventsRequest} {c : EventsCall} (permits : request.Permits d auth told c) :
    request.Permits d auth wider c := by
  cases permits with
  | cancel now shows active => exact .cancel now (shows.mono widens) active
  | retry shows => exact .retry (shows.mono widens)
  | replay admin shows => exact .replay admin (shows.mono widens)
  | patch body shows => exact .patch body (shows.mono widens)
  | refresh shows patched known => exact .refresh (shows.mono widens) (widens _ _ patched) known

theorem RunEndpoint.Tells.mono (widens : ∀ c value, told c value → wider c value) {row : JobRun}
    {endpoint : RunEndpoint} {response : RunResponse} (tells : endpoint.Tells told row response) :
    endpoint.Tells wider row response := by
  cases tells with
  | get => exact .get
  | stream => exact .stream
  | ended ended => exact .ended ended
  | cancelled made => exact .cancelled (widens _ _ made)
  | retried made => exact .retried (widens _ _ made)

theorem ShownFor.mono (widens : ∀ c value, told c value → wider c value) {signalId : Str}
    {signal : Signal} (shown : ShownFor d auth told signalId signal) :
    ShownFor d auth wider signalId signal := by
  rcases shown with admin | named | ⟨rows, listed, found⟩
  · exact .inl admin
  · exact .inr (.inl named)
  · exact .inr (.inr ⟨rows, widens _ _ listed, found⟩)

theorem EventsRequest.Tells.mono (widens : ∀ c value, told c value → wider c value)
    {request : EventsRequest} {reply : EventsReply} (tells : request.Tells d auth told reply) :
    request.Tells d auth wider reply := by
  cases tells with
  | run shows tells => exact .run (shows.mono widens) (tells.mono widens)
  | runs listed => exact .runs (widens _ _ listed)
  | triggerRuns listed => exact .triggerRuns (widens _ _ listed)
  | signals admin listed => exact .signals admin (widens _ _ listed)
  | signal shows shown => exact .signal (shows.mono widens) (shown.mono widens)
  | replayed admin shows made => exact .replayed admin (shows.mono widens) (widens _ _ made)
  | schedule shows => exact .schedule (shows.mono widens)
  | patched shows made => exact .patched (shows.mono widens) (widens _ _ made)

end Mono

/-! ## Programs -/

/-- Nothing has been written yet. -/
def Unwritten (heard : Heard EventsApi) : Prop := ∀ entry ∈ heard, (EventsCall.writes entry.1).isSome = false

abbrev EventsParty (d : EventsDeployment) : Type :=
  ServiceParty (eventsService d).access EventsCall EventsRuntime

section Programs
variable {d : EventsDeployment} {auth : AuthContext} {party : EventsParty d} {env : EventsRuntime}
  {heard : Heard EventsApi} {request : EventsRequest} {α : Type}

abbrev KeepsLaw (d : EventsDeployment) (party : EventsParty d) (p : EventsHandler α)
    (post : Heard EventsApi → Except Exn α → Prop) (heard : Heard EventsApi) : Prop :=
  (eventsService d).Keeps (eventsRules d) party p post heard

/-- A program that may only read before it ends in a value with a meaning. -/
abbrev ReadsFirst (d : EventsDeployment) (party : EventsParty d) (p : EventsHandler α)
    (tells : Told EventsApi → α → Prop) (heard : Heard EventsApi) : Prop :=
  KeepsLaw d party p (fun later outcome => ∀ value, outcome = .ok value →
    Unwritten later ∧ tells later.told value) heard

theorem unwritten_start : Unwritten [] := fun _ none => absurd none List.not_mem_nil

theorem Unwritten.read (unwritten : Unwritten heard) {c : EventsCall} (reads : c.writes.isSome = false)
    (answer : EventsApi.Answer c) : Unwritten (⟨c, answer⟩ :: heard) := by
  intro entry member
  rcases List.mem_cons.mp member with rfl | old
  · exact reads
  · exact unwritten entry old

theorem reads_requireVisibleRun (runId : Str) :
    ReadsFirst d party (requireVisibleRun d.runIsVisible runId auth)
      (fun told row => ShowsRun d auth told runId row) [] := by
  rw [requireVisibleRun]
  cases parsed : Uuid.parse runId with
  | none => exact never_ok
  | some rid =>
    refine ⟨.read rfl rfl, fun found => ?_⟩
    rcases found with error | _ | row
    · exact never_ok
    · exact never_ok
    · change KeepsLaw d party (if d.runIsVisible row auth then pure row else Events.raise runNotFound) _ _
      split
      · next visible =>
        intro value same
        cases same
        exact ⟨unwritten_start.read rfl _, rid, parsed, .head _, visible⟩
      · exact never_ok

theorem told_cons (c : EventsCall) (answer : EventsApi.Answer c) (other : EventsCall)
    (value : EventsApi.Reply other) (told : heard.told other value) :
    Heard.told (⟨c, answer⟩ :: heard) other value := List.mem_cons_of_mem _ told

/-- A read tells its answer and nothing else. -/
theorem keeps_read {c : EventsCall} (writes : c.writes = none) (refresh : c.isRefresh = false) :
    KeepsLaw d party (Events.await c) (fun later outcome => later = ⟨c, outcome⟩ :: heard) heard := by
  have reads : (eventsService d).store.changes c = false := by
    simp [eventsService, eventsStore, writes, refresh]
  have once : (eventsRules d).once c = false := by simp [eventsRules, writes]
  refine ⟨.read reads once, fun answer => ?_⟩
  cases answer <;> rfl

theorem keeps_endpoint {runId : Str} {row : JobRun} (unwritten : Unwritten heard)
    (shows : ShowsRun d auth heard.told runId row) (endpoint : RunEndpoint) :
    KeepsLaw d (.caller (.run endpoint runId) auth env) (endpoint.handle d.hasEventStream row)
      (fun later outcome => ∀ response, outcome = .ok response →
        EventsRequest.Tells d auth later.told (.run endpoint runId) (.run response)) heard := by
  cases endpoint with
  | get =>
    intro response same
    cases same
    exact .run shows .get
  | stream =>
    change KeepsLaw _ _ (RunRoutes.streamRun d.hasEventStream row) _ _
    rw [RunRoutes.streamRun]
    split
    · intro response same
      cases same
      exact .run shows .stream
    · exact never_ok
  | cancel =>
    change KeepsLaw _ _ (RunRoutes.cancelRun row) _ _
    rw [RunRoutes.cancelRun]
    cases terminal : row.status.isTerminal with
    | true =>
      intro response same
      cases same
      exact .run shows (.ended terminal)
    | false =>
      refine ⟨.read rfl rfl, fun now => ?_⟩
      rcases now with error | now
      · exact never_ok
      · refine ⟨⟨fun _ => .cancel now (shows.mono (told_cons _ _)) terminal, fun _ => unwritten.read rfl _⟩,
          fun updated => ?_⟩
        rcases updated with error | ⟨⟩
        · exact never_ok
        · intro response same
          cases same
          exact .run ((shows.mono (told_cons _ _)).mono (told_cons _ _)) (.cancelled (.head _))
  | retry =>
    refine ⟨⟨fun _ => .retry shows, fun _ => unwritten⟩, fun queued => ?_⟩
    rcases queued with error | queueMsgId
    · exact never_ok
    · refine ⟨.read rfl rfl, fun now => ?_⟩
      rcases now with error | now
      · exact never_ok
      · intro response same
        cases same
        exact .run ((shows.mono (told_cons _ _)).mono (told_cons _ _)) (.retried (.tail _ (.head _)))

/-- The program ends in an answer that the request may get, or fails. -/
abbrev Earns (d : EventsDeployment) (auth : AuthContext) (env : EventsRuntime) (request : EventsRequest)
    (p : EventsHandler EventsReply) : Prop :=
  KeepsLaw d (.caller request auth env) p
    (fun later outcome => ∀ reply, outcome = .ok reply → request.Tells d auth later.told reply) []

abbrev EarnsBody (d : EventsDeployment) (auth : AuthContext) (env : EventsRuntime) (request : EventsRequest)
    (p : EventsHandler Json.Dict) (heard : Heard EventsApi) : Prop :=
  KeepsLaw d (.caller request auth env) p
    (fun later outcome => ∀ fields, outcome = .ok fields →
      request.Tells d auth later.told (.body fields)) heard

theorem earns_replied {p : EventsHandler Json.Dict} (earns : EarnsBody d auth env request p []) :
    Earns d auth env request (replied p) := by
  refine Prog.guarded_bind earns (fun later fields tells reply same => ?_) fun _ _ _ => never_ok
  cases same
  exact tells fields rfl

theorem keeps_run (endpoint : RunEndpoint) (runId : Str) :
    Earns d auth env (.run endpoint runId) (EventsRequest.handle d auth (.run endpoint runId)) := by
  have handled : KeepsLaw d (.caller (.run endpoint runId) auth env)
      (RunRequest.handle d.runIsVisible d.hasEventStream ⟨endpoint, runId, auth⟩)
      (fun later outcome => ∀ response, outcome = .ok response →
        EventsRequest.Tells d auth later.told (.run endpoint runId) (.run response)) [] := by
    refine Prog.guarded_bind (reads_requireVisibleRun runId) (fun later row shown => ?_) fun _ _ _ => never_ok
    obtain ⟨unwritten, shows⟩ := shown row rfl
    exact keeps_endpoint unwritten shows endpoint
  refine Prog.guarded_bind handled (fun later response tells reply same => ?_) fun _ _ _ => never_ok
  cases same
  exact tells response rfl

/-! ## Listings -/

theorem earns_listRuns (limit : Nat) (status triggerId since : Option Str) :
    EarnsBody d auth env (.list limit (.runs status triggerId since))
      (listRuns d.fromIsoformat d.isPrintable d.runIsVisible status triggerId since limit auth) [] := by
  rw [listRuns]
  cases parseIso d.fromIsoformat d.isPrintable since with
  | error error => exact never_ok
  | ok parsed =>
    refine ⟨.read rfl rfl, fun listed => ?_⟩
    rcases listed with error | rows
    · exact never_ok
    · intro fields same
      cases same
      exact .runs (.head _)

theorem earns_triggerRuns (limit : Nat) (triggerId : Str) (status : Option Str) :
    EarnsBody d auth env (.list limit (.triggerRuns triggerId status))
      (listRunsForTrigger d.runIsVisible d.registered triggerId status limit auth) [] := by
  rw [listRunsForTrigger]
  split
  · exact never_ok
  · refine ⟨.read rfl rfl, fun listed => ?_⟩
    rcases listed with error | rows
    · exact never_ok
    · change EarnsBody d auth env _ (if ((rows : List JobRun).filter (d.runIsVisible · auth)).isEmpty ∧
        (rows : List JobRun).isEmpty = false ∧ auth.isAdmin = false then Events.raise triggerNotFound
        else pure (itemsBody ((rows : List JobRun).filter (d.runIsVisible · auth)))) _
      split
      · exact never_ok
      · intro fields same
        cases same
        exact .triggerRuns (.head _)

theorem earns_listSignals (limit : Nat) (type source since : Option Str) :
    EarnsBody d auth env (.list limit (.signals type source since))
      (listSignals d.fromIsoformat d.isPrintable type source since limit auth) [] := by
  rw [listSignals]
  cases admin : auth.isAdmin with
  | false => exact never_ok
  | true =>
    cases parseIso d.fromIsoformat d.isPrintable since with
    | error error => exact never_ok
    | ok parsed =>
      refine ⟨.read rfl rfl, fun listed => ?_⟩
      rcases listed with error | rows
      · exact never_ok
      · intro fields same
        cases same
        exact .signals admin (.head _)

/-! ## Signals -/

theorem reads_requireVisibleSignal (signalId : Str) :
    ReadsFirst d party (requireVisibleSignal d.runIsVisible signalId auth)
      (fun told signal => ShowsSignal auth told signalId signal ∧
        ShownFor d auth told signalId signal) [] := by
  rw [requireVisibleSignal]
  cases parsed : Uuid.parse signalId with
  | none => exact never_ok
  | some sid =>
    refine Prog.guarded_bind (keeps_read (c := .getSignal sid) rfl rfl) ?_ fun _ _ _ => never_ok
    rintro _ (_ | signal) rfl
    · exact never_ok
    have stored : Heard.told (S := EventsApi) [⟨.getSignal sid, .ok (some signal)⟩] (.getSignal sid)
        (some signal) := .head _
    dsimp only
    split
    · exact never_ok
    · next tenant =>
      have shows : ShowsSignal auth (Heard.told (S := EventsApi) [⟨.getSignal sid, .ok (some signal)⟩])
          signalId signal :=
        ⟨sid, parsed, stored, not_not.mp tenant⟩
      split
      · next admin =>
        intro value same
        cases same
        exact ⟨unwritten_start.read rfl _, shows, .inl admin⟩
      · refine Prog.guarded_bind (keeps_read (c := .listRuns { limit := 200 }) rfl rfl) ?_ fun _ _ _ => never_ok
        rintro _ rows rfl
        have unwritten : Unwritten [⟨.listRuns { limit := 200 }, .ok rows⟩,
            ⟨.getSignal sid, .ok (some signal)⟩] :=
          (unwritten_start.read rfl _).read rfl _
        dsimp only
        split
        · next found =>
          intro value same
          cases same
          obtain ⟨run, member, visible⟩ := List.any_eq_true.mp found.2
          obtain ⟨listed, triggered⟩ := List.mem_filter.mp member
          refine ⟨unwritten, shows.mono (told_cons _ _), .inr (.inr ⟨rows, .head _, run, listed, ?_, visible⟩)⟩
          rw [parsed, of_decide_eq_true triggered]
        · split
          · next named =>
            intro value same
            cases same
            exact ⟨unwritten, shows.mono (told_cons _ _), .inr (.inl named)⟩
          · exact never_ok

theorem earns_getSignal (signalId : Str) :
    EarnsBody d auth env (.getSignal signalId) (SignalRoutes.getSignal d.runIsVisible signalId auth) [] := by
  refine Prog.guarded_bind (reads_requireVisibleSignal signalId) (fun later signal shown => ?_)
    fun _ _ _ => never_ok
  intro fields same
  cases same
  obtain ⟨_, shows, shown⟩ := shown signal rfl
  exact .signal shows shown

theorem earns_replaySignal (signalId : Str) :
    EarnsBody d auth env (.replaySignal signalId) (SignalRoutes.replaySignal signalId auth) [] := by
  rw [SignalRoutes.replaySignal]
  cases admin : auth.isAdmin with
  | false => exact never_ok
  | true =>
    cases parsed : Uuid.parse signalId with
    | none => exact never_ok
    | some sid =>
      refine Prog.guarded_bind (keeps_read (c := .getSignal sid) rfl rfl) ?_ fun _ _ _ => never_ok
      rintro _ (_ | signal) rfl
      · exact never_ok
      dsimp only
      split
      · exact never_ok
      · next tenant =>
        have shows : ShowsSignal auth (Heard.told (S := EventsApi) [⟨.getSignal sid, .ok (some signal)⟩])
            signalId signal :=
          ⟨sid, parsed, .head _, not_not.mp tenant⟩
        refine ⟨⟨fun _ => .replay admin shows, fun _ => unwritten_start.read rfl _⟩, fun queued => ?_⟩
        rcases queued with error | queueMsgId
        · exact never_ok
        · refine ⟨.read rfl rfl, fun now => ?_⟩
          rcases now with error | now
          · exact never_ok
          · intro fields same
            cases same
            exact .replayed admin ((shows.mono (told_cons _ _)).mono (told_cons _ _)) (.tail _ (.head _))

/-! ## Schedules -/

theorem earns_getSchedule (scheduleId : Str) :
    EarnsBody d auth env (.getSchedule scheduleId) (ScheduleRoutes.getSchedule scheduleId auth) [] := by
  rw [ScheduleRoutes.getSchedule]
  cases admin : auth.isAdmin with
  | false => exact never_ok
  | true =>
    refine ⟨.read rfl rfl, fun found => ?_⟩
    rcases found with error | _ | record
    · exact never_ok
    · exact never_ok
    · intro fields same
      cases same
      exact .schedule ⟨admin, .head _⟩

/-- The record that a patch was made of, and that it was written. -/
def Patched (auth : AuthContext) (scheduleId : Str) (body : SchedulePatchBody) (record : ScheduleRecord)
    (heard : Heard EventsApi) : Prop :=
  ShowsSchedule auth heard.told scheduleId record ∧ heard.told (.upsertSchedule (body.patch record)) ()

theorem Patched.later {scheduleId : Str} {body : SchedulePatchBody} {record : ScheduleRecord}
    (patched : Patched auth scheduleId body record heard) (c : EventsCall) (answer : EventsApi.Answer c) :
    Patched auth scheduleId body record (⟨c, answer⟩ :: heard) :=
  ⟨patched.1.mono (told_cons _ _), told_cons _ _ _ _ patched.2⟩

theorem keeps_refreshProducer {scheduleId : Str} {body : SchedulePatchBody} {record : ScheduleRecord}
    {producer : Nat} (known : producer ∈ d.producers) (heard : Heard EventsApi)
    (patched : Patched auth scheduleId body record heard) :
    KeepsLaw d (.caller (.patchSchedule scheduleId body) auth env) (refreshProducer producer)
      (fun later _ => Patched auth scheduleId body record later) heard := by
  have still (answer : EventsApi.Answer (.refresh producer)) := patched.later (.refresh producer) answer
  refine Prog.guarded_attempt ⟨.free (fun _ => .refresh patched.1 patched.2 known) rfl, fun answer => ?_⟩
  rcases answer with error | refreshed
  · change KeepsLaw d _ (if error.isException then pure () else Events.raise error) _ _
    split <;> exact still _
  · exact still _

theorem earns_patchSchedule (scheduleId : Str) (body : SchedulePatchBody) :
    EarnsBody d auth env (.patchSchedule scheduleId body)
      (patchSchedule d.producers scheduleId body auth) [] := by
  rw [patchSchedule]
  cases admin : auth.isAdmin with
  | false => exact never_ok
  | true =>
    refine Prog.guarded_bind (keeps_read (c := .getSchedule scheduleId) rfl rfl) ?_ fun _ _ _ => never_ok
    rintro _ (_ | record) rfl
    · exact never_ok
    have shows : ShowsSchedule auth (Heard.told (S := EventsApi) [⟨.getSchedule scheduleId, .ok (some record)⟩])
        scheduleId record := ⟨admin, .head _⟩
    refine ⟨⟨fun _ => .patch body shows, fun _ => unwritten_start.read rfl _⟩, fun written => ?_⟩
    rcases written with error | ⟨⟩
    · exact never_ok
    · have patched : Patched auth scheduleId body record [⟨.upsertSchedule (body.patch record), .ok ()⟩,
          ⟨.getSchedule scheduleId, .ok (some record)⟩] := ⟨shows.mono (told_cons _ _), .head _⟩
      have refreshed : KeepsLaw d (.caller (.patchSchedule scheduleId body) auth env)
          (Prog.each refreshProducer d.producers)
          (fun later _ => Patched auth scheduleId body record later) _ :=
        Prog.guarded_each (fun _ known => keeps_refreshProducer known) patched
      refine Prog.guarded_bind refreshed (fun later _ patched fields same => ?_) fun _ _ _ => never_ok
      cases same
      exact .patched patched.1 patched.2

/-! ## The laws -/

theorem earns_handle (d : EventsDeployment) (auth : AuthContext) (env : EventsRuntime)
    (request : EventsRequest) :
    Earns d auth env request (request.handle d auth) := by
  cases request with
  | run endpoint runId => exact keeps_run endpoint runId
  | list limit request =>
    cases request with
    | runs status triggerId since => exact earns_replied (earns_listRuns limit status triggerId since)
    | triggerRuns triggerId status => exact earns_replied (earns_triggerRuns limit triggerId status)
    | signals type source since => exact earns_replied (earns_listSignals limit type source since)
  | getSignal signalId => exact earns_replied (earns_getSignal signalId)
  | replaySignal signalId => exact earns_replied (earns_replaySignal signalId)
  | getSchedule scheduleId => exact earns_replied (earns_getSchedule scheduleId)
  | patchSchedule scheduleId body => exact earns_replied (earns_patchSchedule scheduleId body)

theorem events_bound (d : EventsDeployment) : (eventsService d).Bound (eventsRules d) where
  depends _ _ := aside_depend fun _ _ shows => shows
  handles request auth env := by
    refine Prog.guarded_mono (earns_handle d auth env request) fun later outcome earns => ?_
    cases outcome with
    | ok reply => exact earns reply rfl
    | error error => trivial
  permits_mono widens permits := EventsRequest.Permits.mono widens permits
  ends_mono {_ _ _ _ _ outcome} widens ends := by
    cases outcome with
    | ok reply => exact EventsRequest.Tells.mono widens ends
    | error error => trivial

end Programs
end OrchidApi
