import OrchidApi.EventsLaws

/-! The events routers in one process with the processors, the schedulers and the producers,
all of them interleaved at every await. -/
namespace OrchidApi
open Text Async

/-! ## Over any interleaving -/

abbrev EventsTask : Type := ServiceTask EventsCall EventsRequest

abbrev EventsPool : Type :=
  Pool (FrontApi EventsCall.Reply) EventsTask (ServiceFacts EventsCall.Reply) EventsReply
    (Chronicle EventsApi EventsWorld)

def EventsRequest.writes : EventsRequest → Option EventsKind
  | .run .cancel _ => some .run
  | .run .retry _ | .replaySignal _ => some .queue
  | .patchSchedule _ _ => some .schedule
  | _ => none

theorem EventsRequest.Permits.writes {d : EventsDeployment} {auth : AuthContext} {told : Told EventsApi}
    {request : EventsRequest} {c : EventsCall} {kind : EventsKind} (permits : request.Permits d auth told c)
    (writes : c.writes = some kind) : request.writes = some kind := by
  cases permits <;> first | exact writes | contradiction

/-- The log of all changes to the stores, and whose they are. -/
structure EventsAccounted (s : AuthSettings) (d : EventsDeployment) (initial : EventsWorld)
    (pool : EventsPool) : Prop where
  /-- The log leads from the first state to this one. -/
  replayed : pool.world.now = eventsStore.replay initial pool.world.changes
  /-- Each change was made by the framework, or by a request of someone who may make it, where
  the context that it has read runs events. -/
  permitted : ∀ later c earlier, pool.world.changes = later ++ c :: earlier →
    ∃ task ∈ pool.tasks, task.known.heard.Made c ∧ (task.owner = .framework c ∨ ∃ headers request,
      task.owner = .request headers request ∧
        (∃ runtime, task.known.Shows AppContext.getEventsRuntime (.ok runtime)) ∧
        ∃ ctx, Attests s headers task.known.toAuthFacts ctx ∧
          request.Permits d ctx.auth (eventsStore.told initial earlier) c)
  /-- There are no more writes of a kind than tasks for it. -/
  counted : ∀ kind : EventsKind, (pool.world.changes.countP fun c => c.writes = some kind) ≤
    pool.tasks.countP fun task => task.owner.makes (fun c => c.writes = some kind)
      fun request => request.writes = some kind

section Pools
variable {s : AuthSettings} {d : EventsDeployment} {initial : EventsWorld} {pool : EventsPool}

theorem events_accounted (reaches : Reaches ((eventsService d).system s) ⟨⟨initial, []⟩, []⟩ pool) :
    EventsAccounted s d initial pool where
  replayed := service_follows (events_bound d) reaches
  permitted later c earlier made := by
    obtain ⟨task, member, did, ⟨own, framework, rfl⟩ |
        ⟨headers, request, asked, _, runtime, ⟨⟨ctx, attests, rfl⟩, given⟩, permits⟩⟩ :=
      service_permitted (events_bound d) reaches made
    · exact ⟨task, member, did, .inl framework⟩
    · exact ⟨task, member, did, .inr ⟨headers, request, asked, ⟨runtime, given⟩, ctx, attests, permits⟩⟩
  counted kind := by
    refine service_counted (events_bound d) reaches (fun c writes => ?_) fun permits writes => ?_
    · exact Option.isSome_iff_exists.mpr ⟨kind, of_decide_eq_true writes⟩
    · exact decide_eq_true (permits.writes (of_decide_eq_true writes))

/-- Whatever a request is answered with, someone is attested to it who may be told so. -/
theorem events_answers_earned (reaches : Reaches ((eventsService d).system s) ⟨⟨initial, []⟩, []⟩ pool)
    {task : Task (FrontApi EventsCall.Reply) EventsTask (ServiceFacts EventsCall.Reply) EventsReply}
    (member : task ∈ pool.tasks)
    {headers : AuthHeaders} {request : EventsRequest} (asked : task.owner = .request headers request)
    {reply : EventsReply} (ended : task.outcome = some (.ok reply)) :
    ∃ ctx, Attests s headers task.known.toAuthFacts ctx ∧
      request.Tells d ctx.auth (eventsStore.told initial pool.world.changes) reply := by
  rcases service_ended (events_bound d) reaches member asked ended with
    ⟨_, _, ⟨⟨ctx, attests, rfl⟩, _⟩, tells⟩ | ⟨error, impossible, _⟩
  · exact ⟨ctx, attests, tells⟩
  · contradiction

end Pools

/-! Admins of two tenants replay a signal of the first that a producer has just put in, and its
user cancels a run. -/

def eventsDeployment : EventsDeployment where
  fromIsoformat _ := none
  isPrintable _ := true
  runIsVisible := visibleToActor

def eventsApp : AppContext where
  identityResolver := some (.custom { path := "acme.auth.Resolver".toList } none)
  events := some { id := 0, storage := none, enabled := true }

def acmeIdentity (bearerToken : Str) : Resolution :=
  let admin (tenantKey : Str) : AuthContext := { tenantKey, userId := "ops".toList, roles := ["admin".toList] }
  if bearerToken = "tok-1".toList then .context ⟨admin "t-1".toList, bearerToken, false, [], none⟩
  else if bearerToken = "tok-2".toList then .context ⟨admin "t-2".toList, bearerToken, false, [], none⟩
  else .context ⟨claimant, bearerToken, false, [], none⟩

def eventsHttpServer : Server (FrontApi EventsCall.Reply) (Chronicle EventsApi EventsWorld)
  | .inl c, w => (answersInFront eventsApp acmeIdentity c, w)
  | .inr c, w => ((eventsServer {} c w.now).1,
      if eventsStore.changes c then ⟨eventsStore.after c w.now, c :: w.changes⟩ else w)

theorem eventsHttpServer_serves (task : EventsTask) (w : Chronicle EventsApi EventsWorld)
    (c : (FrontApi EventsCall.Reply).Call) : ((eventsService eventsDeployment).system {}).serves task w c
      (eventsHttpServer c w).1 (eventsHttpServer c w).2 := by
  rcases c with c | c
  · exact rfl
  · cases c with
    | updateRun | enqueue | upsertSchedule | recordFire | refresh | rewrite =>
      exact .change rfl fun _ same => ⟨{}, same⟩
    | _ => exact .read rfl ⟨{}, rfl⟩

def replayTasks : List EventsTask :=
  [.request ⟨"Bearer tok-1".toList, none⟩ (.replaySignal firstId),
    .request ⟨"Bearer tok-2".toList, none⟩ (.replaySignal firstId),
    .request ⟨"Bearer tok-u".toList, none⟩ (.run .cancel secondId),
    .framework (.rewrite fun w => { w with signals := claimedSignal :: w.signals })]

/-- The hidden run, still running and the claimant's own. -/
def runningRun : JobRun :=
  { hiddenRun with
    status := .running
    spec := { hiddenRun.spec with visibilityUserId := some claimant.userId } }

def replayedWorld : EventsWorld := { runs := [runningRun] }

/-- The requests find out first who they are. -/
def replayPool : EventsPool :=
  Pool.turns ((eventsService eventsDeployment).system {}) (fun _ => eventsHttpServer)
    ⟨replayedWorld, []⟩ replayTasks
    [0, 1, 2, 3, 0, 1, 2, 0, 1, 2, 0, 1, 2, 0, 1, 2, 0, 1, 2, 0, 1, 2, 0, 1, 2]

theorem replayPool_reached :
    Reaches ((eventsService eventsDeployment).system {}) ⟨⟨replayedWorld, []⟩, []⟩ replayPool :=
  reaches_turns eventsHttpServer_serves _ _ _

/-- The admin of the other tenant gets nowhere. -/
theorem events_accounted_replayed :
    EventsAccounted {} eventsDeployment replayedWorld replayPool ∧
      replayPool.world.changes.map EventsCall.writes = [some .run, some .queue, some .rewrite] ∧
      (replayPool.tasks[1]?.bind Task.outcome) = some (.error adminNotFound) :=
  ⟨events_accounted replayPool_reached, rfl, rfl⟩

def firstReplay : Task (FrontApi EventsCall.Reply) EventsTask (ServiceFacts EventsCall.Reply) EventsReply :=
  replayPool.tasks.head (List.length_pos_iff.mp (by decide))

theorem events_answers_earned_replayed :
    ∃ ctx, Attests {} ⟨"Bearer tok-1".toList, none⟩ firstReplay.known.toAuthFacts ctx ∧
      EventsRequest.Tells eventsDeployment ctx.auth (eventsStore.told replayedWorld replayPool.world.changes)
        (.replaySignal firstId) (.body (replayBody claimedSignal [] [])) :=
  events_answers_earned replayPool_reached
    (List.head_mem _) rfl rfl

end OrchidApi
