import OrchidApi.AsyncSerial
import OrchidApi.LifecycleContracts

/-! Setups and teardowns in any order, whole or broken off at any step. -/
namespace OrchidApi
open Text Async

/-! ## Orders -/

inductive LifecycleHook where
  | setup (s : SetupSettings)
  | teardown

def LifecycleHook.run : LifecycleHook → LifecycleHandler Unit
  | .setup s => setupOrchid s
  | .teardown => teardownOrchid

def lifecycleSystem : System LifecycleApi LifecycleHook Unit Unit LifecycleWorld where
  start := LifecycleHook.run
  fresh := ()
  learn _ _ _ _ := ()
  serves _ := LifecycleServes

abbrev LifecycleEntry : Type := LifecycleHook × Except LifecycleApi.Exn Unit

/-- A setup of the order began while the context held the resource, and put another in its
place. The HTTP client is the one resource that a setup does not replace. -/
def Replaced (order : List LifecycleEntry) (world : LifecycleWorld) (r : Resource) : Prop :=
  (∀ id, r ≠ .httpClient id) ∧ ∃ before s outcome after middle,
    order = before ++ (.setup s, outcome) :: after ∧
    Serial lifecycleSystem {} before middle ∧
    Serial lifecycleSystem middle ((.setup s, outcome) :: after) world ∧ middle.ctx.Holds r

section Orders
variable {order : List LifecycleEntry} {world world' : LifecycleWorld} {r : Resource}

theorem Replaced.later {entry : LifecycleEntry} (replaced : Replaced order world r)
    (run : Runs LifecycleServes entry.1.run world entry.2 world') :
    Replaced (order ++ [entry]) world' r := by
  obtain ⟨other, before, s, outcome, after, middle, rfl, first, rest, holds⟩ := replaced
  refine ⟨other, before, s, outcome, after ++ [entry], middle, by simp, first, ?_, holds⟩
  exact rest.snoc run

theorem sound_start : SoundWorld (fun _ => False) {} where
  fresh _ opened := nomatch opened
  based _ _ opened := nomatch opened
  orderly := trivial
  held r holds := by cases r <;> simp [AppContext.Holds] at holds
  accounted _ isOpen := nomatch isOpen.1
  feeding _ _ current := nomatch current
  live current := nomatch current

/-- Each hook keeps the invariant: a teardown loses nothing, and a setup nothing but what
it replaces. -/
theorem sound_serial (serial : Serial lifecycleSystem {} order world) :
    SoundWorld (Replaced order world) world := by
  induction serial with
  | nil => exact sound_start.weaken fun _ impossible => impossible.elim
  | @snoc order hook outcome world world' before run ih =>
    change Runs LifecycleServes hook.run world outcome world' at run
    have sound : SoundWorld (Replaced (order ++ [(hook, outcome)]) world') world :=
      ih.weaken fun _ replaced => replaced.later run
    cases hook with
    | teardown =>
      have kept := keeps_teardown _ _ _ sound run
      cases outcome with
      | ok => exact kept.1
      | error => exact kept
    | setup s =>
      have old (r : Resource) (holds : world.ctx.Holds r) (other : ∀ id, r ≠ .httpClient id) :
          Replaced (order ++ [(.setup s, outcome)]) world' r :=
        ⟨other, order, s, outcome, [], world, rfl, before,
          Serial.single run, holds⟩
      have kept := keeps_setup old s _ _ _ ⟨sound, rfl⟩ run
      cases outcome with
      | ok => exact kept.sound
      | error => exact kept

/-- A server on which everything can be opened but, when it is down, the OAuth state store. -/
def lifecycleServer (down : Bool) : Server LifecycleApi LifecycleWorld
  | .appCtx, w => (.ok w.ctx, w)
  | .assign change, w => (.ok (), { w with ctx := change w.ctx })
  | .newHttpClient, w => (.ok (⟨w.issued⟩ : HttpClient), w.opening (.httpClient w.issued))
  | .importClass path, w => (.ok { path, takesHttpClient := true : LoadedClass }, w)
  | .fromConfigPath, w =>
    (.ok { id := w.issued, events := some { enabled := true, ingestionSources := ["crm".toList] },
           hasTokenStore := true : Orchid }, w.opening (.orchid w.issued))
  | .buildOauthStateStore, w =>
    if down then (.error .other, w)
    else (.ok (⟨w.issued⟩ : OAuthStateStore), w.opening (.oauthStateStore w.issued))
  | .startEvents _ storage _, w =>
    let events : EventsRuntime := { id := w.issued, storage, enabled := true, hasSignalEmitter := true }
    (.ok events, w.opening events.resource)
  | .stopEvents events, w => (.ok (), w.close events.resource)
  | .closeOrchid orchid, w => (.ok (), w.close (.orchid orchid.id))
  | .closeOauthStateStore store, w => (.ok (), w.close (.oauthStateStore store.id))
  | .aclose client, w => (.ok (), w.close (.httpClient client.id))
  | .instantiate _ _, w | .configureTracing, w | .warmUnauthenticatedCapabilities _, w
  | .startHttpProducer _ _, w | .injectSignalEmitter _, w | .cleanupExpired _, w => (.ok (), w)

theorem lifecycleServer_serves (down : Bool) (w : LifecycleWorld) (c : LifecycleCall) :
    LifecycleServes w c (lifecycleServer down c w).1 (lifecycleServer down c w).2 := by
  cases c with
  | buildOauthStateStore =>
    cases down with
    | false => exact .buildOauthStateStore
    | true => exact .fails _ _ ⟨nofun, nofun⟩
  | fromConfigPath => exact .fromConfigPath _ rfl
  | startEvents config storage resolver => exact .startEvents _ _ _ _ rfl rfl rfl
  | _ => constructor

def restartSettings : SetupSettings := { identityResolverClass := "acme.auth.Resolver".toList }

/-- The world after the hooks, each with whether the state store is down meanwhile. -/
def restarted : List (LifecycleHook × Bool) → LifecycleWorld → LifecycleWorld
  | [], world => world
  | (hook, down) :: rest, world => restarted rest (hook.run.exec (lifecycleServer down) world).2

def restartOutcomes : List (LifecycleHook × Bool) → LifecycleWorld → List LifecycleEntry
  | [], _ => []
  | (hook, down) :: rest, world =>
    (hook, (hook.run.exec (lifecycleServer down) world).1) ::
      restartOutcomes rest (hook.run.exec (lifecycleServer down) world).2

theorem serial_restarted (hooks : List (LifecycleHook × Bool)) (world : LifecycleWorld) :
    Serial lifecycleSystem world (restartOutcomes hooks world) (restarted hooks world) := by
  induction hooks generalizing world with
  | nil => exact .nil
  | cons first rest ih =>
    have run : Serial lifecycleSystem world [(first.1, (first.1.run.exec (lifecycleServer first.2) world).1)]
        (first.1.run.exec (lifecycleServer first.2) world).2 :=
      Serial.single (runs_exec (lifecycleServer_serves first.2) _ _)
    exact serial_append_iff.mpr ⟨_, run, ih _⟩

/-- What the dependency helpers give out is open, and the events runtime writes to the
storage that the routers read. -/
structure Answering (world : LifecycleWorld) : Prop where
  facade : ∃ orchid, world.IsOpen (.orchid orchid) ∧ world.ctx.getChatRepo = .ok orchid ∧
    world.ctx.getGraph = .ok orchid ∧ world.ctx.getAgentsConfig = .ok orchid
  store : ∃ store, world.ctx.getOauthStateStore = .ok store ∧ world.IsOpen (.oauthStateStore store.id)
  events : ∀ events, world.ctx.getEventsRuntime = .ok events →
    world.IsOpen events.resource ∧ ∃ orchid, world.ctx.getChatRepo = .ok orchid ∧
      events.storage = some orchid

theorem require_ok {missing : String} {resource : Option α} {value : α}
    (given : AppContext.require missing resource = .ok value) : resource = some value := by
  cases resource with
  | none => contradiction
  | some given' => exact congrArg some (Except.ok.inj given)

theorem Serving.answering {lost : Resource → Prop} (serving : Serving lost world) : Answering world := by
  obtain ⟨orchid, facade⟩ := Option.isSome_iff_exists.mp serving.orchid
  obtain ⟨store, stored⟩ := Option.isSome_iff_exists.mp serving.store
  have chats : world.ctx.getChatRepo = .ok orchid.id := by
    simp [AppContext.getChatRepo, facade, AppContext.require]
  refine ⟨⟨orchid.id, serving.sound.held _ ⟨orchid, facade, rfl⟩, chats, ?_, ?_⟩, ⟨store, ?_, ?_⟩, ?_⟩
  · simp [AppContext.getGraph, facade, AppContext.require]
  · simp [AppContext.getAgentsConfig, facade, AppContext.require]
  · simp [AppContext.getOauthStateStore, stored, AppContext.require]
  · exact serving.sound.held (.oauthStateStore store.id) stored
  · intro events given
    obtain ⟨running, enabled⟩ := Option.filter_eq_some_iff.mp (require_ok given)
    refine ⟨serving.sound.held _ ⟨events, running, enabled, rfl, rfl⟩, orchid.id, chats, ?_⟩
    simpa [facade] using serving.fed events running enabled

/-- A setup that has returned, whatever happened before it. -/
theorem setup_answers {s : SetupSettings}
    (serial : Serial lifecycleSystem {} (order ++ [(.setup s, .ok ())]) world) : Answering world := by
  obtain ⟨middle, before, run⟩ := serial.last
  have sound : SoundWorld (fun r => Replaced order middle r ∨ middle.ctx.Holds r) middle :=
    (sound_serial before).weaken fun _ replaced => .inl replaced
  exact (keeps_setup (fun _ holds _ => .inr holds) s _ _ _ ⟨sound, rfl⟩ run).answering

theorem setup_answers_restarted : Answering (restarted [(.setup restartSettings, false)] {}) :=
  @setup_answers [] _ restartSettings (serial_restarted [(.setup restartSettings, false)] {})

/-! ## After a teardown -/

end Orders
end OrchidApi
