import OrchidApi.AuthEntry
import OrchidApi.LifecycleRuns

/-! One process with its settings: setups, teardowns and the requests of downstream clients,
interleaved at every await. What the process has once advertised, it goes on answering. -/
namespace OrchidApi
open Text Async

/-! ## Traffic -/

inductive AuthTask where
  | setup
  | teardown
  | info (domain : Option Str)
  | exchange (r : ExchangeCodeRequest)
  | refresh (r : RefreshTokenRequest)
  | resolve (r : ResolveIdentityRequest)

inductive AuthReply where
  | done
  | info (body : AuthInfo)
  | token (body : ExchangeCodeResponse)
  | identity (body : ResolveIdentityResponse)

/-- What stays the same as long as the process lives: its settings, the classes it can
import, and Python's `str`. -/
structure AuthProcess where
  setup : SetupSettings
  settings : AuthSettings := {}
  imports : Str → LoadedClass
  str : Json.Value → Str

abbrev TrafficApi : Signature := FrontApi LifecycleCall.Reply

def AuthTask.start (process : AuthProcess) : AuthTask → Prog TrafficApi AuthReply
  | .setup => (setupOrchid process.setup >>= fun _ => pure .done : LifecycleHandler AuthReply).behind
  | .teardown => (teardownOrchid >>= fun _ => pure .done : LifecycleHandler AuthReply).behind
  | .info domain => getAuthInfo process.settings domain >>= fun body => pure (.info body)
  | .exchange r => exchangeCode r >>= fun body => pure (.token body)
  | .refresh r => refreshToken r >>= fun body => pure (.token body)
  | .resolve r => resolveIdentity process.str process.settings r >>= fun body => pure (.identity body)

/-- A class is the same each time it is imported, a class that overrides `refresh_token`
implements it, and the parties outside raise no `HTTPException`. -/
def AuthProcess.Obeys (process : AuthProcess) : (c : TrafficApi.Call) → TrafficApi.Answer c → Prop
  | .inl _, .error error => ∀ status detail, error ≠ .http status detail
  | .inl (.refreshToken client _ _), .ok grant =>
    @Eq Grant grant .notImplemented → client.overridesRefresh = false
  | .inr (.importClass path), .ok cls => cls = process.imports path
  | _, _ => True

/-- The requests read the context, and ask the parties outside. -/
def AuthProcess.serves (process : AuthProcess) (w : LifecycleWorld) (c : TrafficApi.Call)
    (answer : TrafficApi.Answer c) (w' : LifecycleWorld) : Prop :=
  process.Obeys c answer ∧ match c, answer with
    | .inl .appCtx, answer => answer = .ok w.ctx ∧ w' = w
    | .inl _, _ => w' = w
    | .inr c, answer => LifecycleServes w c answer w'

/-- The context that a task has read, what which provider has answered for which domain, and
whether its answers have been as they have to. -/
structure AuthSeen where
  app : Option AppContext := none
  provided : Option (LoadedClass × Option Str × Option UpstreamOAuthConfig) := none
  obeyed : Prop := True

def AuthProcess.learn (process : AuthProcess) (seen : AuthSeen) (c : TrafficApi.Call)
    (answer : TrafficApi.Answer c) : AuthSeen :=
  { app := match c, answer with
      | .inl .appCtx, .ok app => some app
      | _, _ => seen.app
    provided := match c, answer with
      | .inl (.getOauthConfig provider domain), .ok resolved => some (provider, domain, resolved)
      | _, _ => seen.provided
    obeyed := seen.obeyed ∧ process.Obeys c answer }

def trafficSystem (process : AuthProcess) : System TrafficApi AuthTask AuthSeen AuthReply LifecycleWorld where
  start := AuthTask.start process
  fresh := {}
  learn _ := process.learn
  serves _ := process.serves

/-! ## What stays wired -/

/-- Everything that the settings can wire, and nothing else. -/
structure Configured (process : AuthProcess) (ctx : AppContext) : Prop where
  exchange : ∀ client, ctx.authExchangeClient = some client →
    process.setup.authExchangeClientClass ≠ [] ∧ client = process.imports process.setup.authExchangeClientClass
  resolver : ctx.identityResolver.isSome →
    process.setup.identityResolverClass ≠ [] ∨ process.setup.devAuthBypass = true

/-- What the one context has wired for the endpoints, the other has too. -/
structure AppContext.StaysIn (ctx later : AppContext) : Prop where
  exchange : ∀ client, ctx.authExchangeClient = some client → later.authExchangeClient = some client
  resolver : ctx.identityResolver.isSome → later.identityResolver.isSome

theorem configured_start {process : AuthProcess} : Configured process {} := ⟨nofun, nofun⟩

theorem stays_refl (ctx : AppContext) : ctx.StaysIn ctx := ⟨fun _ same => same, id⟩

theorem AppContext.StaysIn.trans {ctx later last : AppContext} (first : ctx.StaysIn later)
    (second : later.StaysIn last) : ctx.StaysIn last :=
  ⟨fun client same => second.exchange client (first.exchange client same), second.resolver ∘ first.resolver⟩

/-- A change of the context under which what is configured stays wired. -/
def AuthProcess.Keeps (process : AuthProcess) (change : AppContext → AppContext) : Prop :=
  ∀ ctx, Configured process ctx → Configured process (change ctx) ∧ ctx.StaysIn (change ctx)

def AuthProcess.Allows (process : AuthProcess) (seen : AuthSeen) : TrafficApi.Call → Prop
  | .inr (.assign change) => seen.obeyed → process.Keeps change
  | _ => True

section Hooks
variable {process : AuthProcess} {seen : AuthSeen} {α : Type}

/-- Calls of the hooks that leave the wiring alone. -/
def Harmless : LifecycleCall → Prop
  | .importClass _ => False
  | .assign change => ∀ ctx, (change ctx).authExchangeClient = ctx.authExchangeClient ∧
      (change ctx).identityResolver = ctx.identityResolver
  | _ => True

theorem keeps_of_same {change : AppContext → AppContext}
    (same : ∀ ctx, (change ctx).authExchangeClient = ctx.authExchangeClient ∧
      (change ctx).identityResolver = ctx.identityResolver) : process.Keeps change := by
  intro ctx configured
  obtain ⟨exchange, resolver⟩ := same ctx
  exact ⟨⟨exchange ▸ configured.exchange, resolver ▸ configured.resolver⟩,
    ⟨fun client wired => exchange.trans wired, fun wired => resolver ▸ wired⟩⟩

/-- What a hook may do, whatever comes after it. -/
abbrev Hooked (process : AuthProcess) (p : LifecycleHandler α) (post : AuthSeen → α → Prop)
    (seen : AuthSeen) : Prop :=
  p.Guarded (fun seen c => process.Allows seen (.inr c))
    (fun seen c answer => process.learn seen (.inr c) answer)
    (fun later outcome => ∀ value, outcome = .ok value → post later value) seen

theorem hooked_bind {β : Type} {p : LifecycleHandler α} {f : α → LifecycleHandler β} {middle post}
    (first : Hooked process p middle seen)
    (rest : ∀ later value, middle later value → Hooked process (f value) post later) :
    Hooked process (p >>= f) post seen :=
  Prog.guarded_bind first (fun later value reached => rest later value (reached value rfl)) fun _ _ _ => nofun

theorem hooked_of_uses {p : LifecycleHandler α} (uses : p.Uses Harmless) :
    Hooked process p (fun later _ => later.obeyed → seen.obeyed) seen := by
  have further (now : AuthSeen) (still : now.obeyed → seen.obeyed) :
      Hooked process p (fun later _ => later.obeyed → seen.obeyed) now := by
    induction p generalizing now with
    | ret value => exact fun _ _ => still
    | raise error => exact nofun
    | call c next ih =>
      refine ⟨?_, fun answer => ih answer (uses.2 answer) _ fun obeyed => still obeyed.1⟩
      cases c with
      | assign change => exact fun _ => keeps_of_same uses.1
      | _ => trivial
  exact further seen id

theorem harmless_appCtx : Lifecycle.appCtx.Uses Harmless := Prog.uses_await trivial

/-- The steps of a setup that wire none of the three classes. -/
theorem harmless_openHttpClient : openHttpClient.Uses Harmless := by
  refine Prog.uses_bind harmless_appCtx fun ctx => ?_
  cases ctx.httpClient with
  | none => exact Prog.uses_bind (Prog.uses_await trivial) fun _ => Prog.uses_await fun _ => ⟨rfl, rfl⟩
  | some client => trivial

theorem harmless_openOrchid : openOrchid.Uses Harmless :=
  Prog.uses_bind (Prog.uses_await trivial) fun _ => Prog.uses_await fun _ => ⟨rfl, rfl⟩

theorem harmless_openOauthStateStore : openOauthStateStore.Uses Harmless :=
  Prog.uses_bind (Prog.uses_await trivial) fun _ => Prog.uses_await fun _ => ⟨rfl, rfl⟩

theorem harmless_onlyLogged {p : LifecycleHandler Unit} (uses : p.Uses Harmless) :
    (Lifecycle.onlyLogged p).Uses Harmless := by
  refine Prog.uses_attempt uses fun outcome => ?_
  cases outcome with
  | ok => trivial
  | error error => exact Prog.uses_ite trivial trivial

theorem harmless_warmStartup : warmStartup.Uses Harmless := by
  refine harmless_onlyLogged (Prog.uses_bind harmless_appCtx fun ctx => ?_)
  cases ctx.orchid with
  | none => trivial
  | some orchid => exact Prog.uses_await trivial

theorem harmless_bootEvents : bootEvents.Uses Harmless := by
  have mounts (config : Option EventsConfig) : (mountHttpProducer config).Uses Harmless := by
    cases config with
    | none => trivial
    | some config =>
      exact Prog.uses_ite trivial (Prog.uses_bind harmless_appCtx fun _ =>
        Prog.uses_bind (Prog.uses_await trivial) fun _ => Prog.uses_await fun _ => ⟨rfl, rfl⟩)
  have injects : injectEmitter.Uses Harmless := by
    refine Prog.uses_bind harmless_appCtx fun ctx => ?_
    split
    · exact Prog.uses_ite (Prog.uses_await trivial) trivial
    · trivial
  refine Prog.uses_bind harmless_appCtx fun _ => Prog.uses_bind (Prog.uses_await trivial) fun events =>
    Prog.uses_bind (Prog.uses_await fun _ => ⟨rfl, rfl⟩) fun _ => ?_
  exact Prog.uses_ite (Prog.uses_bind (mounts _) fun _ => injects) trivial

theorem harmless_cleanupTokens : cleanupTokens.Uses Harmless := by
  refine Prog.uses_bind harmless_appCtx fun ctx => ?_
  cases ctx.orchid with
  | none => trivial
  | some orchid =>
    exact Prog.uses_ite (harmless_onlyLogged (Prog.uses_await trivial)) trivial

theorem harmless_teardown : teardownOrchid.Uses Harmless := by
  have releases {c : LifecycleCall} {change : AppContext → AppContext} (closes : Harmless c)
      (same : Harmless (.assign change)) :
      (Lifecycle.await c >>= fun _ => Lifecycle.assign change).Uses Harmless :=
    Prog.uses_bind (Prog.uses_await closes) fun _ => Prog.uses_await same
  have events : releaseEvents.Uses Harmless := by
    refine Prog.uses_bind harmless_appCtx fun ctx => ?_
    cases ctx.events with
    | none => trivial
    | some events => exact Prog.uses_ite (releases trivial fun _ => ⟨rfl, rfl⟩) trivial
  have orchid : releaseOrchid.Uses Harmless := by
    refine Prog.uses_bind harmless_appCtx fun ctx => ?_
    cases ctx.orchid with
    | none => trivial
    | some orchid => exact releases trivial fun _ => ⟨rfl, rfl⟩
  have store : releaseOauthStateStore.Uses Harmless := by
    refine Prog.uses_bind harmless_appCtx fun ctx => ?_
    cases ctx.oauthStateStore with
    | none => trivial
    | some store => exact releases trivial fun _ => ⟨rfl, rfl⟩
  have client : releaseHttpClient.Uses Harmless := by
    refine Prog.uses_bind harmless_appCtx fun ctx => ?_
    cases ctx.httpClient with
    | none => trivial
    | some client => exact releases trivial fun _ => ⟨rfl, rfl⟩
  exact Prog.uses_bind (Prog.uses_bind events fun _ => Prog.uses_bind orchid fun _ => store) fun _ => client

/-- A class that a setup has imported. -/
theorem hooked_importClass (path : Str) : Hooked process (Lifecycle.importClass path)
    (fun later cls => later.obeyed → cls = process.imports path) seen := by
  refine ⟨trivial, fun answer => ?_⟩
  cases answer with
  | ok cls =>
    rintro value same obeyed
    obtain rfl := Except.ok.inj same
    exact obeyed.2
  | error error => exact nofun

theorem hooked_assign {change : AppContext → AppContext} (keeps : seen.obeyed → process.Keeps change) :
    Hooked process (Lifecycle.assign change) (fun _ _ => True) seen := by
  refine ⟨keeps, fun answer => ?_⟩
  cases answer with
  | ok => exact fun _ _ => trivial
  | error => exact nofun

/-- A setup wires a class only where the settings name one, and the class that they name. -/
theorem hooked_wireIdentityResolver :
    Hooked process (wireIdentityResolver process.setup) (fun _ _ => True) seen := by
  have wires {resolver : Option IdentityResolver} (named : process.setup.identityResolverClass ≠ [] ∨
      process.setup.devAuthBypass = true) (wired : resolver.isSome) :
      process.Keeps fun ctx => { ctx with identityResolver := resolver } := fun ctx configured =>
    ⟨⟨configured.exchange, fun _ => named⟩, ⟨fun _ same => same, fun _ => wired⟩⟩
  rw [wireIdentityResolver]
  split
  · rename_i named
    refine hooked_bind (hooked_importClass _) fun _ cls _ => ?_
    refine hooked_bind (hooked_of_uses harmless_appCtx) fun _ ctx _ => ?_
    refine hooked_bind (hooked_of_uses (Prog.uses_await trivial)) fun _ _ _ => ?_
    exact hooked_assign fun _ => wires (.inl named) rfl
  · split
    · rename_i bypass
      exact hooked_assign fun _ => wires (.inr bypass) rfl
    · rename_i unnamed plain
      refine hooked_assign fun _ ctx configured => ⟨⟨configured.exchange, nofun⟩, fun _ same => same, ?_⟩
      intro wired
      rcases configured.resolver wired with named | bypass
      · exact absurd named unnamed
      · exact absurd bypass plain

theorem hooked_wireAuthConfigProvider :
    Hooked process (wireAuthConfigProvider process.setup) (fun _ _ => True) seen := by
  rw [wireAuthConfigProvider]
  split
  · refine hooked_bind (hooked_importClass _) fun _ cls _ => ?_
    refine hooked_bind (hooked_of_uses (Prog.uses_await trivial)) fun _ _ _ => ?_
    exact hooked_assign fun _ => keeps_of_same fun _ => ⟨rfl, rfl⟩
  · exact hooked_assign fun _ => keeps_of_same fun _ => ⟨rfl, rfl⟩

theorem hooked_wireAuthExchangeClient :
    Hooked process (wireAuthExchangeClient process.setup) (fun _ _ => True) seen := by
  rw [wireAuthExchangeClient]
  split
  · rename_i named
    refine hooked_bind (hooked_importClass _) fun later cls imported => ?_
    refine hooked_bind (hooked_of_uses (Prog.uses_await trivial)) fun last _ obeyed => ?_
    refine hooked_assign fun now ctx configured => ?_
    obtain rfl := imported (obeyed now)
    refine ⟨⟨?_, configured.resolver⟩, ?_, id⟩
    · intro client wired
      exact ⟨named, (Option.some.inj wired).symm⟩
    · intro client wired
      exact congrArg some (configured.exchange client wired).2.symm
  · rename_i unnamed
    refine hooked_assign fun _ ctx configured => ⟨⟨nofun, configured.resolver⟩, ?_, id⟩
    intro client wired
    exact absurd (configured.exchange client wired).1 unnamed

theorem hooked_setup : Hooked process (setupOrchid process.setup) (fun _ _ => True) seen := by
  have plain {p : LifecycleHandler Unit} (uses : p.Uses Harmless) (seen : AuthSeen) :
      Hooked process p (fun _ _ => True) seen :=
    Prog.guarded_mono (hooked_of_uses uses) fun _ _ _ _ _ => trivial
  exact hooked_bind (plain (Prog.uses_await trivial) _) fun _ _ _ =>
    hooked_bind (plain harmless_openHttpClient _) fun _ _ _ =>
    hooked_bind hooked_wireIdentityResolver fun _ _ _ =>
    hooked_bind hooked_wireAuthConfigProvider fun _ _ _ =>
    hooked_bind hooked_wireAuthExchangeClient fun _ _ _ =>
    hooked_bind (plain harmless_openOrchid _) fun _ _ _ =>
    hooked_bind (plain harmless_openOauthStateStore _) fun _ _ _ =>
    hooked_bind (plain harmless_warmStartup _) fun _ _ _ =>
    hooked_bind (plain harmless_bootEvents _) fun _ _ _ => plain harmless_cleanupTokens _

end Hooks

/-! ## Requests -/

/-- What a refusal says of the context that its request has read. -/
def AuthTask.Refuses (seen : AuthSeen) : AuthTask → Exn → Prop
  | .exchange _, error =>
    error = exchangeUnwired → ∃ app, seen.app = some app ∧ app.authExchangeClient = none
  | .refresh _, error =>
    (error = exchangeUnwired → ∃ app, seen.app = some app ∧ app.authExchangeClient = none) ∧
      (error = refreshUnavailable → ∃ app client, seen.app = some app ∧
        app.authExchangeClient = some client ∧ client.overridesRefresh = false)
  | .resolve _, error =>
    error = resolverUnwired → ∃ app, seen.app = some app ∧ app.identityResolver = none
  | _, _ => True

/-- What the provider that the context has wired has answered for the domain. -/
def AuthSeen.Provided (seen : AuthSeen) (app : AppContext) (domain : Option Str)
    (resolved : UpstreamOAuthConfig) : Prop :=
  ∃ provider, app.authConfigProvider = some provider ∧ seen.provided = some (provider, domain, some resolved)

/-- The disclosed block is what the provider has said, flagged by the context that was read. -/
def AuthInfo.ReadFrom (body : AuthInfo) (domain : Option Str) (seen : AuthSeen) : Prop :=
  ∃ app, seen.app = some app ∧ ∀ oauth, body.oauth = some oauth →
    ∃ resolved, seen.Provided app domain resolved ∧ oauth = advertised app resolved

def AuthTask.Post (task : AuthTask) (seen : AuthSeen) : Except Exn AuthReply → Prop
  | .ok (.info body) => ∃ domain, task = .info domain ∧ body.ReadFrom domain seen
  | .ok _ => True
  | .error error => task.Refuses seen error

section Requests
variable {process : AuthProcess} {seen : AuthSeen} {α : Type}

abbrev Requested (process : AuthProcess) (p : AuthHandler LifecycleCall.Reply α)
    (post : AuthSeen → Except Exn α → Prop) (seen : AuthSeen) : Prop :=
  p.Guarded process.Allows process.learn (fun later outcome => later.obeyed → post later outcome) seen

/-- What a party outside raises is none of the refusals of this process. -/
def Foreign (error : Exn) : Prop := ∀ status detail, error ≠ .http status detail

/-- The rule for reading the context. -/
theorem requested_read {f : AppContext → AuthHandler LifecycleCall.Reply α}
    {post : AuthSeen → Except Exn α → Prop}
    (failed : ∀ later error, Foreign error → post later (.error error))
    (rest : ∀ app later, later.app = some app → Requested process (f app) post later) :
    Requested process (Auth.appCtx >>= f) post seen := by
  refine ⟨trivial, fun answer => ?_⟩
  cases answer with
  | ok app => exact rest app _ rfl
  | error error => exact fun obeyed => failed _ error obeyed.2

/-- The rule for asking a party outside. -/
theorem requested_ask {c : AuthCall} {f : c.Reply → AuthHandler LifecycleCall.Reply α}
    {post : AuthSeen → Except Exn α → Prop}
    (failed : ∀ later error, Foreign error → post later (.error error))
    (rest : ∀ reply, Requested process (f reply) post (process.learn seen (.inl c) (.ok reply))) :
    Requested process (Auth.await c >>= f) post seen := by
  refine ⟨trivial, fun answer => ?_⟩
  cases answer with
  | ok reply => exact rest reply
  | error error => exact fun obeyed => failed _ error obeyed.2

theorem upstreamRefusal_ne {statusCode : Int} {message detail : Str} :
    upstreamRefusal statusCode message ≠ .http 503 detail := by
  rw [upstreamRefusal]
  split <;> exact fun same => by injection same; contradiction

theorem resolverRefusal_ne {statusCode : Int} {message detail : Str} :
    resolverRefusal statusCode message ≠ .http 503 detail := by
  rw [resolverRefusal]
  split <;> exact fun same => by injection same; contradiction

theorem requested_getAuthInfo (s : AuthSettings) (domain : Option Str) :
    Requested process (getAuthInfo s domain) (fun later outcome => match outcome with
      | .ok body => body.ReadFrom domain later
      | .error _ => True) seen := by
  refine requested_read (fun _ _ _ => trivial) fun app later read => ?_
  cases wired : app.authConfigProvider with
  | none => exact fun _ => ⟨app, read, nofun⟩
  | some provider =>
    refine requested_ask (fun _ _ _ => trivial) fun resolved _ => ⟨app, read, fun oauth shown => ?_⟩
    obtain ⟨given, rfl, same⟩ := Option.map_eq_some_iff.mp shown
    exact ⟨given, ⟨provider, wired, rfl⟩, same.symm⟩

/-- The refusals of a task, and nothing of its answers. -/
abbrev RefusedFor (task : AuthTask) : AuthSeen → Except Exn α → Prop := fun later outcome =>
  match outcome with
  | .ok _ => True
  | .error error => task.Refuses later error

theorem requested_exchangeCode (r : ExchangeCodeRequest) :
    Requested process (exchangeCode r) (RefusedFor (.exchange r)) seen := by
  have outside (later : AuthSeen) (error : Exn) (foreign : Foreign error) :
      (AuthTask.exchange r).Refuses later error := fun same => absurd same (foreign _ _)
  refine requested_read outside fun app later read => ?_
  cases wired : app.authExchangeClient with
  | none => exact fun _ _ => ⟨app, read, wired⟩
  | some client =>
    refine requested_ask outside fun grant => ?_
    cases grant with
    | token response => exact fun _ => trivial
    | exchangeError statusCode message => exact fun _ same => absurd same upstreamRefusal_ne
    | notImplemented => exact fun _ => nofun

theorem exchangeUnwired_ne : exchangeUnwired ≠ refreshUnavailable := fun same =>
  absurd (congrArg List.length (Exn.http.inj same).2) (by decide +kernel)

theorem requested_refreshToken (r : RefreshTokenRequest) :
    Requested process (refreshToken r) (RefusedFor (.refresh r)) seen := by
  have outside (later : AuthSeen) (error : Exn) (foreign : Foreign error) :
      (AuthTask.refresh r).Refuses later error :=
    ⟨fun same => absurd same (foreign _ _), fun same => absurd same (foreign _ _)⟩
  refine requested_read outside fun app later read => ?_
  cases wired : app.authExchangeClient with
  | none => exact fun _ => ⟨fun _ => ⟨app, read, wired⟩, fun same => absurd same exchangeUnwired_ne⟩
  | some client =>
    refine requested_ask outside fun grant => ?_
    cases grant with
    | token response => exact fun _ => trivial
    | exchangeError statusCode message =>
      exact fun _ => ⟨fun same => absurd same upstreamRefusal_ne, fun same => absurd same upstreamRefusal_ne⟩
    | notImplemented =>
      exact fun obeyed => ⟨fun same => absurd same.symm exchangeUnwired_ne, fun _ =>
        ⟨app, client, read, wired, obeyed.2 rfl⟩⟩

theorem requested_resolveIdentity (str : Json.Value → Str) (s : AuthSettings) (r : ResolveIdentityRequest) :
    Requested process (resolveIdentity str s r) (RefusedFor (.resolve r)) seen := by
  have outside (later : AuthSeen) (error : Exn) (foreign : Foreign error) :
      (AuthTask.resolve r).Refuses later error := fun same => absurd same (foreign _ _)
  refine requested_read outside fun app later read => ?_
  cases wired : app.identityResolver with
  | none => exact fun _ _ => ⟨app, read, wired⟩
  | some resolver =>
    cases resolver with
    | devBypass token => exact fun _ => trivial
    | custom cls client =>
      refine requested_ask outside fun resolution => ?_
      cases resolution with
      | context ctx => exact fun _ => trivial
      | identityError statusCode message => exact fun _ same => absurd same resolverRefusal_ne

/-- Wrapping an answer that is not the disclosure. -/
theorem requested_wrap {p : AuthHandler LifecycleCall.Reply α} {task : AuthTask} {wrap : α → AuthReply}
    (requested : Requested process p (RefusedFor task) seen) (other : ∀ value body, wrap value ≠ .info body) :
    Requested process (p >>= fun value => pure (wrap value)) task.Post seen := by
  refine Prog.guarded_bind requested (fun later value _ _ => ?_) fun _ _ refused => refused
  cases wrapped : wrap value with
  | info body => exact absurd wrapped (other value body)
  | _ => trivial

/-- A part of the lifespan, which answers nothing. -/
theorem requested_lifespan {p : LifecycleHandler Unit} {middle : AuthSeen → Unit → Prop}
    {post : AuthSeen → Except Exn AuthReply → Prop} (hooked : Hooked process p middle seen)
    (done : ∀ later, post later (.ok .done)) (failed : ∀ later error, post later (.error error)) :
    Requested process (p >>= fun _ => pure .done : LifecycleHandler AuthReply).behind post seen :=
  Prog.guarded_behind (Prog.guarded_bind hooked (fun later _ _ _ => done later) fun later error _ _ =>
    failed later error)

theorem requested_start (task : AuthTask) : Requested process (task.start process) task.Post {} := by
  cases task with
  | setup => exact requested_lifespan hooked_setup (fun _ => trivial) fun _ _ => trivial
  | teardown =>
    exact requested_lifespan (hooked_of_uses harmless_teardown) (fun _ => trivial) fun _ _ => trivial
  | info domain =>
    refine Prog.guarded_bind (requested_getAuthInfo process.settings domain) (fun _ _ read obeyed => ?_) ?_
    · exact ⟨domain, rfl, read obeyed⟩
    · exact fun _ _ _ _ => trivial
  | exchange r =>
    refine requested_wrap (requested_exchangeCode r) ?_
    intro value body same
    contradiction
  | refresh r =>
    refine requested_wrap (requested_refreshToken r) ?_
    intro value body same
    contradiction
  | resolve r =>
    refine requested_wrap (requested_resolveIdentity _ _ r) ?_
    intro value body same
    contradiction

end Requests

/-! ## The pool -/

section Pool
variable {process : AuthProcess} {w w' : LifecycleWorld} {seen : AuthSeen} {c : TrafficApi.Call}
  {answer : TrafficApi.Answer c}

theorem lifecycle_ctx {c : LifecycleCall} {answer : LifecycleApi.Answer c}
    (served : LifecycleServes w c answer w') :
    w'.ctx = w.ctx ∨ ∃ change, c = .assign change ∧ w'.ctx = change w.ctx := by
  cases served with
  | assign change => exact .inr ⟨change, rfl, rfl⟩
  | _ => exact .inl rfl

theorem reads_ctx {c : AuthCall} {answer : TrafficApi.Answer (.inl c)}
    (served : process.serves w (.inl c) answer w') : w' = w := by
  cases c with
  | appCtx => exact served.2.2
  | _ => exact served.2

/-- Each call leaves the context configured, and what is wired in it wired. -/
theorem ctx_step (configured : Configured process w.ctx) (obeyed : seen.obeyed)
    (allowed : process.Allows seen c) (served : process.serves w c answer w') :
    Configured process w'.ctx ∧ w.ctx.StaysIn w'.ctx := by
  rcases c with c | c
  · rw [reads_ctx served]
    exact ⟨configured, stays_refl _⟩
  · rcases lifecycle_ctx served.2 with same | ⟨change, rfl, changed⟩
    · rw [same]
      exact ⟨configured, stays_refl _⟩
    · rw [changed]
      exact allowed obeyed _ configured

/-- What a task has read is still wired. -/
def AuthSeen.Means (w : LifecycleWorld) (seen : AuthSeen) : Prop :=
  seen.obeyed ∧ ∀ app, seen.app = some app → app.StaysIn w.ctx

theorem means_fresh (w : LifecycleWorld) : AuthSeen.Means w {} :=
  ⟨trivial, fun _ read => nomatch read⟩

/-- What the answer to a call has shown of the context. -/
theorem learnt_app (served : process.serves w c answer w') {app : AppContext}
    (learnt : (process.learn seen c answer).app = some app) : seen.app = some app ∨ app = w.ctx := by
  rcases c with c | c
  · cases c with
    | appCtx =>
      cases answer with
      | ok read =>
        have shown := Except.ok.inj served.2.1
        exact .inr ((Option.some.inj learnt).symm.trans shown)
      | error error => exact .inl learnt
    | _ => cases answer <;> exact .inl learnt
  · exact .inl learnt

abbrev TrafficPool : Type := Pool TrafficApi AuthTask AuthSeen AuthReply LifecycleWorld

theorem traffic_discipline (process : AuthProcess) :
    Discipline (trafficSystem process) (fun _ => process.Allows)
      (fun task seen outcome => seen.obeyed → task.Post seen outcome)
      (fun w => Configured process w.ctx) (fun w _ => AuthSeen.Means w) where
  starts := requested_start
  means_fresh w _ := means_fresh w
  keeps := by
    intro w w' task seen c answer configured means allowed served
    exact (ctx_step configured means.1 allowed served).1
  stable := by
    intro w w' task seen c answer configured means allowed served _ _ holds
    have stays := (ctx_step configured means.1 allowed served).2
    exact ⟨holds.1, fun app read => (holds.2 app read).trans stays⟩
  learns := by
    intro w w' task seen c answer configured means allowed served
    refine ⟨⟨means.1, served.1⟩, fun app learnt => ?_⟩
    have stays := (ctx_step configured means.1 allowed served).2
    rcases learnt_app served learnt with read | rfl
    · exact (means.2 app read).trans stays
    · exact stays

end Pool

/-- The requests that start after the disclosure are not refused what it has promised. -/
structure Honoured (oauth : UpstreamOAuthConfig) (task : Task TrafficApi AuthTask AuthSeen AuthReply) :
    Prop where
  exchange : oauth.exchangeViaApi = true → ∀ r, task.owner = .exchange r →
    task.outcome ≠ some (.error exchangeUnwired)
  refresh : oauth.refreshViaApi = true → ∀ r, task.owner = .refresh r →
    task.outcome ≠ some (.error exchangeUnwired) ∧ task.outcome ≠ some (.error refreshUnavailable)
  resolve : oauth.resolveViaApi = true → ∀ r, task.owner = .resolve r →
    task.outcome ≠ some (.error resolverUnwired)

/-- All but the flags is the provider's, and no flag is set that it has not set. -/
structure UpstreamOAuthConfig.Mirrors (oauth resolved : UpstreamOAuthConfig) : Prop where
  endpoints : { oauth with exchangeViaApi := resolved.exchangeViaApi
                           resolveViaApi := resolved.resolveViaApi
                           refreshViaApi := resolved.refreshViaApi } = resolved
  exchange : oauth.exchangeViaApi = true → resolved.exchangeViaApi = true
  resolve : oauth.resolveViaApi = true → resolved.resolveViaApi = true
  refresh : oauth.refreshViaApi = true → resolved.refreshViaApi = true

/-- What a task was told mirrors what the wired provider has answered it for its domain. -/
def Disclosed (oauth : UpstreamOAuthConfig) (teller : Task TrafficApi AuthTask AuthSeen AuthReply) : Prop :=
  ∃ domain app resolved, teller.owner = .info domain ∧ teller.known.app = some app ∧
    teller.known.Provided app domain resolved ∧ oauth.Mirrors resolved

theorem advertised_mirrors (app : AppContext) (resolved : UpstreamOAuthConfig) :
    (advertised app resolved).Mirrors resolved where
  endpoints := rfl
  exchange flagged := (Bool.and_eq_true_iff.mp flagged).1
  resolve flagged := (Bool.and_eq_true_iff.mp flagged).1
  refresh flagged := by
    by_contra unset
    rw [Bool.not_eq_true] at unset
    simp [advertised, refreshViaApiAvailable, unset] at flagged

theorem refreshViaApi_client {app : AppContext} {resolved : UpstreamOAuthConfig}
    (flagged : (advertised app resolved).refreshViaApi = true) :
    ∃ client, app.authExchangeClient = some client ∧ client.overridesRefresh = true := by
  simp only [advertised, refreshViaApiAvailable] at flagged
  split at flagged
  · contradiction
  · split at flagged
    · contradiction
    · exact ⟨_, ‹_›, flagged⟩

/-- A request is honoured that has read the context of the disclosure, or one that keeps it. -/
theorem honoured_of_stays {app : AppContext} {task : Task TrafficApi AuthTask AuthSeen AuthReply}
    (kept : ∀ read, task.known.app = some read → app.StaysIn read)
    (refusal : ∀ error, task.outcome = some (.error error) → task.owner.Refuses task.known error)
    (resolved : UpstreamOAuthConfig) : Honoured (advertised app resolved) task := by
  have unwired {client : LoadedClass} (wired : app.authExchangeClient = some client)
      (none : ∃ read, task.known.app = some read ∧ read.authExchangeClient = none) : False := by
    obtain ⟨read, known, none⟩ := none
    rw [(kept read known).exchange client wired] at none
    contradiction
  refine ⟨?_, ?_, ?_⟩
  · intro promised r owner ended
    obtain ⟨client, wired⟩ := Option.isSome_iff_exists.mp (Bool.and_eq_true_iff.mp promised).2
    have refused := refusal _ ended
    rw [owner] at refused
    exact unwired wired (refused rfl)
  · intro promised r owner
    obtain ⟨client, wired, overrides⟩ := refreshViaApi_client promised
    refine ⟨fun ended => ?_, fun ended => ?_⟩
    · have refused := refusal _ ended
      rw [owner] at refused
      exact unwired wired (refused.1 rfl)
    · have refused := refusal _ ended
      rw [owner] at refused
      obtain ⟨read, other, known, same, plain⟩ := refused.2 rfl
      obtain rfl := Option.some.inj (((kept read known).exchange client wired).symm.trans same)
      rw [overrides] at plain
      contradiction
  · intro promised r owner ended
    have wired := (Bool.and_eq_true_iff.mp promised).2
    have refused := refusal _ ended
    rw [owner] at refused
    obtain ⟨read, known, none⟩ := refused rfl
    have still := (kept read known).resolver wired
    rw [none] at still
    contradiction

/-- Whatever setups and teardowns of the process go on meanwhile, and wherever they fail. -/
theorem advertised_honoured (process : AuthProcess)
    {pool pool' : Pool TrafficApi AuthTask AuthSeen AuthReply LifecycleWorld}
    (first : Reaches (trafficSystem process) ⟨{}, []⟩ pool) (rest : Reaches (trafficSystem process) pool pool')
    {teller : Task TrafficApi AuthTask AuthSeen AuthReply} (member : teller ∈ pool.tasks) {body : AuthInfo}
    (told : teller.outcome = some (.ok (.info body))) {oauth : UpstreamOAuthConfig}
    (shown : body.oauth = some oauth) :
    Disclosed oauth teller ∧
      ∀ i task, pool'.tasks[i]? = some task → pool.tasks.length ≤ i → Honoured oauth task := by
  have discipline := traffic_discipline process
  have start : InOrder (trafficSystem process) (fun _ => process.Allows)
      (fun task seen outcome => seen.obeyed → task.Post seen outcome)
      (fun w => Configured process w.ctx) (fun w _ => AuthSeen.Means w) ⟨{}, []⟩ :=
    ⟨configured_start, fun task none => absurd none List.not_mem_nil⟩
  have order := inOrder_reaches discipline start first
  -- the context that the disclosure was read from is wired in every later one
  obtain ⟨⟨obeyed, read⟩, post⟩ := order.outcome member told
  obtain ⟨domain, owner, app, seen, disclosed⟩ := post obeyed
  obtain ⟨resolved, provided, rfl⟩ := disclosed oauth shown
  refine ⟨⟨domain, app, resolved, owner, seen, provided, advertised_mirrors app resolved⟩, ?_⟩
  intro i task there later
  obtain ⟨_, since⟩ := since_reaches (fun w => app.StaysIn w.ctx)
    (fun _ seen => ∀ read, seen.app = some read → app.StaysIn read) discipline
    (fun configured means allowed served stays =>
      stays.trans (ctx_step configured means.1 allowed served).2)
    (fun _ _ read => nomatch read)
    (fun _ served stays known read learnt => by
      rcases learnt_app served learnt with earlier | rfl
      · exact known read earlier
      · exact stays) order (read app seen) rest
  have order' := inOrder_reaches discipline order rest
  refine honoured_of_stays (since i task there later) (fun error ended => ?_) resolved
  obtain ⟨means, post⟩ := order'.outcome (List.mem_of_getElem? there) ended
  exact post means.1

/-! A disclosure during a setup, then a refresh while the process is torn down. -/

def acmeProcess : AuthProcess where
  setup :=
    { authConfigProviderClass := "acme.Provider".toList, authExchangeClientClass := "acme.Exchange".toList
      devAuthBypass := true }
  imports path := { path, overridesRefresh := true }
  str _ := []

def acmeOauth : UpstreamOAuthConfig :=
  { issuerUrl := "https://idp".toList, authorizationEndpoint := "https://idp/authorize".toList,
    tokenEndpoint := "https://idp/token".toList, clientId := "acme".toList, exchangeViaApi := true,
    resolveViaApi := true, refreshViaApi := true }

def trafficServer : Server TrafficApi LifecycleWorld
  | .inl .appCtx, w => (.ok w.ctx, w)
  | .inl (.resolve _ _ _), w => (.ok (.identityError 0 []), w)
  | .inl (.isWarmed _), w | .inl (.createTask _), w => (.ok true, w)
  | .inl (.getOauthConfig _ _), w => (.ok (some acmeOauth), w)
  | .inl (.exchangeCode _ _ _ _ _), w => (.ok (.exchangeError 400 []), w)
  | .inl (.refreshToken client _ _), w =>
    (.ok (if client.overridesRefresh then .token { accessToken := "tok".toList } else .notImplemented), w)
  | .inr (.importClass path), w => (.ok (acmeProcess.imports path), w)
  | .inr c, w => lifecycleServer false c w

theorem trafficServer_serves (w : LifecycleWorld) (c : TrafficApi.Call) :
    acmeProcess.serves w c (trafficServer c w).1 (trafficServer c w).2 := by
  rcases c with c | c
  · cases c with
    | refreshToken client token domain =>
      refine ⟨fun refused => ?_, rfl⟩
      by_contra overrides
      rw [Bool.not_eq_false] at overrides
      simp only [overrides] at refused
      contradiction
    | appCtx => exact ⟨trivial, rfl, rfl⟩
    | _ => exact ⟨trivial, rfl⟩
  · cases c with
    | importClass path => exact ⟨rfl, .importClass path _⟩
    | _ => exact ⟨trivial, lifecycleServer_serves false w _⟩

def disclosedPool : TrafficPool :=
  Pool.turns (trafficSystem acmeProcess) (fun _ => trafficServer) {} [.setup, .info none]
    (List.replicate 14 0 ++ [1, 1])

def refreshedPool : TrafficPool :=
  [2, 3, 0, 2, 3, 2].foldl (Pool.turn (trafficSystem acmeProcess) fun _ => trafficServer)
    { disclosedPool with tasks := disclosedPool.tasks ++
        [AuthTask.teardown, .refresh { refreshToken := "rt".toList }].map fun owner =>
          ⟨owner, (trafficSystem acmeProcess).start owner, (trafficSystem acmeProcess).fresh⟩ }

theorem refreshedPool_reached : Reaches (trafficSystem acmeProcess) disclosedPool refreshedPool :=
  (reaches_spawn disclosedPool [.teardown, .refresh { refreshToken := "rt".toList }]).trans
    (reaches_schedule (fun _ => trafficServer_serves) _ _)

theorem advertised_honoured_acme : ∃ task oauth, refreshedPool.tasks[3]? = some task ∧
    task.outcome = some (.ok (.token { accessToken := "tok".toList })) ∧ oauth.refreshViaApi = true ∧
    oauth.tokenEndpoint = acmeOauth.tokenEndpoint ∧
    ∃ teller ∈ disclosedPool.tasks, Disclosed oauth teller ∧ Honoured oauth task := by
  have disclosed : Reaches (trafficSystem acmeProcess) ⟨{}, []⟩ disclosedPool :=
    reaches_turns (fun _ => trafficServer_serves) _ _ _
  have member : disclosedPool.tasks[1]? = some _ := rfl
  obtain ⟨mirrors, honoured⟩ := advertised_honoured acmeProcess disclosed refreshedPool_reached
    (List.mem_of_getElem? member) rfl rfl
  exact ⟨_, _, rfl, rfl, rfl, rfl, _, List.mem_of_getElem? member, mirrors, honoured 3 _ rfl (by decide)⟩

end OrchidApi
