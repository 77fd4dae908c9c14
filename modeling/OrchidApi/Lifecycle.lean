import OrchidApi.Effects

/-! `lifecycle.py` and `context.py`: how the global context is populated and released, one
awaited resource after another, and what the dependency helpers hand out of it. -/
namespace OrchidApi
open Text Async

/-! ## Resources -/

structure HttpClient where
  id : Nat
  deriving DecidableEq

/-- `OrchidEventsConfig`, through what the wiring reads of it. -/
structure EventsConfig where
  enabled : Bool := false
  ingestionSources : List Str := []
  deriving DecidableEq

/-- The facade; `events` is `None` for a configuration that is not the real model. -/
structure Orchid where
  id : Nat
  events : Option EventsConfig := none
  hasTokenStore : Bool := false
  hasRegistrationStore : Bool := false
  deriving DecidableEq

structure OAuthStateStore where
  id : Nat
  deriving DecidableEq

/-- `storage` is the facade whose chat storage the runtime writes to. -/
structure EventsRuntime where
  id : Nat
  storage : Option Nat
  enabled : Bool := false
  hasSignalEmitter : Bool := false
  hasHttpProducer : Bool := false
  deriving DecidableEq

/-- A class by its dotted path: whether its constructor has a parameter `http_client`, and
whether it defines a `refresh_token` of its own. -/
structure LoadedClass where
  path : Str
  takesHttpClient : Bool := false
  overridesRefresh : Bool := false
  deriving DecidableEq

inductive IdentityResolver where
  | custom (cls : LoadedClass) (httpClient : Option HttpClient)
  | devBypass (accessToken : Str)
  deriving DecidableEq

structure AppContext where
  orchid : Option Orchid := none
  httpClient : Option HttpClient := none
  identityResolver : Option IdentityResolver := none
  authConfigProvider : Option LoadedClass := none
  authExchangeClient : Option LoadedClass := none
  oauthStateStore : Option OAuthStateStore := none
  events : Option EventsRuntime := none
  deriving DecidableEq

/-- The settings that the wiring branches on. -/
structure SetupSettings where
  identityResolverClass : Str := []
  devAuthBypass : Bool := false
  devBypassToken : Str := "dev-token".toList
  authConfigProviderClass : Str := []
  authExchangeClientClass : Str := []

/-! ## Calls -/

/-- Attributes of `app_ctx` are read and assigned by calls as well. -/
inductive LifecycleCall where
  | appCtx
  | assign (change : AppContext → AppContext)
  | configureTracing
  | newHttpClient
  | importClass (path : Str)
  | instantiate (cls : LoadedClass) (httpClient : Option HttpClient)
  | fromConfigPath
  | buildOauthStateStore
  | warmUnauthenticatedCapabilities (orchid : Orchid)
  | startEvents (config : Option EventsConfig) (chatStorage : Option Nat)
      (identityResolver : Option IdentityResolver)
  | startHttpProducer (sources : List Str) (events : Option EventsRuntime)
  | injectSignalEmitter (orchid : Orchid)
  | cleanupExpired (orchid : Orchid)
  | stopEvents (events : EventsRuntime)
  | closeOrchid (orchid : Orchid)
  | closeOauthStateStore (store : OAuthStateStore)
  | aclose (client : HttpClient)

def LifecycleCall.Reply : LifecycleCall → Type
  | .appCtx => AppContext
  | .newHttpClient => HttpClient
  | .importClass _ => LoadedClass
  | .fromConfigPath => Orchid
  | .buildOauthStateStore => OAuthStateStore
  | .startEvents _ _ _ => EventsRuntime
  | _ => Unit

abbrev LifecycleApi : Signature := ⟨LifecycleCall, LifecycleCall.Reply, Exn⟩

abbrev LifecycleHandler (α : Type) : Type := Prog LifecycleApi α

namespace Lifecycle

def await (c : LifecycleCall) : LifecycleHandler c.Reply := Prog.await (S := LifecycleApi) c
def raise (error : Exn) : LifecycleHandler α := Prog.raise (S := LifecycleApi) error

def appCtx : LifecycleHandler AppContext := await .appCtx
def assign (change : AppContext → AppContext) : LifecycleHandler Unit := await (.assign change)
def configureTracing : LifecycleHandler Unit := await .configureTracing
def newHttpClient : LifecycleHandler HttpClient := await .newHttpClient
def importClass (path : Str) : LifecycleHandler LoadedClass := await (.importClass path)
def instantiate (cls : LoadedClass) (httpClient : Option HttpClient) : LifecycleHandler Unit :=
  await (.instantiate cls httpClient)
def fromConfigPath : LifecycleHandler Orchid := await .fromConfigPath
def buildOauthStateStore : LifecycleHandler OAuthStateStore := await .buildOauthStateStore
def warmUnauthenticatedCapabilities (orchid : Orchid) : LifecycleHandler Unit :=
  await (.warmUnauthenticatedCapabilities orchid)
def startEvents (config : Option EventsConfig) (chatStorage : Option Nat)
    (identityResolver : Option IdentityResolver) : LifecycleHandler EventsRuntime :=
  await (.startEvents config chatStorage identityResolver)
def startHttpProducer (sources : List Str) (events : Option EventsRuntime) : LifecycleHandler Unit :=
  await (.startHttpProducer sources events)
def injectSignalEmitter (orchid : Orchid) : LifecycleHandler Unit := await (.injectSignalEmitter orchid)
def cleanupExpired (orchid : Orchid) : LifecycleHandler Unit := await (.cleanupExpired orchid)
def stopEvents (events : EventsRuntime) : LifecycleHandler Unit := await (.stopEvents events)
def closeOrchid (orchid : Orchid) : LifecycleHandler Unit := await (.closeOrchid orchid)
def closeOauthStateStore (store : OAuthStateStore) : LifecycleHandler Unit :=
  await (.closeOauthStateStore store)
def aclose (client : HttpClient) : LifecycleHandler Unit := await (.aclose client)

/-- `except Exception` around an optional step: a failure is only logged. -/
def onlyLogged (p : LifecycleHandler Unit) : LifecycleHandler Unit :=
  p.attempt fun
    | .ok _ => pure ()
    | .error error => if error.isException then pure () else raise error

end Lifecycle

/-! ## Setup -/

def openHttpClient : LifecycleHandler Unit := do
  let ctx ← Lifecycle.appCtx
  match ctx.httpClient with
  | none =>
    let client ← Lifecycle.newHttpClient
    Lifecycle.assign fun ctx => { ctx with httpClient := some client }
  | some _ => pure ()

def wireIdentityResolver (s : SetupSettings) : LifecycleHandler Unit :=
  if s.identityResolverClass ≠ [] then do
    let cls ← Lifecycle.importClass s.identityResolverClass
    let ctx ← Lifecycle.appCtx
    let httpClient := if cls.takesHttpClient then ctx.httpClient else none
    Lifecycle.instantiate cls httpClient
    Lifecycle.assign fun ctx => { ctx with identityResolver := some (.custom cls httpClient) }
  else if s.devAuthBypass then
    Lifecycle.assign fun ctx => { ctx with identityResolver := some (.devBypass s.devBypassToken) }
  else Lifecycle.assign fun ctx => { ctx with identityResolver := none }

def wireAuthConfigProvider (s : SetupSettings) : LifecycleHandler Unit :=
  if s.authConfigProviderClass ≠ [] then do
    let cls ← Lifecycle.importClass s.authConfigProviderClass
    Lifecycle.instantiate cls none
    Lifecycle.assign fun ctx => { ctx with authConfigProvider := some cls }
  else Lifecycle.assign fun ctx => { ctx with authConfigProvider := none }

def wireAuthExchangeClient (s : SetupSettings) : LifecycleHandler Unit :=
  if s.authExchangeClientClass ≠ [] then do
    let cls ← Lifecycle.importClass s.authExchangeClientClass
    Lifecycle.instantiate cls none
    Lifecycle.assign fun ctx => { ctx with authExchangeClient := some cls }
  else Lifecycle.assign fun ctx => { ctx with authExchangeClient := none }

def openOrchid : LifecycleHandler Unit := do
  let orchid ← Lifecycle.fromConfigPath
  Lifecycle.assign fun ctx => { ctx with orchid := some orchid }

def openOauthStateStore : LifecycleHandler Unit := do
  let store ← Lifecycle.buildOauthStateStore
  Lifecycle.assign fun ctx => { ctx with oauthStateStore := some store }

/-- A missing facade is an `AttributeError` like any other failure here. -/
def warmStartup : LifecycleHandler Unit :=
  Lifecycle.onlyLogged do
    let ctx ← Lifecycle.appCtx
    match ctx.orchid with
    | none => Lifecycle.raise .other
    | some orchid => Lifecycle.warmUnauthenticatedCapabilities orchid

/-- The producer is kept in the runtime once it has started. -/
def mountHttpProducer (config : Option EventsConfig) : LifecycleHandler Unit :=
  match config with
  | none => pure ()
  | some config =>
    if config.ingestionSources = [] then pure ()
    else do
      let ctx ← Lifecycle.appCtx
      Lifecycle.startHttpProducer config.ingestionSources ctx.events
      Lifecycle.assign fun ctx =>
        { ctx with events := ctx.events.map fun events => { events with hasHttpProducer := true } }

def injectEmitter : LifecycleHandler Unit := do
  let ctx ← Lifecycle.appCtx
  match ctx.orchid, ctx.events with
  | some orchid, some events =>
    if events.hasSignalEmitter then Lifecycle.injectSignalEmitter orchid else pure ()
  | _, _ => pure ()

def bootEvents : LifecycleHandler Unit := do
  let ctx ← Lifecycle.appCtx
  let config := ctx.orchid.bind (·.events)
  let events ← Lifecycle.startEvents config (ctx.orchid.map (·.id)) ctx.identityResolver
  Lifecycle.assign fun ctx => { ctx with events := some events }
  if events.enabled then do
    mountHttpProducer config
    injectEmitter
  else pure ()

def cleanupTokens : LifecycleHandler Unit := do
  let ctx ← Lifecycle.appCtx
  match ctx.orchid with
  | none => Lifecycle.raise .other
  | some orchid =>
    if orchid.hasTokenStore then Lifecycle.onlyLogged (Lifecycle.cleanupExpired orchid) else pure ()

def setupOrchid (s : SetupSettings) : LifecycleHandler Unit := do
  Lifecycle.configureTracing
  openHttpClient
  wireIdentityResolver s
  wireAuthConfigProvider s
  wireAuthExchangeClient s
  openOrchid
  openOauthStateStore
  warmStartup
  bootEvents
  cleanupTokens

/-! ## Teardown -/

/-- The events first, so that no producer writes to a storage that is being closed. -/
def releaseEvents : LifecycleHandler Unit := do
  let ctx ← Lifecycle.appCtx
  match ctx.events with
  | some events =>
    if events.enabled then do
      Lifecycle.stopEvents events
      Lifecycle.assign fun ctx => { ctx with events := none }
    else pure ()
  | none => pure ()

def releaseOrchid : LifecycleHandler Unit := do
  let ctx ← Lifecycle.appCtx
  match ctx.orchid with
  | some orchid =>
    Lifecycle.closeOrchid orchid
    Lifecycle.assign fun ctx => { ctx with orchid := none }
  | none => pure ()

def releaseOauthStateStore : LifecycleHandler Unit := do
  let ctx ← Lifecycle.appCtx
  match ctx.oauthStateStore with
  | some store =>
    Lifecycle.closeOauthStateStore store
    Lifecycle.assign fun ctx => { ctx with oauthStateStore := none }
  | none => pure ()

def releaseResources : LifecycleHandler Unit := do
  releaseEvents
  releaseOrchid
  releaseOauthStateStore

def releaseHttpClient : LifecycleHandler Unit := do
  let ctx ← Lifecycle.appCtx
  match ctx.httpClient with
  | some client =>
    Lifecycle.aclose client
    Lifecycle.assign fun ctx => { ctx with httpClient := none }
  | none => pure ()

def teardownOrchid : LifecycleHandler Unit := do
  releaseResources
  releaseHttpClient

/-! ## Dependencies -/

namespace AppContext

/-- A dependency helper: the resource, or its own 503. -/
def require (missing : String) : Option α → Except Exn α
  | some resource => .ok resource
  | none => .error (.http 503 missing.toList)

def getChatRepo (ctx : AppContext) : Except Exn Nat :=
  require "Chat repository not initialised" (ctx.orchid.map (·.id))

def getGraph (ctx : AppContext) : Except Exn Nat :=
  require "Graph not initialised" (ctx.orchid.map (·.id))

def getAgentsConfig (ctx : AppContext) : Except Exn Nat :=
  require "Agents config not loaded" (ctx.orchid.map (·.id))

def getOauthStateStore (ctx : AppContext) : Except Exn OAuthStateStore :=
  require "OAuth state store not initialised" ctx.oauthStateStore

def getMcpTokenStore (ctx : AppContext) : Except Exn Nat :=
  require "MCP token store not initialised"
    (ctx.orchid.bind fun orchid => if orchid.hasTokenStore then some orchid.id else none)

def getMcpClientRegistrationStore (ctx : AppContext) : Except Exn Nat :=
  require "MCP client-registration store not initialised"
    (ctx.orchid.bind fun orchid => if orchid.hasRegistrationStore then some orchid.id else none)

def getEventsRuntime (ctx : AppContext) : Except Exn EventsRuntime :=
  require "events subsystem is disabled (events.enabled=false in agents.yaml)"
    (ctx.events.filter (·.enabled))

end AppContext
end OrchidApi
