import OrchidApi.AsyncVia
import OrchidApi.AuthViews
import OrchidApi.AuthenticatedStore

/-! `routers/mcp_auth.py`: the endpoints for the MCP servers that require OAuth behind their
dependencies, over the tokens, the registrations and the pending states that they share. -/
namespace OrchidApi
open Text Async

/-! ## Calls -/

/-- A registration with what else `ensure_registration` returns of it. -/
structure ServerRegistration extends ClientRegistration where
  serverName : Str
  issuer : Str := []

/-- An `OrchidMCPDiscoveryError` has a reason. -/
inductive Discovery where
  | found (record : ServerRegistration)
  | failed (reason : Str)

/-- The calls of the OAuth flow and of the other endpoints; `saveRegistration` is for the
discovery itself, which ends in it. -/
inductive McpCall where
  | getToken (tenant user server : Str)
  | deleteToken (tenant user server : Str)
  | discover (server redirectUri metadataUrl : Str) (manualConfig : Option Json.Dict)
  | saveRegistration (server : Str) (registration : ClientRegistration)
  | oauth (c : OAuthCall)

def McpCall.Reply : McpCall → Type
  | .getToken _ _ _ => Option Token
  | .deleteToken _ _ _ => Bool
  | .discover _ _ _ _ => Discovery
  | .saveRegistration _ _ => Unit
  | .oauth c => c.Reply

abbrev McpApi : Signature := ⟨McpCall, McpCall.Reply, Exn⟩

abbrev McpHandler (α : Type) : Type := Prog McpApi α

/-- What the listing asks. -/
def McpCall.ofDiscovery : DiscoveryCall → McpCall
  | .getToken tenant user server => .getToken tenant user server
  | .getRegistration server => .oauth (.getRegistration server)

def McpCall.toDiscovery :
    (c : DiscoveryCall) → Except Exn (McpCall.ofDiscovery c).Reply → DiscoveryApi.Answer c
  | .getToken _ _ _, answer => answer
  | .getRegistration _, answer => answer

def DiscoveryHandler.inMcp (p : DiscoveryHandler α) : McpHandler α :=
  Prog.via (S := DiscoveryApi) McpCall.ofDiscovery McpCall.toDiscovery p

def OAuthHandler.inMcp (p : OAuthHandler α) : McpHandler α :=
  Prog.via (S := OAuthApi) McpCall.oauth (fun _ answer => answer) p

namespace Mcp

def await (c : McpCall) : McpHandler c.Reply := Prog.await (S := McpApi) c
def raise (error : Exn) : McpHandler α := Prog.raise (S := McpApi) error

def deleteToken (tenant user server : Str) : McpHandler Bool := await (.deleteToken tenant user server)
def discover (server redirectUri metadataUrl : Str) (manualConfig : Option Json.Dict) :
    McpHandler Discovery := await (.discover server redirectUri metadataUrl manualConfig)

end Mcp

/-! ## Stores -/

structure McpStores where
  tokens : List TokenRecord := []
  registrations : List (Str × ClientRegistration) := []
  pending : List (Str × PendingState) := []

def TokenRecord.IsFor (record : TokenRecord) (tenant user server : Str) : Prop :=
  record.tenantId = tenant ∧ record.userId = user ∧ record.serverName = server

instance (record : TokenRecord) (tenant user server : Str) : Decidable (record.IsFor tenant user server) :=
  inferInstanceAs (Decidable (_ ∧ _))

namespace McpStores

def token (w : McpStores) (tenant user server : Str) : Option TokenRecord :=
  w.tokens.find? fun record => record.IsFor tenant user server

def deleteToken (w : McpStores) (tenant user server : Str) : McpStores :=
  { w with tokens := w.tokens.filter fun record => ¬record.IsFor tenant user server }

def saveToken (w : McpStores) (record : TokenRecord) : McpStores :=
  { w with tokens := record :: (w.deleteToken record.tenantId record.userId record.serverName).tokens }

def saveRegistration (w : McpStores) (server : Str) (registration : ClientRegistration) : McpStores :=
  { w with registrations := (server, registration) :: w.registrations.filter (·.1 ≠ server) }

def popState (w : McpStores) (state : Str) : McpStores :=
  { w with pending := w.pending.filter (·.1 ≠ state) }

def putState (w : McpStores) (state : Str) (pending : PendingState) : McpStores :=
  { w with pending := (state, pending) :: (w.popState state).pending }

/-- How the stores answer: whether a token has expired is for the clock to say, as is whether a
pending state has, and the rest is not theirs. -/
def Answers (w : McpStores) : (c : McpCall) → c.Reply → Prop
  | .getToken tenant user server, held =>
    Option.isSome (α := Token) held = (w.token tenant user server).isSome
  | .deleteToken tenant user server, deleted => deleted = (w.token tenant user server).isSome
  | .oauth (.getRegistration server), found => found = w.registrations.lookup server
  | .oauth (.popState state), found => found = none ∨ found = w.pending.lookup state
  | .discover _ _ _ _, _ | .saveRegistration _ _, _ | .oauth (.probeMetadata _ _), _
  | .oauth (.ensureRegistration _ _ _ _), _ | .oauth (.tokenUrlsafe _), _ | .oauth .time, _
  | .oauth (.putState _ _), _ | .oauth (.post _), _ | .oauth (.saveToken _), _
  | .oauth (.warm _ _ _ _), _ => True

def after (w : McpStores) : McpCall → McpStores
  | .deleteToken tenant user server => w.deleteToken tenant user server
  | .saveRegistration server registration => w.saveRegistration server registration
  | .oauth (.saveToken record) => w.saveToken record
  | .oauth (.putState state pending) => w.putState state pending
  | .oauth (.popState state) => w.popState state
  | _ => w

end McpStores

def McpCall.isRead : McpCall → Bool
  | .getToken _ _ _ | .oauth (.getRegistration _) | .oauth (.probeMetadata _ _)
  | .oauth (.tokenUrlsafe _) | .oauth .time | .oauth (.warm _ _ _ _) => true
  | _ => false

/-- A discovery and the post to a token endpoint are changes elsewhere. -/
def mcpStore : Store McpApi McpStores where
  answers := McpStores.Answers
  changes c := !c.isRead
  after c w := w.after c

/-! ## Endpoints -/

/-- An entry of the registry. -/
structure McpServer extends ServerInfo where
  agentNames : List Str := []

/-- What the dependencies of an endpoint give to it. -/
structure McpEnv where
  registry : Option (List (Str × McpServer)) := none
  hasTokenStore : Bool := false
  hasRegistrationStore : Bool := false
  warms : Bool := false

/-- What a process brings to the endpoints. -/
structure McpDeployment where
  apiBaseUrl : Str
  registry : Option Orchid → Option (List (Str × McpServer))
  sha256 : List UInt8 → List UInt8
  describe : Exn → Str := fun _ => []
  reason : Exn → Str := fun _ => []

namespace McpEnv

def servers (env : McpEnv) : List (Str × McpServer) := env.registry.getD []

def authRegistry (env : McpEnv) : AuthRegistry where
  empty := env.servers.isEmpty
  oauthServers := env.servers.map Prod.fst
  agentNames name := ((env.servers.lookup name).map McpServer.agentNames).getD []

def runtime (env : McpEnv) : Runtime :=
  { mcpAuthRegistry := env.registry.map fun _ => env.authRegistry, hasTokenStore := env.hasTokenStore }

def oauth (env : McpEnv) (d : McpDeployment) : OAuthConfig where
  apiBaseUrl := d.apiBaseUrl
  registry := env.registry.map fun servers => servers.map fun entry => (entry.1, entry.2.toServerInfo)
  hasTokenStore := env.hasTokenStore
  warms := env.warms
  sha256 := d.sha256
  describe := d.describe
  reason := d.reason

end McpEnv

def notOauthRequiring (serverName : Str) : Exn :=
  .http 404 ("MCP server '".toList ++ serverName ++ "' is not registered as OAuth-requiring".toList)

def discoveredBody (record : ServerRegistration) : Json.Dict :=
  [("server_name".toList, .str record.serverName), ("discovered".toList, .bool true),
    ("authorization_endpoint".toList, .str record.authorizationEndpoint),
    ("token_endpoint".toList, .str record.tokenEndpoint), ("issuer".toList, .str record.issuer),
    ("scopes_supported".toList, .str record.scopesSupported)]

/-- A manual configuration takes the place of the caller's URL. -/
def McpServer.metadataUrl (info : McpServer) (resourceMetadataUrl : Str) : Str :=
  if info.manual.isNone then resourceMetadataUrl else []

def triggerDiscovery (apiBaseUrl : Str) (env : McpEnv) (serverName resourceMetadataUrl : Str) :
    McpHandler Json.Dict :=
  match env.servers.lookup serverName with
  | none => Mcp.raise (notOauthRequiring serverName)
  | some info => do
    match ← Mcp.discover serverName (callbackUrl apiBaseUrl)
        (info.metadataUrl resourceMetadataUrl) info.manualOauthConfig with
    | .failed reason => Mcp.raise (.http 502 reason)
    | .found record => pure (discoveredBody record)

def noTokenFound : Exn := .http 404 "No token found for this server".toList

/-- The endpoint `revoke_token`, of the MCP servers' tokens. -/
def revokeServerToken (serverName : Str) (auth : AuthContext) : McpHandler Unit := do
  let deleted ← Mcp.deleteToken auth.tenantKey auth.userId serverName
  if deleted then pure () else Mcp.raise noTokenFound

inductive McpRequest where
  | servers
  | discover (serverName resourceMetadataUrl : Str)
  | authorize (serverName : Str)
  | callback (code state error : Str)
  | revoke (serverName : Str)

inductive McpReply where
  | servers (entries : List McpAuthServer)
  | discovered (fields : Json.Dict)
  | issued (response : AuthorizeResponse)
  | page (response : HtmlResponse)
  | done

/-- The browser that comes back from a provider brings no bearer token. -/
abbrev McpRequest.access : McpRequest → Access
  | servers | discover _ _ | authorize _ | revoke _ => .identified
  | callback _ _ _ => .anyone

/-- Each dependency reads the context for itself; the warm-up of the callback reads it last. -/
def McpRequest.depends (d : McpDeployment) : McpRequest → AuthHandler McpCall.Reply McpEnv
  | servers => do
    let registry ← depend fun app => .ok (d.registry app.orchid)
    let hasTokenStore ← depend fun app => .ok app.getMcpTokenStore.toBool
    let hasRegistrationStore ← depend fun app => .ok app.getMcpClientRegistrationStore.toBool
    pure { registry, hasTokenStore, hasRegistrationStore }
  | discover _ _ => do
    let registry ← depend fun app => .ok (d.registry app.orchid)
    let _store ← depend AppContext.getMcpClientRegistrationStore
    pure { registry, hasRegistrationStore := true }
  | authorize _ => do
    let registry ← depend fun app => .ok (d.registry app.orchid)
    let _states ← depend AppContext.getOauthStateStore
    let _store ← depend AppContext.getMcpClientRegistrationStore
    pure { registry, hasRegistrationStore := true }
  | callback _ _ _ => do
    let _states ← depend AppContext.getOauthStateStore
    let hasTokenStore ← depend fun app => .ok app.getMcpTokenStore.toBool
    let _store ← depend AppContext.getMcpClientRegistrationStore
    let warms ← depend fun app => .ok app.orchid.isSome
    pure { hasTokenStore, hasRegistrationStore := true, warms }
  | revoke _ => do
    let _store ← depend AppContext.getMcpTokenStore
    pure { hasTokenStore := true }

def McpRequest.handle (d : McpDeployment) :
    (asked : McpRequest) → asked.access.Party → McpEnv → McpHandler McpReply
  | servers, auth, env => do
    let entries ← (listMcpAuthServers auth env.runtime env.hasRegistrationStore).inMcp
    pure (.servers entries)
  | discover serverName resourceMetadataUrl, _, env => do
    let fields ← triggerDiscovery d.apiBaseUrl env serverName resourceMetadataUrl
    pure (.discovered fields)
  | authorize serverName, auth, env => do
    let response ← (getAuthorizeUrl (env.oauth d) serverName auth).inMcp
    pure (.issued response)
  | callback code state error, _, env => do
    let response ← (oauthCallback (env.oauth d) code state error).inMcp
    pure (.page response)
  | revoke serverName, auth, _ => do
    revokeServerToken serverName auth
    pure .done

/-- What the framework does to the stores for the agents, which are not served here. -/
inductive McpOwn where
  | refresh (record : TokenRecord)
  | drop (tenant user server : Str)
  | register (server : Str) (registration : ClientRegistration)

def McpOwn.call : McpOwn → McpCall
  | refresh record => .oauth (.saveToken record)
  | drop tenant user server => .deleteToken tenant user server
  | register server registration => .saveRegistration server registration

def mcpService (d : McpDeployment) : Service McpCall.Reply McpOwn McpRequest McpEnv McpReply McpStores where
  access := McpRequest.access
  depends := McpRequest.depends d
  handle := McpRequest.handle d
  acts := McpOwn.call
  idle := .done
  store := mcpStore

end OrchidApi
