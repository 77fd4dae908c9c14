import OrchidApi.AsyncFront
import OrchidApi.ChatRequests
import OrchidApi.Lifecycle

/-! `auth.py` and `dev_identity.py`, from the headers of a request to the identity that it
acts as, and the unauthenticated endpoints of `routers/auth_info.py`, `auth_exchange.py` and
`auth_identity.py` that downstream clients configure themselves by. -/
namespace OrchidApi
open Text Async

/-! ## Identities -/

/-- `OrchidAuthContext` with what the endpoints read besides the identity; `domain` is an
attribute that only some of its subclasses have. -/
structure ResolvedContext where
  auth : AuthContext
  accessToken : Str
  isExpired : Bool := false
  extra : Json.Dict := []
  domain : Option Str := none

/-- What `resolve` of a resolver ends with: a context, or an `OrchidIdentityError`. -/
inductive Resolution where
  | context (ctx : ResolvedContext)
  | identityError (statusCode : Int) (message : Str)

/-- `DevBypassIdentityResolver.resolve`, whatever it is asked. -/
def devContext (accessToken : Str) : ResolvedContext :=
  { auth := { tenantKey := "99999".toList, userId := "dev-user-00000000".toList }, accessToken }

/-- `OrchidUpstreamOAuthConfig`, and the block of `/auth-info` that mirrors it. -/
structure UpstreamOAuthConfig where
  issuerUrl : Str
  authorizationEndpoint : Str
  tokenEndpoint : Str
  clientId : Str
  userinfoEndpoint : Option Str := none
  scope : Str := []
  authDomain : Option Str := none
  userinfoSubPath : Option Str := none
  userinfoEmailPath : Option Str := none
  exchangeViaApi : Bool := false
  resolveViaApi : Bool := false
  refreshViaApi : Bool := false
  deriving DecidableEq

structure ExchangeCodeResponse where
  accessToken : Str
  tokenType : Str := "Bearer".toList
  refreshToken : Option Str := none
  expiresIn : Option Int := none
  scope : Option Str := none
  deriving DecidableEq

/-- What a grant ends with at the exchange client; the default `refresh_token` of the base
class raises `NotImplementedError`. -/
inductive Grant where
  | token (response : ExchangeCodeResponse)
  | exchangeError (statusCode : Int) (message : Str)
  | notImplemented

structure AuthSettings where
  devAuthBypass : Bool := false
  devBypassToken : Str := "dev-token".toList
  authDomain : Str := []

/-! ## Calls in front -/

/-- `createTask` starts the warm-up of an identity in the background, unless no loop is
running. -/
inductive AuthCall where
  | appCtx
  | resolve (resolver : IdentityResolver) (domain bearerToken : Str)
  | isWarmed (ctx : ResolvedContext)
  | createTask (ctx : ResolvedContext)
  | getOauthConfig (provider : LoadedClass) (domain : Option Str)
  | exchangeCode (client : LoadedClass) (code redirectUri : Str) (codeVerifier domain : Option Str)
  | refreshToken (client : LoadedClass) (refreshToken : Str) (domain : Option Str)

def AuthCall.Reply : AuthCall → Type
  | .appCtx => AppContext
  | .resolve _ _ _ => Resolution
  | .isWarmed _ | .createTask _ => Bool
  | .getOauthConfig _ _ => Option UpstreamOAuthConfig
  | .exchangeCode _ _ _ _ _ | .refreshToken _ _ _ => Grant

/-- The calls in front of any others. -/
abbrev FrontApi {D : Type} (Q : D → Type) : Signature := Signature.fronted ⟨D, Q, Exn⟩ AuthCall AuthCall.Reply

abbrev AuthHandler {D : Type} (Q : D → Type) (α : Type) : Type := Prog (FrontApi Q) α

variable {D : Type} {Q : D → Type}

namespace Auth

def await (c : AuthCall) : AuthHandler Q c.Reply := Prog.await (S := FrontApi Q) (.inl c)
def raise (error : Exn) : AuthHandler Q α := Prog.raise (S := FrontApi Q) error

def appCtx : AuthHandler Q AppContext := await .appCtx
def isWarmed (ctx : ResolvedContext) : AuthHandler Q Bool := await (.isWarmed ctx)
def createTask (ctx : ResolvedContext) : AuthHandler Q Bool := await (.createTask ctx)
def getOauthConfig (provider : LoadedClass) (domain : Option Str) :
    AuthHandler Q (Option UpstreamOAuthConfig) := await (.getOauthConfig provider domain)
def exchangeCode (client : LoadedClass) (code redirectUri : Str) (codeVerifier domain : Option Str) :
    AuthHandler Q Grant := await (.exchangeCode client code redirectUri codeVerifier domain)
def refreshToken (client : LoadedClass) (refreshToken : Str) (domain : Option Str) : AuthHandler Q Grant :=
  await (.refreshToken client refreshToken domain)

end Auth

/-- The one resolver of this repository answers by itself. -/
def IdentityResolver.resolve (resolver : IdentityResolver) (domain bearerToken : Str) :
    AuthHandler Q Resolution :=
  match resolver with
  | .devBypass accessToken => pure (.context (devContext accessToken))
  | .custom _ _ => Auth.await (.resolve resolver domain bearerToken)

/-! ## The dependency of the routers -/

structure AuthHeaders where
  authorization : Str
  xAuthDomain : Option Str := none

def scheduleWarmForUser (ctx : ResolvedContext) : AuthHandler Q Unit := do
  let app ← Auth.appCtx
  if app.orchid.isSome then do
    let warmed ← Auth.isWarmed ctx
    if warmed then pure ()
    else do
      let _running ← Auth.createTask ctx
      pure ()
  else pure ()

def missingBearer : Exn := .http 401 "Missing Bearer token".toList
def resolverMissing : Exn := .http 503 "Identity resolver not configured".toList
def tokenExpired : Exn := .http 401 "Token is expired".toList

/-- The status of an identity error is passed on where it is 401 or 403, its message never. -/
def identityRefusal (statusCode : Int) : Exn :=
  if statusCode = 403 then .http 403 "Forbidden".toList
  else .http 401 "Authentication failed".toList

/-- `hint or settings.auth_domain`. -/
def routingDomain (s : AuthSettings) (hint : Option Str) : Str :=
  if hint.getD [] = [] then s.authDomain else hint.getD []

/-- From the resolver's answer on. -/
def acceptResolution : Resolution → AuthHandler Q ResolvedContext
  | .identityError statusCode _ => Auth.raise (identityRefusal statusCode)
  | .context ctx =>
    if ctx.isExpired then Auth.raise tokenExpired
    else do
      scheduleWarmForUser ctx
      pure ctx

def getAuthContext (s : AuthSettings) (h : AuthHeaders) : AuthHandler Q ResolvedContext :=
  if s.devAuthBypass then do
    scheduleWarmForUser (devContext s.devBypassToken)
    pure (devContext s.devBypassToken)
  else if startsWith h.authorization "Bearer ".toList then do
    let app ← Auth.appCtx
    match app.identityResolver with
    | none => Auth.raise resolverMissing
    | some resolver => do
      let resolution ← resolver.resolve (routingDomain s h.xAuthDomain) (h.authorization.drop 7)
      acceptResolution resolution
  else Auth.raise missingBearer

/-! ## `GET /auth-info` -/

structure AuthInfo where
  devBypass : Bool
  identityResolverConfigured : Bool
  oauth : Option UpstreamOAuthConfig := none
  deriving DecidableEq

/-- The provider opted in, a client is wired, and its class overrides `refresh_token`. -/
def refreshViaApiAvailable (app : AppContext) (resolved : UpstreamOAuthConfig) : Bool :=
  if !resolved.refreshViaApi then false
  else match app.authExchangeClient with
    | none => false
    | some client => client.overridesRefresh

/-- What the provider discloses, with each flag as this process can honour it. -/
def advertised (app : AppContext) (resolved : UpstreamOAuthConfig) : UpstreamOAuthConfig :=
  { resolved with
    exchangeViaApi := resolved.exchangeViaApi && app.authExchangeClient.isSome
    resolveViaApi := resolved.resolveViaApi && app.identityResolver.isSome
    refreshViaApi := refreshViaApiAvailable app resolved }

def getAuthInfo (s : AuthSettings) (domain : Option Str) : AuthHandler Q AuthInfo := do
  let app ← Auth.appCtx
  let info (oauth : Option UpstreamOAuthConfig) : AuthInfo :=
    ⟨s.devAuthBypass, app.identityResolver.isSome, oauth⟩
  match app.authConfigProvider with
  | none => pure (info none)
  | some provider => do
    let resolved ← Auth.getOauthConfig provider domain
    pure (info (resolved.map (advertised app)))

/-! ## `POST /auth/exchange-code` and `POST /auth/refresh-token` -/

structure ExchangeCodeRequest where
  code : Str
  redirectUri : Str
  codeVerifier : Option Str := none
  authDomain : Option Str := none

structure RefreshTokenRequest where
  refreshToken : Str
  authDomain : Option Str := none

def exchangeUnwired : Exn :=
  .http 503 ("OAuth exchange proxy is not configured.  Wire an ".toList ++
    "``OrchidAuthExchangeClient`` subclass via ".toList ++
    "``auth.auth_exchange_client_class`` in ``orchid.yml``.".toList)

def refreshUnavailable : Exn :=
  .http 503 ("OAuth refresh proxy is not available — the wired ".toList ++
    "``OrchidAuthExchangeClient`` does not implement ".toList ++ "``refresh_token``.".toList)

/-- Rejections by the upstream are 400, the rest is a broken proxy. -/
def upstreamRefusal (statusCode : Int) (message : Str) : Exn :=
  .http (if 400 ≤ statusCode ∧ statusCode < 500 then 400 else 502) message

def exchangeCode (r : ExchangeCodeRequest) : AuthHandler Q ExchangeCodeResponse := do
  let app ← Auth.appCtx
  match app.authExchangeClient with
  | none => Auth.raise exchangeUnwired
  | some client =>
    match ← Auth.exchangeCode client r.code r.redirectUri r.codeVerifier r.authDomain with
    | .token response => pure response
    | .exchangeError statusCode message => Auth.raise (upstreamRefusal statusCode message)
    | .notImplemented => Auth.raise .other

def refreshToken (r : RefreshTokenRequest) : AuthHandler Q ExchangeCodeResponse := do
  let app ← Auth.appCtx
  match app.authExchangeClient with
  | none => Auth.raise exchangeUnwired
  | some client =>
    match ← Auth.refreshToken client r.refreshToken r.authDomain with
    | .token response => pure response
    | .exchangeError statusCode message => Auth.raise (upstreamRefusal statusCode message)
    | .notImplemented => Auth.raise refreshUnavailable

/-! ## `POST /auth/resolve-identity` -/

structure ResolveIdentityRequest where
  accessToken : Str
  authDomain : Option Str := none

structure ResolveIdentityResponse where
  subject : Str
  bearer : Str
  authDomain : Str := []
  email : Str := []
  extra : Json.Dict := []

def resolverUnwired : Exn :=
  .http 503 ("Identity resolver is not configured.  Wire an ".toList ++
    "``OrchidIdentityResolver`` subclass via ".toList ++
    "``auth.identity_resolver_class`` in ``orchid.yml``.".toList)

/-- An answer of the upstream is 401, anything else is a broken proxy. -/
def resolverRefusal (statusCode : Int) (message : Str) : Exn :=
  .http (if 0 < statusCode ∧ statusCode < 500 then 401 else 502) message

/-- Whether a value is true where a condition is expected. -/
def isTruthy : Json.Value → Bool
  | .null => false
  | .bool b => b
  | .num n => n ≠ 0
  | .real q => q ≠ 0
  | .str s => s ≠ []
  | .arr items => !items.isEmpty
  | .obj fields => !fields.isEmpty

def popKey (key : Str) (d : Json.Dict) : Json.Dict := d.filter (·.1 ≠ key)

/-- The email leaves `extra` for its own field, and so does a domain of it that is used.
`str` is Python's, of any value. -/
def projectIdentity (str : Json.Value → Str) (domain : Str) (ctx : ResolvedContext) :
    ResolveIdentityResponse :=
  let email := ((ctx.extra.lookup "email".toList).map str).getD []
  let extra := popKey "email".toList ctx.extra
  match ctx.domain.filter (· ≠ []) with
  | some own => ⟨ctx.auth.userId, ctx.accessToken, own, email, extra⟩
  | none =>
    let given := (extra.lookup "domain".toList).filter isTruthy
    ⟨ctx.auth.userId, ctx.accessToken, (given.map str).getD domain, email, popKey "domain".toList extra⟩

def resolveIdentity (str : Json.Value → Str) (s : AuthSettings) (r : ResolveIdentityRequest) :
    AuthHandler Q ResolveIdentityResponse := do
  let app ← Auth.appCtx
  match app.identityResolver with
  | none => Auth.raise resolverUnwired
  | some resolver =>
    match ← resolver.resolve (routingDomain s r.authDomain) r.accessToken with
    | .identityError statusCode message => Auth.raise (resolverRefusal statusCode message)
    | .context ctx => pure (projectIdentity str (routingDomain s r.authDomain) ctx)

end OrchidApi
