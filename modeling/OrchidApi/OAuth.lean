import OrchidApi.Effects
import OrchidApi.Encoding

/-! `routers/_mcp_auth/authorize.py`, `callback.py` and `_helpers.py`: the authorization URL of
an MCP server, the callback that exchanges a code for a token, and the pages it answers. -/
namespace OrchidApi
open Text Async Encoding

/-! ## Records -/

/-- `OrchidMCPClientRegistration` -/
structure ClientRegistration where
  authorizationEndpoint : Str
  tokenEndpoint : Str
  clientId : Str
  clientSecret : Str := []
  usesBasicAuth : Bool := false
  scopesSupported : Str := []
  deriving DecidableEq, Repr

/-- `OrchidOAuthPendingState` -/
structure PendingState where
  serverName : Str
  tenantId : Str
  userId : Str
  codeVerifier : Str
  tokenEndpoint : Str
  createdAt : Rat

/-- `OrchidMCPTokenRecord`; the token endpoint chooses the values of the tokens. -/
structure TokenRecord where
  serverName : Str
  tenantId : Str
  userId : Str
  accessToken : Json.Value
  refreshToken : Json.Value
  expiresAt : Rat
  scopes : Str
  createdAt : Rat
  updatedAt : Rat

structure TokenRequest where
  endpoint : Str
  data : List (Str × Str)
  basicAuth : Option (Str × Str)
  deriving DecidableEq, Repr

/-- A reply of the token endpoint; `json` is what `resp.json()` returns or raises. -/
structure TokenResponse where
  statusCode : Nat
  text : Str
  json : Except Exn Json.Value

structure HtmlResponse where
  content : Str
  statusCode : Nat := 200
  deriving DecidableEq, Repr

structure AuthorizeResponse where
  authorizeUrl : Str
  state : Str
  deriving DecidableEq, Repr

structure ServerInfo where
  url : Str
  manualOauthConfig : Option Json.Dict := none

/-- An empty configuration counts as none. -/
def ServerInfo.manual (info : ServerInfo) : Option Json.Dict :=
  info.manualOauthConfig.filter fun config => !config.isEmpty

/-- What the endpoints read of the settings and the runtime, the digest of `hashlib`, and the
texts of an exception: `str(exc)` and `exc.reason`. -/
structure OAuthConfig where
  apiBaseUrl : Str
  registry : Option (List (Str × ServerInfo))
  hasTokenStore : Bool := true
  warms : Bool := true
  sha256 : List UInt8 → List UInt8
  describe : Exn → Str := fun _ => []
  reason : Exn → Str := fun _ => []

/-! ## Calls -/

inductive OAuthCall where
  | getRegistration (server : Str)
  | probeMetadata (url server : Str)
  | ensureRegistration (server redirectUri metadataUrl : Str) (manualConfig : Option Json.Dict)
  | tokenUrlsafe (bytes : Nat)
  | time
  | putState (state : Str) (pending : PendingState)
  | popState (state : Str)
  | post (request : TokenRequest)
  | saveToken (record : TokenRecord)
  | warm (tenant user : Str) (accessToken : Json.Value) (server : Str)

def OAuthCall.Reply : OAuthCall → Type
  | .getRegistration _ => Option ClientRegistration
  | .probeMetadata _ _ => Str
  | .ensureRegistration _ _ _ _ => ClientRegistration
  | .tokenUrlsafe _ => Str
  | .time => Rat
  | .popState _ => Option PendingState
  | .post _ => TokenResponse
  | .putState _ _ | .saveToken _ | .warm _ _ _ _ => Unit

abbrev OAuthApi : Signature := ⟨OAuthCall, OAuthCall.Reply, Exn⟩

abbrev OAuthHandler (α : Type) : Type := Prog OAuthApi α

namespace OAuth

def await (c : OAuthCall) : OAuthHandler c.Reply := Prog.await (S := OAuthApi) c
def raise (error : Exn) : OAuthHandler α := Prog.raise (S := OAuthApi) error

def getRegistration (server : Str) : OAuthHandler (Option ClientRegistration) :=
  await (.getRegistration server)
def probeMetadata (url server : Str) : OAuthHandler Str := await (.probeMetadata url server)
def ensureRegistration (server redirectUri metadataUrl : Str) (manualConfig : Option Json.Dict) :
    OAuthHandler ClientRegistration :=
  await (.ensureRegistration server redirectUri metadataUrl manualConfig)
def tokenUrlsafe (bytes : Nat) : OAuthHandler Str := await (.tokenUrlsafe bytes)
def time : OAuthHandler Rat := await .time
def putState (state : Str) (pending : PendingState) : OAuthHandler Unit :=
  await (.putState state pending)
def popState (state : Str) : OAuthHandler (Option PendingState) := await (.popState state)
def post (request : TokenRequest) : OAuthHandler TokenResponse := await (.post request)
def saveToken (record : TokenRecord) : OAuthHandler Unit := await (.saveToken record)
def warm (tenant user : Str) (accessToken : Json.Value) (server : Str) : OAuthHandler Unit :=
  await (.warm tenant user accessToken server)

end OAuth

/-! ## PKCE and the redirect URI -/

def generateCodeVerifier (length : Nat) : OAuthHandler Str := do
  let token ← OAuth.tokenUrlsafe length
  pure (token.take 128)

/-- `str.encode("ascii")`; there is no value for other texts. -/
def encodeAscii (s : Str) : Option (List UInt8) :=
  s.mapM fun c => if c.toNat < 128 then some (UInt8.ofNat c.toNat) else none

def generateCodeChallenge (sha256 : List UInt8 → List UInt8) (verifier : Str) : Except Exn Str :=
  match encodeAscii verifier with
  | some bytes => .ok ((urlsafeB64encode (sha256 bytes)).rdropWhile (· = '='))
  | none => .error .other

def callbackUrl (apiBaseUrl : Str) : Str :=
  apiBaseUrl.rdropWhile (· = '/') ++ "/mcp/auth/callback".toList

/-! ## Pages -/

def closingScript : Str := "<script>window.close();</script></body></html>".toList

def renderSimpleMessagePage (heading : Str) (status : Nat) (detail : Str) : HtmlResponse :=
  let detailHtml := if detail.isEmpty then [] else "<p>".toList ++ escape detail ++ "</p>".toList
  ⟨"<html><body><h2>".toList ++ escape heading ++ "</h2>".toList ++ detailHtml ++ closingScript, status⟩

def renderTokenExchangeFailurePage (bodyText : Str) (status : Nat) : HtmlResponse :=
  ⟨"<html><body><h2>Token exchange failed (".toList ++ Nat.toDigits 10 status ++ ")</h2>".toList ++
    "<pre>".toList ++ escape (bodyText.take 1000) ++ "</pre>".toList ++ closingScript, status⟩

/-- `str.replace("</", "<\/")` -/
def neutralise : Str → Str
  | '<' :: '/' :: rest => '<' :: '\x5c' :: '/' :: neutralise rest
  | c :: rest => c :: neutralise rest
  | [] => []

def renderCallbackSuccessPage (serverName : Str) : Str :=
  let payload := neutralise (dumpsDict [("type".toList, "mcp-auth-complete".toList),
    ("server".toList, serverName)])
  "<html><body><h2>Authorization successful</h2>".toList ++
    "<p>You can close this window.</p>".toList ++ "<script>".toList ++
    "window.opener?.postMessage(".toList ++ payload ++ ", \"*\");".toList ++
    "setTimeout(function() \x7b window.close(); \x7d, 1000);".toList ++
    "</script></body></html>".toList

/-! ## Token exchange -/

/-- `None` is null in `data`. -/
structure TokenExchangeOutcome where
  data : Json.Value := .null
  htmlBody : Option Str := none
  status : Nat := 200

def HtmlResponse.outcome (page : HtmlResponse) : TokenExchangeOutcome :=
  { htmlBody := some page.content, status := page.statusCode }

def tokenRequest (tokenEndpoint redirectUri code codeVerifier : Str)
    (registration : ClientRegistration) : TokenRequest :=
  let requestData := [("grant_type".toList, "authorization_code".toList), ("code".toList, code),
    ("redirect_uri".toList, redirectUri), ("client_id".toList, registration.clientId),
    ("code_verifier".toList, codeVerifier)]
  if registration.clientSecret.isEmpty then ⟨tokenEndpoint, requestData, none⟩
  else if registration.usesBasicAuth then
    ⟨tokenEndpoint, requestData, some (registration.clientId, registration.clientSecret)⟩
  else ⟨tokenEndpoint, requestData ++ [("client_secret".toList, registration.clientSecret)], none⟩

def exchangeAuthorizationCode (cfg : OAuthConfig) (tokenEndpoint redirectUri code codeVerifier : Str)
    (registration : ClientRegistration) : OAuthHandler TokenExchangeOutcome :=
  (OAuth.post (tokenRequest tokenEndpoint redirectUri code codeVerifier registration)).attempt fun
    | .error error =>
      if error.isException then
        pure (renderSimpleMessagePage "Token exchange failed".toList 500 (cfg.describe error)).outcome
      else OAuth.raise error
    | .ok resp =>
      if resp.statusCode ≥ 400 then
        pure (renderTokenExchangeFailurePage resp.text resp.statusCode).outcome
      else match resp.json with
        | .ok data => pure { data }
        | .error error => OAuth.raise error

/-! ## The callback -/

/-- An `int` from `2 ^ 1024 - 2 ^ 970` on does not convert to a `float`. -/
def overflowsFloat (n : Int) : Bool := (1 <<< 54) - 1 ≤ n.natAbs >>> 970

/-- `now + data.get("expires_in", 3600)`, where `now` is a `float` -/
def expiresAt (now : Rat) (fields : Json.Dict) : Except Exn Rat :=
  match (fields.lookup "expires_in".toList).getD (.num 3600) with
  | .num seconds => if overflowsFloat seconds then .error .other else .ok (now + seconds)
  | .real seconds => .ok (now + seconds)
  | .bool flag => .ok (now + if flag then 1 else 0)
  | _ => .error .other

/-- Data that is not an object, and an object without an access token, raise. -/
def tokenRecord (pending : PendingState) (registration : ClientRegistration) (data : Json.Value)
    (now : Rat) : Except Exn TokenRecord :=
  match data with
  | .obj fields =>
    match fields.lookup "access_token".toList, expiresAt now fields with
    | some accessToken, .ok expires => .ok
      { serverName := pending.serverName, tenantId := pending.tenantId, userId := pending.userId,
        accessToken, refreshToken := (fields.lookup "refresh_token".toList).getD (.str []),
        expiresAt := expires, scopes := registration.scopesSupported, createdAt := now,
        updatedAt := now }
    | _, _ => .error .other
  | _ => .error .other

/-- A failure of the warm-up is only logged. -/
def warmAuthorized (cfg : OAuthConfig) (pending : PendingState) (record : TokenRecord) :
    OAuthHandler Unit :=
  if cfg.warms then
    (OAuth.warm pending.tenantId pending.userId record.accessToken pending.serverName).attempt fun
      | .ok _ => pure ()
      | .error error => if error.isException then pure () else OAuth.raise error
  else pure ()

def saveRecord (cfg : OAuthConfig) (record : TokenRecord) : OAuthHandler Unit :=
  if cfg.hasTokenStore then OAuth.saveToken record else pure ()

/-- The rest of the callback, once the token endpoint has answered. -/
def storeToken (cfg : OAuthConfig) (pending : PendingState) (registration : ClientRegistration)
    (data : Json.Value) : OAuthHandler HtmlResponse := do
  let now ← OAuth.time
  match tokenRecord pending registration data now with
  | .error error => OAuth.raise error
  | .ok record =>
    saveRecord cfg record
    warmAuthorized cfg pending record
    pure ⟨renderCallbackSuccessPage pending.serverName, 200⟩

def PendingState.tokenEndpointOr (pending : PendingState) (registration : ClientRegistration) : Str :=
  if pending.tokenEndpoint.isEmpty then registration.tokenEndpoint else pending.tokenEndpoint

/-- The callback for a state that was pending. -/
def redeem (cfg : OAuthConfig) (code : Str) (pending : PendingState) : OAuthHandler HtmlResponse := do
  match ← OAuth.getRegistration pending.serverName with
  | none =>
    pure (renderSimpleMessagePage ("Unknown server: ".toList ++ pending.serverName) 500 [])
  | some registration =>
    let tokenEndpoint := pending.tokenEndpointOr registration
    if tokenEndpoint.isEmpty then
      pure (renderSimpleMessagePage "No token endpoint available".toList 500 [])
    else do
      let outcome ← exchangeAuthorizationCode cfg tokenEndpoint (callbackUrl cfg.apiBaseUrl) code
        pending.codeVerifier registration
      match outcome.htmlBody, outcome.data with
      | some body, _ => pure ⟨body, outcome.status⟩
      | none, .null => OAuth.raise .other
      | none, data => storeToken cfg pending registration data

def oauthCallback (cfg : OAuthConfig) (code state error : Str) : OAuthHandler HtmlResponse :=
  if error ≠ [] then pure (renderSimpleMessagePage "Authorization failed".toList 400 error)
  else if code = [] ∨ state = [] then
    pure (renderSimpleMessagePage "Missing code or state".toList 400 [])
  else do
    match ← OAuth.popState state with
    | none => pure (renderSimpleMessagePage "Invalid or expired state".toList 400 [])
    | some pending => redeem cfg code pending

/-! ## The authorization URL -/

def discover (cfg : OAuthConfig) (serverName : Str) (info : ServerInfo) :
    OAuthHandler ClientRegistration :=
  match info.manual with
  | some manual => OAuth.ensureRegistration serverName (callbackUrl cfg.apiBaseUrl) [] (some manual)
  | none => do
    let metadataUrl ← OAuth.probeMetadata info.url serverName
    OAuth.ensureRegistration serverName (callbackUrl cfg.apiBaseUrl) metadataUrl none

/-- The stored registration, or a new one from discovery. -/
def registrationFor (cfg : OAuthConfig) (serverName : Str) (info : ServerInfo) :
    OAuthHandler ClientRegistration := do
  match ← OAuth.getRegistration serverName with
  | some registration => pure registration
  | none =>
    (discover cfg serverName info).attempt fun
      | .ok registration => pure registration
      | .error error =>
        if error.isException then OAuth.raise (.http 502 (cfg.reason error)) else OAuth.raise error

def authorizeParams (cfg : OAuthConfig) (registration : ClientRegistration)
    (state codeChallenge : Str) : List (Str × Str) :=
  [("response_type".toList, "code".toList), ("client_id".toList, registration.clientId),
    ("redirect_uri".toList, callbackUrl cfg.apiBaseUrl),
    ("scope".toList, if registration.scopesSupported.isEmpty then "openid".toList
      else registration.scopesSupported),
    ("state".toList, state), ("code_challenge".toList, codeChallenge),
    ("code_challenge_method".toList, "S256".toList)]

/-- The state is put before the URL is returned. -/
def putPending (cfg : OAuthConfig) (serverName : Str) (auth : AuthContext)
    (registration : ClientRegistration) (codeVerifier codeChallenge : Str) :
    OAuthHandler AuthorizeResponse := do
  let state ← OAuth.tokenUrlsafe 32
  let createdAt ← OAuth.time
  OAuth.putState state ⟨serverName, auth.tenantKey, auth.userId, codeVerifier,
    registration.tokenEndpoint, createdAt⟩
  pure ⟨registration.authorizationEndpoint ++
    '?' :: urlencode (authorizeParams cfg registration state codeChallenge), state⟩

def issueState (cfg : OAuthConfig) (serverName : Str) (auth : AuthContext)
    (registration : ClientRegistration) : OAuthHandler AuthorizeResponse := do
  let codeVerifier ← generateCodeVerifier 64
  match generateCodeChallenge cfg.sha256 codeVerifier with
  | .error error => OAuth.raise error
  | .ok codeChallenge => putPending cfg serverName auth registration codeVerifier codeChallenge

def noAuthRegistry : Exn := .http 404 "No MCP auth registry configured".toList

def serverNotOAuth (serverName : Str) : Exn :=
  .http 404 ("MCP server '".toList ++ serverName ++ "' not found or does not require OAuth".toList)

def lacksAuthorizationEndpoint (serverName : Str) : Exn :=
  .http 500 ("Stored registration for '".toList ++ serverName ++ "' lacks an ".toList ++
    "authorization_endpoint — delete the row and re-run discovery.".toList)

def getAuthorizeUrl (cfg : OAuthConfig) (serverName : Str) (auth : AuthContext) :
    OAuthHandler AuthorizeResponse :=
  match cfg.registry with
  | none => OAuth.raise noAuthRegistry
  | some servers =>
    match servers.lookup serverName with
    | none => OAuth.raise (serverNotOAuth serverName)
    | some info => do
      let registration ← registrationFor cfg serverName info
      if registration.authorizationEndpoint.isEmpty then
        OAuth.raise (lacksAuthorizationEndpoint serverName)
      else issueState cfg serverName auth registration

end OrchidApi
