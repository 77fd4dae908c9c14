import OrchidApi.Effects

/-! `routers/mcp_gateway_state.py`: the state that gateways share over HTTP, which are their
clients, pending authorization codes and issued tokens, behind one service token. -/
namespace OrchidApi
open Text Async

/-! ## Records -/

/-- `OrchidMCPGatewayClient` -/
structure GatewayClient where
  clientId : Str
  redirectUris : List Str
  grantTypes : List Str
  responseTypes : List Str
  tokenEndpointAuthMethod : Str
  clientName : Str
  createdAt : Rat
  deriving DecidableEq

/-- `OrchidMCPGatewayAuthCode` -/
structure GatewayAuthCode where
  code : Str
  clientId : Str
  redirectUri : Str
  codeChallenge : Str
  codeChallengeMethod : Str
  upstreamState : Str
  upstreamCodeVerifier : Str
  scopes : List Str
  clientState : Str
  identity : Option Json.Dict
  idpAccessToken : Str
  idpRefreshToken : Str
  idpExpiresAt : Rat
  createdAt : Rat

/-- `OrchidMCPGatewayToken` -/
structure GatewayToken where
  accessToken : Str
  refreshToken : Str
  clientId : Str
  subject : Str
  identity : Json.Dict
  scopes : List Str
  expiresAt : Rat
  idpAccessToken : Str
  idpRefreshToken : Str
  idpExpiresAt : Rat

/-! ## Bodies -/

/-- The creation time of a body without one is the clock's. -/
structure GatewayClientDTO where
  clientId : Str
  redirectUris : List Str
  grantTypes : List Str
  responseTypes : List Str
  tokenEndpointAuthMethod : Str := "none".toList
  clientName : Str := []
  createdAt : Rat
  deriving DecidableEq

def GatewayClientDTO.toRecord (dto : GatewayClientDTO) : GatewayClient where
  clientId := dto.clientId
  redirectUris := dto.redirectUris
  grantTypes := dto.grantTypes
  responseTypes := dto.responseTypes
  tokenEndpointAuthMethod := dto.tokenEndpointAuthMethod
  clientName := dto.clientName
  createdAt := dto.createdAt

def GatewayClientDTO.fromRecord (record : GatewayClient) : GatewayClientDTO where
  clientId := record.clientId
  redirectUris := record.redirectUris
  grantTypes := record.grantTypes
  responseTypes := record.responseTypes
  tokenEndpointAuthMethod := record.tokenEndpointAuthMethod
  clientName := record.clientName
  createdAt := record.createdAt

structure GatewayAuthCodeDTO where
  code : Str
  clientId : Str
  redirectUri : Str
  codeChallenge : Str
  codeChallengeMethod : Str
  upstreamState : Str
  upstreamCodeVerifier : Str
  scopes : List Str
  clientState : Str := []
  identity : Option Json.Dict := none
  idpAccessToken : Str := []
  idpRefreshToken : Str := []
  idpExpiresAt : Rat := 0
  createdAt : Rat

def GatewayAuthCodeDTO.toRecord (dto : GatewayAuthCodeDTO) : GatewayAuthCode where
  code := dto.code
  clientId := dto.clientId
  redirectUri := dto.redirectUri
  codeChallenge := dto.codeChallenge
  codeChallengeMethod := dto.codeChallengeMethod
  upstreamState := dto.upstreamState
  upstreamCodeVerifier := dto.upstreamCodeVerifier
  scopes := dto.scopes
  clientState := dto.clientState
  identity := dto.identity
  idpAccessToken := dto.idpAccessToken
  idpRefreshToken := dto.idpRefreshToken
  idpExpiresAt := dto.idpExpiresAt
  createdAt := dto.createdAt

def GatewayAuthCodeDTO.fromRecord (record : GatewayAuthCode) : GatewayAuthCodeDTO where
  code := record.code
  clientId := record.clientId
  redirectUri := record.redirectUri
  codeChallenge := record.codeChallenge
  codeChallengeMethod := record.codeChallengeMethod
  upstreamState := record.upstreamState
  upstreamCodeVerifier := record.upstreamCodeVerifier
  scopes := record.scopes
  clientState := record.clientState
  identity := record.identity
  idpAccessToken := record.idpAccessToken
  idpRefreshToken := record.idpRefreshToken
  idpExpiresAt := record.idpExpiresAt
  createdAt := record.createdAt

/-- A field that is `None` is left untouched. -/
structure GatewayAuthCodePatch where
  identity : Option Json.Dict := none
  idpAccessToken : Option Str := none
  idpRefreshToken : Option Str := none
  idpExpiresAt : Option Rat := none

structure GatewayTokenDTO where
  accessToken : Str
  refreshToken : Str
  clientId : Str
  subject : Str
  identity : Json.Dict
  scopes : List Str
  expiresAt : Rat
  idpAccessToken : Str := []
  idpRefreshToken : Str := []
  idpExpiresAt : Rat := 0

def GatewayTokenDTO.toRecord (dto : GatewayTokenDTO) : GatewayToken where
  accessToken := dto.accessToken
  refreshToken := dto.refreshToken
  clientId := dto.clientId
  subject := dto.subject
  identity := dto.identity
  scopes := dto.scopes
  expiresAt := dto.expiresAt
  idpAccessToken := dto.idpAccessToken
  idpRefreshToken := dto.idpRefreshToken
  idpExpiresAt := dto.idpExpiresAt

def GatewayTokenDTO.fromRecord (record : GatewayToken) : GatewayTokenDTO where
  accessToken := record.accessToken
  refreshToken := record.refreshToken
  clientId := record.clientId
  subject := record.subject
  identity := record.identity
  scopes := record.scopes
  expiresAt := record.expiresAt
  idpAccessToken := record.idpAccessToken
  idpRefreshToken := record.idpRefreshToken
  idpExpiresAt := record.idpExpiresAt

structure TokenLookup where
  accessToken : Option Str := none
  refreshToken : Option Str := none

@[simp] theorem client_fromRecord_toRecord (dto : GatewayClientDTO) : .fromRecord dto.toRecord = dto := rfl
@[simp] theorem authCode_fromRecord_toRecord (dto : GatewayAuthCodeDTO) :
    .fromRecord dto.toRecord = dto := rfl
@[simp] theorem token_fromRecord_toRecord (dto : GatewayTokenDTO) : .fromRecord dto.toRecord = dto := rfl

/-! ## Calls -/

/-- The methods of the one store behind the three interfaces. -/
inductive GatewayCall where
  | register (record : GatewayClient)
  | get (clientId : Str)
  | put (record : GatewayAuthCode)
  | getByUpstreamState (upstreamState : Str)
  | update (code : Str) (patch : GatewayAuthCodePatch)
  | consume (code : Str)
  | issue (record : GatewayToken)
  | getByAccessToken (accessToken : Str)
  | getByRefreshToken (refreshToken : Str)
  | revoke (accessToken : Str)

def GatewayCall.Reply : GatewayCall → Type
  | .get _ => Option GatewayClient
  | .getByUpstreamState _ | .consume _ => Option GatewayAuthCode
  | .getByAccessToken _ | .getByRefreshToken _ => Option GatewayToken
  | .register _ | .put _ | .update _ _ | .issue _ | .revoke _ => Unit

abbrev GatewayApi : Signature := ⟨GatewayCall, GatewayCall.Reply, Exn⟩

abbrev GatewayHandler (α : Type) : Type := Prog GatewayApi α

namespace GatewayStore

def await (c : GatewayCall) : GatewayHandler c.Reply := Prog.await (S := GatewayApi) c
def raise (error : Exn) : GatewayHandler α := Prog.raise (S := GatewayApi) error

def register (record : GatewayClient) : GatewayHandler Unit := await (.register record)
def get (clientId : Str) : GatewayHandler (Option GatewayClient) := await (.get clientId)
def put (record : GatewayAuthCode) : GatewayHandler Unit := await (.put record)
def getByUpstreamState (upstreamState : Str) : GatewayHandler (Option GatewayAuthCode) :=
  await (.getByUpstreamState upstreamState)
def update (code : Str) (patch : GatewayAuthCodePatch) : GatewayHandler Unit :=
  await (.update code patch)
def consume (code : Str) : GatewayHandler (Option GatewayAuthCode) := await (.consume code)
def issue (record : GatewayToken) : GatewayHandler Unit := await (.issue record)
def getByAccessToken (accessToken : Str) : GatewayHandler (Option GatewayToken) :=
  await (.getByAccessToken accessToken)
def getByRefreshToken (refreshToken : Str) : GatewayHandler (Option GatewayToken) :=
  await (.getByRefreshToken refreshToken)
def revoke (accessToken : Str) : GatewayHandler Unit := await (.revoke accessToken)

end GatewayStore

/-! ## The service token -/

/-- What the router reads: the setting, and whether a store is wired to a live instance. -/
structure GatewayStateConfig where
  serviceToken : Str := []
  hasStore : Bool := true

def gatewayStateDisabled : Exn :=
  .http 503 ("MCP-gateway-state endpoints are disabled.  Set ".toList ++
    "``MCP_GATEWAY_STATE_SERVICE_TOKEN`` on orchid-api to enable.".toList)
def bearerRequired : Exn := .http 401 "Bearer token required".toList
def invalidServiceToken : Exn := .http 401 "Invalid service token".toList

def requireServiceToken (cfg : GatewayStateConfig) (authorization : Option Str) : GatewayHandler Unit :=
  if cfg.serviceToken = [] then GatewayStore.raise gatewayStateDisabled
  else match authorization with
    | none => GatewayStore.raise bearerRequired
    | some header =>
      if startsWith (lower header) "bearer ".toList then
        -- the scheme ends with a blank, so there is something to split off
        if strip ((afterFirst " ".toList header).getD []) = cfg.serviceToken then pure ()
        else GatewayStore.raise invalidServiceToken
      else GatewayStore.raise bearerRequired

def gatewayStoreMissing : Exn :=
  .http 503 ("MCP-gateway-state store is not initialised.  Check ".toList ++
    "``MCP_GATEWAY_STATE_STORE_CLASS`` and ensure orchid-api ".toList ++ "completed startup.".toList)

def requireStore (cfg : GatewayStateConfig) : GatewayHandler Unit :=
  if cfg.hasStore then pure () else GatewayStore.raise gatewayStoreMissing

/-! ## Endpoints -/

def clientNotFound : Exn := .http 404 "client not found".toList
def authCodeNotFound : Exn := .http 404 "auth code not found".toList
def authCodeConsumed : Exn := .http 404 "auth code not found or already consumed".toList
def tokenNotFound : Exn := .http 404 "token not found or expired".toList
def specifyOneToken : Exn :=
  .http 400 "Specify exactly one of \x60access_token\x60 or \x60refresh_token\x60".toList

/-- A record in its wire shape, or the refusal for none. -/
def renderFound (render : α → β) (missing : Exn) : Option α → GatewayHandler β
  | some record => pure (render record)
  | none => GatewayStore.raise missing

def registerClient (cfg : GatewayStateConfig) (payload : GatewayClientDTO) : GatewayHandler Unit := do
  requireStore cfg
  GatewayStore.register payload.toRecord

def getClient (cfg : GatewayStateConfig) (clientId : Str) : GatewayHandler GatewayClientDTO := do
  requireStore cfg
  let record ← GatewayStore.get clientId
  renderFound .fromRecord clientNotFound record

def putAuthCode (cfg : GatewayStateConfig) (payload : GatewayAuthCodeDTO) : GatewayHandler Unit := do
  requireStore cfg
  GatewayStore.put payload.toRecord

def lookupAuthCodeByUpstreamState (cfg : GatewayStateConfig) (upstreamState : Str) :
    GatewayHandler GatewayAuthCodeDTO := do
  requireStore cfg
  let record ← GatewayStore.getByUpstreamState upstreamState
  renderFound .fromRecord authCodeNotFound record

def patchAuthCode (cfg : GatewayStateConfig) (code : Str) (patch : GatewayAuthCodePatch) :
    GatewayHandler Unit := do
  requireStore cfg
  GatewayStore.update code patch

def consumeAuthCode (cfg : GatewayStateConfig) (code : Str) : GatewayHandler GatewayAuthCodeDTO := do
  requireStore cfg
  let record ← GatewayStore.consume code
  renderFound .fromRecord authCodeConsumed record

def issueToken (cfg : GatewayStateConfig) (payload : GatewayTokenDTO) : GatewayHandler Unit := do
  requireStore cfg
  GatewayStore.issue payload.toRecord

/-- `bool` of an optional text -/
def isGiven : Option Str → Bool
  | some (_ :: _) => true
  | _ => false

def introspectToken (cfg : GatewayStateConfig) (body : TokenLookup) : GatewayHandler GatewayTokenDTO :=
  if isGiven body.accessToken = isGiven body.refreshToken then GatewayStore.raise specifyOneToken
  else do
    requireStore cfg
    let record ← if isGiven body.accessToken then
        GatewayStore.getByAccessToken (body.accessToken.getD [])
      else GatewayStore.getByRefreshToken (body.refreshToken.getD [])
    renderFound .fromRecord tokenNotFound record

def revokeToken (cfg : GatewayStateConfig) (accessToken : Str) : GatewayHandler Unit := do
  requireStore cfg
  GatewayStore.revoke accessToken

inductive GatewayEndpoint where
  | registerClient (payload : GatewayClientDTO)
  | getClient (clientId : Str)
  | putAuthCode (payload : GatewayAuthCodeDTO)
  | lookupAuthCodeByUpstreamState (upstreamState : Str)
  | patchAuthCode (code : Str) (patch : GatewayAuthCodePatch)
  | consumeAuthCode (code : Str)
  | issueToken (payload : GatewayTokenDTO)
  | introspectToken (body : TokenLookup)
  | revokeToken (accessToken : Str)

structure GatewayRequest where
  authorization : Option Str
  endpoint : GatewayEndpoint

inductive GatewayReply where
  | noContent
  | client (body : GatewayClientDTO)
  | authCode (body : GatewayAuthCodeDTO)
  | token (body : GatewayTokenDTO)

def handleGateway (cfg : GatewayStateConfig) : GatewayEndpoint → GatewayHandler GatewayReply
  | .registerClient payload => registerClient cfg payload >>= fun _ => pure .noContent
  | .getClient clientId => getClient cfg clientId >>= fun body => pure (.client body)
  | .putAuthCode payload => putAuthCode cfg payload >>= fun _ => pure .noContent
  | .lookupAuthCodeByUpstreamState upstreamState =>
    lookupAuthCodeByUpstreamState cfg upstreamState >>= fun body => pure (.authCode body)
  | .patchAuthCode code patch => patchAuthCode cfg code patch >>= fun _ => pure .noContent
  | .consumeAuthCode code => consumeAuthCode cfg code >>= fun body => pure (.authCode body)
  | .issueToken payload => issueToken cfg payload >>= fun _ => pure .noContent
  | .introspectToken body => introspectToken cfg body >>= fun body => pure (.token body)
  | .revokeToken accessToken => revokeToken cfg accessToken >>= fun _ => pure .noContent

/-- The dependency of the route, then its endpoint. -/
def GatewayRequest.handle (cfg : GatewayStateConfig) (request : GatewayRequest) :
    GatewayHandler GatewayReply := do
  requireServiceToken cfg request.authorization
  handleGateway cfg request.endpoint

end OrchidApi
