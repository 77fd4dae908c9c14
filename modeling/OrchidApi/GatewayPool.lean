import Mathlib.Logic.Function.Basic
import OrchidApi.AsyncSerial
import OrchidApi.GatewayState

/-! Any number of gateways sharing one state over HTTP: whatever the interleaving and the
store, each request happens at once or not at all, and none without the service token. -/
namespace OrchidApi
open Text Async

/-! ## The gate -/

/-- A bearer scheme in any case, a blank, and the service token with any whitespace around it. -/
def Bears (serviceToken : Str) (authorization : Option Str) : Prop :=
  serviceToken ≠ [] ∧ ∃ scheme token, authorization = some (scheme ++ ' ' :: token) ∧
    lower scheme = "bearer".toList ∧ strip token = serviceToken

/-- The refusal of a header that does not bear the token. -/
def serviceRefusal (serviceToken : Str) (authorization : Option Str) : Exn :=
  if serviceToken = [] then gatewayStateDisabled
  else if startsWith (lower (authorization.getD [])) "bearer ".toList then invalidServiceToken
  else bearerRequired

theorem toLower_blank {c : Char} (blank : c.toLower = ' ') : c = ' ' := by
  unfold Char.toLower at blank
  split at blank
  · rename_i upper
    obtain ⟨above, below⟩ := upper
    have range : 65 ≤ c.val.toNat ∧ c.val.toNat ≤ 90 := ⟨above, below⟩
    have value := congrArg (fun d : Char => d.val.toNat) blank
    have sum : (c.val + ('a'.val - 'A'.val)).toNat = c.val.toNat + 32 := by
      rw [UInt32.toNat_add, show ('a'.val - 'A'.val).toNat = 32 by decide]
      exact Nat.mod_eq_of_lt (by omega)
    simp only [sum] at value
    have blanks : ' '.val.toNat = 32 := rfl
    omega
  · exact blank

/-- A header with the scheme is the scheme, a blank and the rest. -/
theorem bearer_split {header : Str} :
    startsWith (lower header) "bearer ".toList = true ↔
      ∃ scheme token, header = scheme ++ ' ' :: token ∧ lower scheme = "bearer".toList := by
  rw [startsWith_iff]
  constructor
  · rintro ⟨rest, whole⟩
    have pieces : "bearer".toList ++ ([' '] ++ rest) = lower header := whole
    obtain ⟨scheme, tail, rfl, folded, tailed⟩ := List.map_eq_append_iff.mp pieces.symm
    obtain ⟨blank, token, rfl, same, _⟩ := List.map_eq_append_iff.mp tailed
    obtain ⟨c, rfl, folds⟩ := List.map_eq_singleton_iff.mp same
    exact ⟨scheme, token, by rw [toLower_blank folds]; rfl, folded⟩
  · rintro ⟨scheme, token, rfl, bearer⟩
    refine ⟨lower token, ?_⟩
    have whole : lower (scheme ++ ' ' :: token) = lower scheme ++ lower (' ' :: token) := List.map_append
    rw [whole, bearer]
    rfl

theorem afterFirst_bearer {scheme : Str} (token : Str) (bearer : lower scheme = "bearer".toList) :
    afterFirst " ".toList (scheme ++ ' ' :: token) = some token := by
  have solid : ∀ c ∈ scheme, c ≠ ' ' := by
    rintro c member rfl
    have folded : Char.toLower ' ' ∈ lower scheme := List.mem_map_of_mem member
    rw [bearer] at folded
    exact absurd folded (by decide)
  clear bearer
  induction scheme with
  | nil => rfl
  | cons c rest ih =>
    have other : startsWith (c :: (rest ++ ' ' :: token)) " ".toList = false := by
      have distinct : (' ' == c) = false := beq_false_of_ne (solid c (.head _)).symm
      rw [startsWith, show " ".toList = [' '] from rfl, List.isPrefixOf, distinct, Bool.false_and]
    rw [List.cons_append, afterFirst, other]
    exact ih fun d member => solid d (.tail _ member)

/-- The token is what is left of the header behind its scheme. -/
theorem bears_iff {serviceToken : Str} {authorization : Option Str} :
    Bears serviceToken authorization ↔ serviceToken ≠ [] ∧ ∃ header ∈ authorization,
      startsWith (lower header) "bearer ".toList = true ∧
        strip ((afterFirst " ".toList header).getD []) = serviceToken := by
  refine and_congr_right fun _ => ?_
  constructor
  · rintro ⟨scheme, token, rfl, bearer, same⟩
    exact ⟨_, rfl, bearer_split.mpr ⟨scheme, token, rfl, bearer⟩,
      (afterFirst_bearer token bearer).symm ▸ same⟩
  · rintro ⟨header, rfl, starts, same⟩
    obtain ⟨scheme, token, rfl, bearer⟩ := bearer_split.mp starts
    rw [afterFirst_bearer token bearer] at same
    exact ⟨scheme, token, rfl, bearer, same⟩

instance (serviceToken : Str) (authorization : Option Str) : Decidable (Bears serviceToken authorization) :=
  decidable_of_iff' _ bears_iff

theorem requireServiceToken_cases (cfg : GatewayStateConfig) (authorization : Option Str) :
    (Bears cfg.serviceToken authorization ∧ requireServiceToken cfg authorization = pure ()) ∨
    (¬Bears cfg.serviceToken authorization ∧ requireServiceToken cfg authorization =
      GatewayStore.raise (serviceRefusal cfg.serviceToken authorization)) := by
  unfold requireServiceToken serviceRefusal
  by_cases disabled : cfg.serviceToken = []
  · rw [if_pos disabled, if_pos disabled]
    exact .inr ⟨fun bears => bears.1 disabled, rfl⟩
  · rw [if_neg disabled, if_neg disabled]
    cases authorization with
    | none =>
      refine .inr ⟨?_, rfl⟩
      rintro ⟨_, scheme, token, impossible, _⟩
      contradiction
    | some header =>
      by_cases bearer : startsWith (lower header) "bearer ".toList = true
      · simp only [Option.getD_some, if_pos bearer]
        by_cases same : strip ((afterFirst " ".toList header).getD []) = cfg.serviceToken
        · rw [if_pos same]
          exact .inl ⟨bears_iff.mpr ⟨disabled, header, rfl, bearer, same⟩, rfl⟩
        · rw [if_neg same]
          refine .inr ⟨fun bears => ?_, rfl⟩
          obtain ⟨_, other, given, _, again⟩ := bears_iff.mp bears
          exact same (Option.some.inj given ▸ again)
      · simp only [Option.getD_some, if_neg bearer]
        refine .inr ⟨fun bears => ?_, trivial⟩
        obtain ⟨_, other, given, starts, _⟩ := bears_iff.mp bears
        exact bearer (Option.some.inj given ▸ starts)

/-! ## One call a request -/

/-- What the reply of the store becomes. -/
def finished {c : GatewayCall} (finish : c.Reply → Except Exn GatewayReply) :
    GatewayApi.Answer c → Except Exn GatewayReply
  | .error error => .error error
  | .ok reply => finish reply

/-- Ask the store once. -/
def ask (c : GatewayCall) (finish : c.Reply → Except Exn GatewayReply) : GatewayHandler GatewayReply :=
  Prog.ask (S := GatewayApi) c (finished finish)

/-- A record in its wire shape, or the refusal for none. -/
def wire (render : α → GatewayReply) (missing : Exn) : Option α → Except Exn GatewayReply
  | some record => .ok (render record)
  | none => .error missing

/-- The store call behind an endpoint, and what becomes of its reply. -/
inductive Asks : GatewayEndpoint → (c : GatewayCall) → (c.Reply → Except Exn GatewayReply) → Prop where
  | registerClient (payload : GatewayClientDTO) :
      Asks (.registerClient payload) (.register payload.toRecord) fun _ => .ok .noContent
  | getClient (clientId : Str) :
      Asks (.getClient clientId) (.get clientId) (wire (.client <| .fromRecord ·) clientNotFound)
  | putAuthCode (payload : GatewayAuthCodeDTO) :
      Asks (.putAuthCode payload) (.put payload.toRecord) fun _ => .ok .noContent
  | lookup (upstreamState : Str) :
      Asks (.lookupAuthCodeByUpstreamState upstreamState) (.getByUpstreamState upstreamState)
        (wire (.authCode <| .fromRecord ·) authCodeNotFound)
  | patch (code : Str) (patch : GatewayAuthCodePatch) :
      Asks (.patchAuthCode code patch) (.update code patch) fun _ => .ok .noContent
  | consume (code : Str) :
      Asks (.consumeAuthCode code) (.consume code) (wire (.authCode <| .fromRecord ·) authCodeConsumed)
  | issue (payload : GatewayTokenDTO) :
      Asks (.issueToken payload) (.issue payload.toRecord) fun _ => .ok .noContent
  | byAccessToken (body : TokenLookup) (given : isGiven body.accessToken = true)
      (alone : isGiven body.refreshToken = false) :
      Asks (.introspectToken body) (.getByAccessToken (body.accessToken.getD []))
        (wire (.token <| .fromRecord ·) tokenNotFound)
  | byRefreshToken (body : TokenLookup) (given : isGiven body.refreshToken = true)
      (alone : isGiven body.accessToken = false) :
      Asks (.introspectToken body) (.getByRefreshToken (body.refreshToken.getD []))
        (wire (.token <| .fromRecord ·) tokenNotFound)
  | revoke (accessToken : Str) :
      Asks (.revokeToken accessToken) (.revoke accessToken) fun _ => .ok .noContent

theorem handleGateway_asks {cfg : GatewayStateConfig} {endpoint : GatewayEndpoint} {c : GatewayCall}
    {finish : c.Reply → Except Exn GatewayReply} (wired : cfg.hasStore = true)
    (asks : Asks endpoint c finish) : handleGateway cfg endpoint = ask c finish := by
  have store : requireStore cfg = pure () := if_pos wired
  have next {k : GatewayApi.Answer c → GatewayHandler GatewayReply}
      (same : ∀ answer, k answer = .result (finished finish answer)) :
      Prog.call (S := GatewayApi) c k = ask c finish :=
    congrArg (Prog.call (S := GatewayApi) c) (funext same)
  cases asks with
  | registerClient | putAuthCode | patch | issue | revoke =>
    simp only [handleGateway, registerClient, putAuthCode, patchAuthCode, issueToken, revokeToken, store]
    refine next fun answer => ?_
    rcases answer with _ | _ <;> rfl
  | getClient | lookup | consume =>
    simp only [handleGateway, getClient, lookupAuthCodeByUpstreamState, consumeAuthCode, store]
    refine next fun answer => ?_
    rcases answer with _ | _ | _ <;> rfl
  | byAccessToken body given alone | byRefreshToken body given alone =>
    simp only [handleGateway, introspectToken, store, given, alone]
    refine next fun answer => ?_
    rcases answer with _ | _ | _ <;> rfl

/-- Every endpoint asks, but for an introspection of both tokens or of none. -/
theorem asks_or_ambiguous (endpoint : GatewayEndpoint) : (∃ c finish, Asks endpoint c finish) ∨
    ∃ body, endpoint = .introspectToken body ∧ isGiven body.accessToken = isGiven body.refreshToken := by
  cases endpoint with
  | registerClient payload => exact .inl ⟨_, _, .registerClient payload⟩
  | getClient clientId => exact .inl ⟨_, _, .getClient clientId⟩
  | putAuthCode payload => exact .inl ⟨_, _, .putAuthCode payload⟩
  | lookupAuthCodeByUpstreamState upstreamState => exact .inl ⟨_, _, .lookup upstreamState⟩
  | patchAuthCode code patch => exact .inl ⟨_, _, .patch code patch⟩
  | consumeAuthCode code => exact .inl ⟨_, _, .consume code⟩
  | issueToken payload => exact .inl ⟨_, _, .issue payload⟩
  | introspectToken body =>
    cases access : isGiven body.accessToken with
    | false =>
      cases refresh : isGiven body.refreshToken with
      | false => exact .inr ⟨body, rfl, access.trans refresh.symm⟩
      | true => exact .inl ⟨_, _, .byRefreshToken body refresh access⟩
    | true =>
      cases refresh : isGiven body.refreshToken with
      | false => exact .inl ⟨_, _, .byAccessToken body access refresh⟩
      | true => exact .inr ⟨body, rfl, access.trans refresh.symm⟩
  | revokeToken accessToken => exact .inl ⟨_, _, .revoke accessToken⟩

theorem handleGateway_missing {cfg : GatewayStateConfig} (missing : cfg.hasStore = false)
    (endpoint : GatewayEndpoint) : ∃ error, handleGateway cfg endpoint = GatewayStore.raise error := by
  have store : requireStore cfg = GatewayStore.raise gatewayStoreMissing := by
    rw [requireStore, missing]; rfl
  cases endpoint with
  | introspectToken body =>
    simp only [handleGateway, introspectToken, store]
    split <;> exact ⟨_, rfl⟩
  | _ =>
    simp only [handleGateway, registerClient, getClient, putAuthCode, lookupAuthCodeByUpstreamState,
      patchAuthCode, consumeAuthCode, issueToken, revokeToken, store]
    exact ⟨_, rfl⟩

/-- A request is refused outright, or asks the store once. -/
theorem handle_cases (cfg : GatewayStateConfig) (request : GatewayRequest) :
    (∃ error, request.handle cfg = GatewayStore.raise error) ∨
    (Bears cfg.serviceToken request.authorization ∧ ∃ c finish,
      Asks request.endpoint c finish ∧ request.handle cfg = ask c finish) := by
  rcases requireServiceToken_cases cfg request.authorization with ⟨bears, passes⟩ | ⟨_, refused⟩
  · have opened : request.handle cfg = handleGateway cfg request.endpoint := by
      rw [GatewayRequest.handle, passes]; rfl
    rw [opened]
    cases wired : cfg.hasStore with
    | false => exact .inl (handleGateway_missing wired request.endpoint)
    | true =>
      rcases asks_or_ambiguous request.endpoint with ⟨c, finish, asks⟩ | ⟨body, same, ambiguous⟩
      · exact .inr ⟨bears, c, finish, asks, handleGateway_asks wired asks⟩
      · exact .inl ⟨specifyOneToken, by rw [same]; simp only [handleGateway, introspectToken, ambiguous]; rfl⟩
  · exact .inl ⟨_, by rw [GatewayRequest.handle, refused]; rfl⟩

theorem handle_refused {cfg : GatewayStateConfig} {request : GatewayRequest}
    (stranger : ¬Bears cfg.serviceToken request.authorization) :
    request.handle cfg = GatewayStore.raise (serviceRefusal cfg.serviceToken request.authorization) := by
  rcases requireServiceToken_cases cfg request.authorization with ⟨bears, _⟩ | ⟨_, refused⟩
  · exact absurd bears stranger
  · rw [GatewayRequest.handle, refused]; rfl

theorem handle_atomic (cfg : GatewayStateConfig) (request : GatewayRequest) :
    (request.handle cfg).Atomic := by
  rcases handle_cases cfg request with ⟨error, refused⟩ | ⟨_, c, finish, _, asked⟩
  · rw [refused]
    trivial
  · rw [asked]
    exact Prog.ask_atomic _ _

section Runs
variable {ω : Type} {serves : ω → (c : GatewayCall) → GatewayApi.Answer c → ω → Prop}

/-- An executed request left the store alone, or was admitted and asked it once. -/
theorem runs_handle {cfg : GatewayStateConfig} {request : GatewayRequest} {w w' : ω}
    {outcome : Except Exn GatewayReply} (run : Runs serves (request.handle cfg) w outcome w') :
    (∃ error, outcome = .error error ∧ w' = w) ∨
    (Bears cfg.serviceToken request.authorization ∧ ∃ c finish answer,
      Asks request.endpoint c finish ∧ serves w c answer w' ∧ outcome = finished finish answer) := by
  rcases handle_cases cfg request with ⟨error, refused⟩ | ⟨bears, c, finish, asks, asked⟩
  · rw [refused] at run
    exact .inl ⟨error, runs_raise_iff.mp run⟩
  · rw [asked] at run
    obtain ⟨answer, served, ends⟩ := runs_ask_iff.mp run
    exact .inr ⟨bears, c, finish, answer, asks, served, ends⟩

end Runs

/-! ## The documented store -/

/-- `update` overwrites the given columns and leaves the others. -/
def GatewayAuthCode.patched (record : GatewayAuthCode) (patch : GatewayAuthCodePatch) :
    GatewayAuthCode :=
  { record with
    identity := patch.identity.or record.identity
    idpAccessToken := patch.idpAccessToken.getD record.idpAccessToken
    idpRefreshToken := patch.idpRefreshToken.getD record.idpRefreshToken
    idpExpiresAt := patch.idpExpiresAt.getD record.idpExpiresAt }

/-- Clients by id, pending codes by code, and tokens by access token. -/
structure GatewayWorld where
  clients : Str → Option GatewayClient := fun _ => none
  codes : Str → Option GatewayAuthCode := fun _ => none
  tokens : Str → Option GatewayToken := fun _ => none

namespace GatewayWorld

/-- What a call leaves in the store. -/
def after (w : GatewayWorld) : GatewayCall → GatewayWorld
  | .register record => { w with clients := Function.update w.clients record.clientId (some record) }
  | .put record => { w with codes := Function.update w.codes record.code (some record) }
  | .update code patch =>
    { w with codes := Function.update w.codes code ((w.codes code).map (·.patched patch)) }
  | .consume code => { w with codes := Function.update w.codes code none }
  | .issue record => { w with tokens := Function.update w.tokens record.accessToken (some record) }
  | .revoke accessToken => { w with tokens := Function.update w.tokens accessToken none }
  | .get _ | .getByUpstreamState _ | .getByAccessToken _ | .getByRefreshToken _ => w

/-- A record that has expired may be answered with none. -/
def Answers (w : GatewayWorld) : (c : GatewayCall) → c.Reply → Prop
  | .get clientId, reply => reply = w.clients clientId
  | .consume code, reply => ∀ record, reply = some record → w.codes code = some record
  | .getByUpstreamState upstreamState, reply => ∀ record, reply = some record →
    ∃ code, w.codes code = some record ∧ record.upstreamState = upstreamState
  | .getByAccessToken accessToken, reply => ∀ record, reply = some record →
    w.tokens accessToken = some record
  | .getByRefreshToken refreshToken, reply => ∀ record, reply = some record →
    ∃ accessToken, w.tokens accessToken = some record ∧ record.refreshToken = refreshToken
  | _, _ => True

end GatewayWorld

/-- Each call is one step, `consume` included; one that fails may have had its effect. -/
def GatewayServes (w : GatewayWorld) (c : GatewayCall) (answer : GatewayApi.Answer c)
    (w' : GatewayWorld) : Prop :=
  match answer with
  | .ok reply => w.Answers c reply ∧ w' = w.after c
  | .error _ => w' = w ∨ w' = w.after c

/-- A store in memory; the lookups by a second key, which need a search, find nothing. -/
def gatewayServer : Server GatewayApi GatewayWorld := fun c w =>
  (match c with
    | .get clientId => .ok (w.clients clientId)
    | .consume code => .ok (w.codes code)
    | .getByAccessToken accessToken => .ok (w.tokens accessToken)
    | .getByUpstreamState _ | .getByRefreshToken _ => .ok none
    | .register _ | .put _ | .update _ _ | .issue _ | .revoke _ => .ok (), w.after c)

theorem gatewayServer_serves (_ : GatewayRequest) (w : GatewayWorld) (c : GatewayCall) :
    GatewayServes w c (gatewayServer c w).1 (gatewayServer c w).2 := by
  cases c with
  | get clientId => exact ⟨rfl, rfl⟩
  | consume code | getByAccessToken accessToken => exact ⟨fun _ same => same, rfl⟩
  | getByUpstreamState | getByRefreshToken => exact ⟨fun _ none => absurd none nofun, rfl⟩
  | _ => exact ⟨trivial, rfl⟩

/-! ## The system -/

abbrev GatewayEntry : Type := GatewayRequest × Except GatewayApi.Exn GatewayReply

/-- Requests of any callers over any one store. -/
def gatewaySystem (cfg : GatewayStateConfig) {ω : Type}
    (serves : ω → (c : GatewayCall) → GatewayApi.Answer c → ω → Prop) :
    System GatewayApi GatewayRequest Unit GatewayReply ω where
  start := GatewayRequest.handle cfg
  fresh := ()
  learn _ _ _ _ := ()
  serves _ := serves

abbrev documentedGateway (cfg : GatewayStateConfig) :
    System GatewayApi GatewayRequest Unit GatewayReply GatewayWorld := gatewaySystem cfg GatewayServes

abbrev GatewayPool (ω : Type) : Type := Pool GatewayApi GatewayRequest Unit GatewayReply ω

/-- The requests that have ended by the earlier moment happened one after another, and those
that have ended since happened after them. Nobody without the token gets to the store. -/
structure GatewaySerialized (cfg : GatewayStateConfig) {ω : Type}
    (serves : ω → (c : GatewayCall) → GatewayApi.Answer c → ω → Prop) (start : ω)
    (pool pool' : GatewayPool ω) (order later : List GatewayEntry) : Prop where
  earlier : Explains (gatewaySystem cfg serves) start order pool
  final : Explains (gatewaySystem cfg serves) start (order ++ later) pool'
  refused : ∀ entry ∈ order ++ later, ¬Bears cfg.serviceToken entry.1.authorization →
    entry.2 = .error (serviceRefusal cfg.serviceToken entry.1.authorization)
  gated : ∀ task ∈ pool'.tasks, ∀ c next, task.prog = .call c next →
    Bears cfg.serviceToken task.owner.authorization

theorem gateway_serializable (cfg : GatewayStateConfig) {ω : Type}
    {serves : ω → (c : GatewayCall) → GatewayApi.Answer c → ω → Prop} {start : ω}
    {pool pool' : GatewayPool ω} (first : Reaches (gatewaySystem cfg serves) ⟨start, []⟩ pool)
    (rest : Reaches (gatewaySystem cfg serves) pool pool') :
    ∃ order later, GatewaySerialized cfg serves start pool pool' order later := by
  obtain ⟨order, earlier⟩ := serializable (handle_atomic cfg) (explains_start start) first
  obtain ⟨later, final⟩ := serializable (handle_atomic cfg) earlier rest
  refine ⟨[] ++ order, later, earlier, final, ?_, ?_⟩
  · intro entry member stranger
    obtain ⟨before, after, run⟩ := final.serial.runs member
    have refused : entry.1.handle cfg = _ := handle_refused stranger
    change Runs serves (entry.1.handle cfg) before entry.2 after at run
    rw [refused] at run
    exact (runs_raise_iff.mp run).1
  · intro task member c next calls
    by_contra stranger
    have waits : task.outcome = none := by rw [Task.outcome, calls]
    have begun : task.prog = task.owner.handle cfg := final.waiting task member waits
    rw [handle_refused stranger, calls] at begun
    contradiction

def sharedGateway : GatewayStateConfig := { serviceToken := "sek".toList }

def sharedCode : GatewayAuthCodeDTO :=
  { code := "authcode-xyz".toList, clientId := "cli-abc".toList,
    redirectUri := "http://localhost:8765/callback".toList, codeChallenge := "challenge-abc".toList,
    codeChallengeMethod := "S256".toList, upstreamState := "ust-123".toList,
    upstreamCodeVerifier := "verifier-def".toList, scopes := ["mcp.read".toList], createdAt := 0 }

/-- One gateway puts a code; a stranger and two other gateways ask for it. -/
def sharedRequests : List GatewayRequest :=
  [⟨some "bearer sek".toList, .putAuthCode sharedCode⟩,
    ⟨some "Bearer wrong".toList, .consumeAuthCode "authcode-xyz".toList⟩,
    ⟨some "Bearer sek".toList, .consumeAuthCode "authcode-xyz".toList⟩,
    ⟨some "BEARER  sek ".toList, .consumeAuthCode "authcode-xyz".toList⟩]

def earlierPool : GatewayPool GatewayWorld :=
  Pool.turns (documentedGateway sharedGateway) (fun _ => gatewayServer) {} sharedRequests [0, 3]

def sharedPool : GatewayPool GatewayWorld :=
  [2].foldl (Pool.turn (documentedGateway sharedGateway) fun _ => gatewayServer) earlierPool

theorem gateway_serializable_shared : ∃ order later,
    GatewaySerialized sharedGateway GatewayServes {} earlierPool sharedPool order later :=
  gateway_serializable sharedGateway (reaches_turns gatewayServer_serves _ _ _)
    (reaches_schedule gatewayServer_serves earlierPool [2])

end OrchidApi
