import OrchidApi.AsyncPool
import OrchidApi.OAuth

/-! The OAuth callback against every reply of the token endpoint: which replies end in a page,
and which of them store a token. -/
namespace OrchidApi
open Text Async

/-- What lies outside the callback. Only exceptions that `except Exception` catches come from
the transport and the warm-up. -/
structure OAuthUpstream where
  pending : Str → Option PendingState
  registration : Str → Option ClientRegistration
  clock : Rat := 0
  reply : Except Exn TokenResponse
  warmed : Except Exn Unit := .ok ()
  transport : ∀ error, reply = .error error → error.isException = true
  advisory : ∀ error, warmed = .error error → error.isException = true

/-- The stores answer, and the token store keeps each record it is given. -/
def OAuthUpstream.server (up : OAuthUpstream) : Server OAuthApi (List TokenRecord)
  | .popState state, saved => (.ok (up.pending state), saved)
  | .getRegistration server, saved => (.ok (up.registration server), saved)
  | .time, saved => (.ok up.clock, saved)
  | .post _, saved => (up.reply, saved)
  | .saveToken record, saved => (.ok (), saved ++ [record])
  | .warm _ _ _ _, saved => (up.warmed, saved)
  | _, saved => (.error .other, saved)

def OAuthUpstream.serve (up : OAuthUpstream) (p : OAuthHandler α) (saved : List TokenRecord) :
    Except Exn α × List TokenRecord := p.exec up.server saved

/-! ## The replies -/

/-- The endpoint was not reached, or it refused. -/
def Refused : Except Exn TokenResponse → Prop
  | .error _ => True
  | .ok resp => 400 ≤ resp.statusCode

/-- What `now + value` accepts for a `float` now. -/
def Json.Value.AddsToFloat : Json.Value → Prop
  | .num n => overflowsFloat n = false
  | .real _ | .bool _ => True
  | _ => False

/-- A JSON object with an access token, a string where it will be stored, and with a lifetime
that is a number or missing. -/
structure GrantsToken (cfg : OAuthConfig) (fields : Json.Dict) : Prop where
  token : ∃ token, fields.lookup "access_token".toList = some token ∧
    (cfg.hasTokenStore = true → ∃ text, token = .str text)
  lifetime : ∀ value, fields.lookup "expires_in".toList = some value → Json.Value.AddsToFloat value

/-- The page that ends a successful authorization. -/
def SuccessPage (page : HtmlResponse) : Prop :=
  ∃ server, page = ⟨renderCallbackSuccessPage server, 200⟩

theorem expiresAt_ok_iff (now : Rat) (fields : Json.Dict) :
    (∃ expires, expiresAt now fields = .ok expires) ↔
      ∀ value, fields.lookup "expires_in".toList = some value → Json.Value.AddsToFloat value := by
  unfold expiresAt
  cases fields.lookup "expires_in".toList with
  | none => simp [overflowsFloat]
  | some value =>
    cases value with
    | num n => cases big : overflowsFloat n <;> simp [big, Json.Value.AddsToFloat]
    | _ => simp [Json.Value.AddsToFloat]

section Callback
variable {cfg : OAuthConfig} {up : OAuthUpstream} {saved : List TokenRecord}

theorem OAuthUpstream.serve_await (c : OAuthCall) : up.serve (OAuth.await c) saved = up.server c saved :=
  Prog.exec_await ..

/-! ## The exchange -/

/-- The outcome of the exchange, by the reply. -/
def outcomeOf (cfg : OAuthConfig) : Except Exn TokenResponse → Except Exn TokenExchangeOutcome
  | .error error =>
    .ok (renderSimpleMessagePage "Token exchange failed".toList 500 (cfg.describe error)).outcome
  | .ok resp =>
    if resp.statusCode ≥ 400 then
      .ok (renderTokenExchangeFailurePage resp.text resp.statusCode).outcome
    else resp.json.map fun data => { data }

theorem serve_exchange (tokenEndpoint redirectUri code codeVerifier : Str)
    (registration : ClientRegistration) :
    up.serve (exchangeAuthorizationCode cfg tokenEndpoint redirectUri code codeVerifier registration)
      saved = (outcomeOf cfg up.reply, saved) := by
  have posted : (OAuth.post (tokenRequest tokenEndpoint redirectUri code codeVerifier
      registration)).exec up.server saved = (up.reply, saved) := OAuthUpstream.serve_await _
  rw [exchangeAuthorizationCode, OAuthUpstream.serve, Prog.exec_attempt, posted]
  cases replied : up.reply with
  | error error =>
    dsimp only [outcomeOf]
    rw [if_pos (up.transport error replied)]
    rfl
  | ok resp =>
    dsimp only [outcomeOf]
    split
    · rfl
    · cases resp.json <;> rfl

/-- Exactly one of the two fields is populated. -/
def TokenExchangeOutcome.OnePopulated (outcome : TokenExchangeOutcome) : Prop :=
  Xor (outcome.data ≠ .null) (outcome.htmlBody.isSome = true)

theorem outcomeOf_onePopulated_iff :
    (∃ outcome, outcomeOf cfg up.reply = .ok outcome ∧ outcome.OnePopulated) ↔
      Refused up.reply ∨ ∃ resp data, up.reply = .ok resp ∧ resp.json = .ok data ∧ data ≠ .null := by
  cases replied : up.reply with
  | error error =>
    simp [outcomeOf, Refused, TokenExchangeOutcome.OnePopulated, HtmlResponse.outcome, Xor]
  | ok resp =>
    by_cases refused : 400 ≤ resp.statusCode
    · simp [outcomeOf, Refused, refused, TokenExchangeOutcome.OnePopulated, HtmlResponse.outcome, Xor]
    · cases decoded : resp.json <;>
        simp [outcomeOf, Refused, refused, decoded, TokenExchangeOutcome.OnePopulated, Xor, Except.map]

/-! ## The callback -/

/-- How a callback has to end: with a page, and, where a token store is wired, with the success
page together with one more record that has a string token, or with neither. -/
structure CallbackEnds (cfg : OAuthConfig) (saved : List TokenRecord)
    (ended : Except Exn HtmlResponse × List TokenRecord) : Prop where
  page : ∃ page, ended.1 = .ok page
  stored : cfg.hasTokenStore = true → ∀ page, ended.1 = .ok page →
    (SuccessPage page ∧ ∃ record text, ended.2 = saved ++ [record] ∧ record.accessToken = .str text) ∨
      (¬SuccessPage page ∧ ended.2 = saved)

/-- A page with another status leaves the token store alone. -/
theorem callbackEnds_refusal {page : HtmlResponse} (status : page.statusCode ≠ 200) :
    CallbackEnds cfg saved (.ok page, saved) where
  page := ⟨page, rfl⟩
  stored := by
    rintro - _ ⟨⟩
    exact .inr ⟨fun ⟨server, success⟩ => status (success ▸ rfl), rfl⟩

theorem callbackEnds_message (heading detail : Str) {status : Nat} (refusal : status ≠ 200) :
    CallbackEnds cfg saved (.ok (renderSimpleMessagePage heading status detail), saved) :=
  callbackEnds_refusal refusal

theorem serve_warmAuthorized (pending : PendingState) (record : TokenRecord) :
    up.serve (warmAuthorized cfg pending record) saved = (.ok (), saved) := by
  unfold warmAuthorized
  split
  · have warmed : (OAuth.warm pending.tenantId pending.userId record.accessToken
        pending.serverName).exec up.server saved = (up.warmed, saved) := OAuthUpstream.serve_await _
    rw [OAuthUpstream.serve, Prog.exec_attempt, warmed]
    cases failed : up.warmed with
    | ok value => rfl
    | error error =>
      dsimp only
      rw [if_pos (up.advisory error failed)]
      rfl
  · rfl

theorem serve_saveRecord (record : TokenRecord) :
    up.serve (saveRecord cfg record) saved =
      (.ok (), if cfg.hasTokenStore then saved ++ [record] else saved) := by
  unfold saveRecord
  split
  · exact OAuthUpstream.serve_await _
  · rfl

theorem serve_storeToken (pending : PendingState) (registration : ClientRegistration)
    (data : Json.Value) :
    up.serve (storeToken cfg pending registration data) saved =
      match tokenRecord pending registration data up.clock with
      | .error error => (.error error, saved)
      | .ok record => (.ok ⟨renderCallbackSuccessPage pending.serverName, 200⟩,
          if cfg.hasTokenStore then saved ++ [record] else saved) := by
  have timed : OAuth.time.exec up.server saved = (.ok up.clock, saved) := OAuthUpstream.serve_await _
  rw [storeToken, OAuthUpstream.serve, Prog.exec_bind_ok timed]
  cases tokenRecord pending registration data up.clock with
  | error error => rfl
  | ok record =>
    exact (Prog.exec_bind_ok (serve_saveRecord record)).trans
      (Prog.exec_bind_ok (serve_warmAuthorized pending record))

/-- The record of a reply, if it is an object with an access token and a lifetime. -/
theorem tokenRecord_ok_iff {pending : PendingState} {registration : ClientRegistration}
    {data : Json.Value} {now : Rat} {token : Json.Value} :
    (∃ record, tokenRecord pending registration data now = .ok record ∧ record.accessToken = token) ↔
      ∃ fields, data = .obj fields ∧ fields.lookup "access_token".toList = some token ∧
        ∃ expires, expiresAt now fields = .ok expires := by
  cases data with
  | obj fields =>
    simp only [tokenRecord, Json.Value.obj.injEq, exists_eq_left']
    cases fields.lookup "access_token".toList with
    | none => simp
    | some found => cases expiresAt now fields <;> simp
  | _ => simp [tokenRecord]

/-- Past the exchange, a callback ends as it has to just when the data grants a token. -/
theorem callbackEnds_storeToken_iff (pending : PendingState) (registration : ClientRegistration)
    (data : Json.Value) :
    CallbackEnds cfg saved (up.serve (storeToken cfg pending registration data) saved) ↔
      ∃ fields, data = .obj fields ∧ GrantsToken cfg fields := by
  rw [serve_storeToken]
  cases made : tokenRecord pending registration data up.clock with
  | error error =>
    refine iff_of_false (fun ends => ?_) ?_
    · obtain ⟨page, failed⟩ := ends.page
      cases failed
    · rintro ⟨fields, rfl, ⟨token, present, -⟩, lifetime⟩
      have issued : ∃ record, tokenRecord pending registration (.obj fields) up.clock = .ok record ∧
          record.accessToken = token :=
        tokenRecord_ok_iff.mpr ⟨fields, rfl, present, (expiresAt_ok_iff up.clock fields).mpr lifetime⟩
      obtain ⟨record, same, -⟩ := issued
      rw [made] at same
      cases same
  | ok record =>
    obtain ⟨fields, rfl, present, expires⟩ := tokenRecord_ok_iff.mp ⟨record, made, rfl⟩
    have lifetime := (expiresAt_ok_iff up.clock fields).mp expires
    have success : SuccessPage ⟨renderCallbackSuccessPage pending.serverName, 200⟩ := ⟨_, rfl⟩
    constructor
    · intro ends
      refine ⟨fields, rfl, ⟨record.accessToken, present, fun wired => ?_⟩, lifetime⟩
      rcases ends.stored wired _ rfl with ⟨-, stored, text, same, string⟩ | ⟨failed, -⟩
      · dsimp only at same
        rw [if_pos wired] at same
        obtain rfl := List.singleton_inj.mp (List.append_cancel_left same)
        exact ⟨text, string⟩
      · exact absurd success failed
    · rintro ⟨_, ⟨⟩, ⟨token, same, string⟩, -⟩
      obtain rfl := Option.some.inj (present.symm.trans same)
      refine ⟨⟨_, rfl⟩, ?_⟩
      rintro wired _ ⟨⟩
      obtain ⟨text, string⟩ := string wired
      exact .inl ⟨success, record, text, if_pos wired, string⟩

/-- The callback asks the token endpoint. -/
def AsksEndpoint (up : OAuthUpstream) (code state error : Str) : Prop :=
  error = [] ∧ code ≠ [] ∧ state ≠ [] ∧ ∃ pending registration, up.pending state = some pending ∧
    up.registration pending.serverName = some registration ∧
    pending.tokenEndpointOr registration ≠ []

theorem outcome_status (cfg : OAuthConfig) {reply : Except Exn TokenResponse} (refused : Refused reply) :
    ∃ body status, outcomeOf cfg reply = .ok ⟨.null, some body, status⟩ ∧ 400 ≤ status := by
  cases reply with
  | error error => exact ⟨_, 500, rfl, by decide⟩
  | ok resp =>
    have refused : 400 ≤ resp.statusCode := refused
    exact ⟨_, resp.statusCode, if_pos refused, refused⟩

/-- The rest of the callback, once there is an endpoint to ask. -/
theorem callbackEnds_exchanged_iff (pending : PendingState) (registration : ClientRegistration)
    (tokenEndpoint redirectUri code : Str) :
    CallbackEnds cfg saved (up.serve (do
        let outcome ← exchangeAuthorizationCode cfg tokenEndpoint redirectUri code
          pending.codeVerifier registration
        match outcome.htmlBody, outcome.data with
        | some body, _ => pure ⟨body, outcome.status⟩
        | none, .null => OAuth.raise .other
        | none, data => storeToken cfg pending registration data) saved) ↔
      Refused up.reply ∨ ∃ resp fields, up.reply = .ok resp ∧ resp.json = .ok (.obj fields) ∧
        GrantsToken cfg fields := by
  have exchanged := @serve_exchange cfg up saved tokenEndpoint redirectUri code pending.codeVerifier
    registration
  by_cases refused : Refused up.reply
  · obtain ⟨body, status, outcome, high⟩ := outcome_status cfg refused
    rw [outcome] at exchanged
    refine iff_of_true ?_ (.inl refused)
    rw [OAuthUpstream.serve, Prog.exec_bind_ok exchanged]
    exact callbackEnds_refusal (by dsimp only; omega)
  · cases replied : up.reply with
    | error error => exact absurd (replied ▸ trivial) refused
    | ok resp =>
      have low : ¬400 ≤ resp.statusCode := fun high => refused (replied ▸ high)
      rw [replied, outcomeOf, if_neg low] at exchanged
      have accepted : (Refused (.ok resp) ∨ ∃ other fields, (.ok resp : Except Exn TokenResponse) =
          .ok other ∧ other.json = .ok (.obj fields) ∧ GrantsToken cfg fields) ↔
            ∃ fields, resp.json = .ok (.obj fields) ∧ GrantsToken cfg fields := by
        simp [Refused, low]
      rw [accepted]
      cases decoded : resp.json with
      | error error =>
        rw [decoded] at exchanged
        rw [OAuthUpstream.serve, Prog.exec_bind_error exchanged]
        refine iff_of_false (fun ends => ?_) (by simp)
        obtain ⟨page, failed⟩ := ends.page
        cases failed
      | ok data =>
        rw [decoded] at exchanged
        have stores := @callbackEnds_storeToken_iff cfg up saved pending registration data
        rw [OAuthUpstream.serve, Prog.exec_bind_ok exchanged]
        cases data with
        | null =>
          refine iff_of_false (fun ends => ?_) (by simp)
          obtain ⟨page, failed⟩ := ends.page
          cases failed
        | _ => simpa [OAuthUpstream.serve] using stores

/-- A callback ends as it has to just when it does not reach the token endpoint, is refused
there, or is granted a token. -/
theorem callbackEnds_iff (code state error : Str) :
    CallbackEnds cfg saved (up.serve (oauthCallback cfg code state error) saved) ↔
      (AsksEndpoint up code state error → Refused up.reply ∨
        ∃ resp fields, up.reply = .ok resp ∧ resp.json = .ok (.obj fields) ∧
          GrantsToken cfg fields) := by
  unfold oauthCallback
  by_cases denied : error = []
  · rw [if_neg (by simpa using denied)]
    by_cases missing : code = [] ∨ state = []
    · rw [if_pos missing]
      refine iff_of_true (callbackEnds_message _ _ (by decide)) fun ⟨_, hasCode, hasState, _⟩ => ?_
      exact absurd missing (by simp [hasCode, hasState])
    · rw [if_neg missing]
      obtain ⟨hasCode, hasState⟩ := not_or.mp missing
      have popped : (OAuth.popState state).exec up.server saved = (.ok (up.pending state), saved) :=
        OAuthUpstream.serve_await _
      rw [OAuthUpstream.serve, Prog.exec_bind_ok popped]
      cases found : up.pending state with
      | none =>
        refine iff_of_true (callbackEnds_message _ _ (by decide)) ?_
        rintro ⟨_, _, _, pending, _, some, _⟩
        rw [found] at some
        cases some
      | some pending =>
        have registered : (OAuth.getRegistration pending.serverName).exec up.server saved =
            (.ok (up.registration pending.serverName), saved) := OAuthUpstream.serve_await _
        dsimp only
        rw [redeem, Prog.exec_bind_ok registered]
        cases known : up.registration pending.serverName with
        | none =>
          refine iff_of_true (callbackEnds_message _ _ (by decide)) ?_
          rintro ⟨_, _, _, other, _, same, some, _⟩
          obtain rfl := Option.some.inj (found.symm.trans same)
          rw [known] at some
          cases some
        | some registration =>
          dsimp only
          by_cases endpoint : pending.tokenEndpointOr registration = []
          · rw [if_pos (by simp [endpoint])]
            refine iff_of_true (callbackEnds_message _ _ (by decide)) ?_
            rintro ⟨_, _, _, other, chosen, same, some, nonempty⟩
            obtain rfl := Option.some.inj (found.symm.trans same)
            obtain rfl := Option.some.inj (known.symm.trans some)
            exact absurd endpoint nonempty
          · rw [if_neg (by simp [endpoint])]
            have asks : AsksEndpoint up code state error :=
              ⟨denied, hasCode, hasState, pending, registration, found, known, endpoint⟩
            exact (callbackEnds_exchanged_iff pending registration _ _ code).trans
              ⟨fun ends _ => ends, fun ends => ends asks⟩
  · rw [if_pos denied]
    exact iff_of_true (callbackEnds_message _ _ (by decide)) fun asks => absurd asks.1 denied

/-- The exchange populates one field of its outcome and the callback ends as it has to, exactly
when the endpoint refuses, or replies with JSON that is not null and, where the callback asked
for it, grants a token. -/
theorem replies_handled_iff (cfg : OAuthConfig) (up : OAuthUpstream) (saved : List TokenRecord)
    (code state error : Str) :
    ((∀ tokenEndpoint redirectUri codeVerifier registration, ∃ outcome,
        (up.serve (exchangeAuthorizationCode cfg tokenEndpoint redirectUri code codeVerifier
          registration) saved).1 = .ok outcome ∧ outcome.OnePopulated) ∧
      CallbackEnds cfg saved (up.serve (oauthCallback cfg code state error) saved)) ↔
      Refused up.reply ∨ ∃ resp data, up.reply = .ok resp ∧ resp.json = .ok data ∧ data ≠ .null ∧
        (AsksEndpoint up code state error → ∃ fields, data = .obj fields ∧ GrantsToken cfg fields) := by
  have exchanges : (∀ tokenEndpoint redirectUri codeVerifier registration, ∃ outcome,
      (up.serve (exchangeAuthorizationCode cfg tokenEndpoint redirectUri code codeVerifier
        registration) saved).1 = .ok outcome ∧ outcome.OnePopulated) ↔
      ∃ outcome, outcomeOf cfg up.reply = .ok outcome ∧ outcome.OnePopulated := by
    simp only [serve_exchange]
    exact ⟨fun all => all [] [] [] ⟨[], [], [], [], false, []⟩, fun one _ _ _ _ => one⟩
  rw [exchanges, outcomeOf_onePopulated_iff, callbackEnds_iff]
  constructor
  · rintro ⟨refused | ⟨resp, data, replied, decoded, some⟩, ends⟩
    · exact .inl refused
    · by_cases refused : Refused up.reply
      · exact .inl refused
      · refine .inr ⟨resp, data, replied, decoded, some, fun asks => ?_⟩
        obtain ⟨other, fields, same, object, grants⟩ := (ends asks).resolve_left refused
        obtain rfl := Except.ok.inj (replied.symm.trans same)
        exact ⟨fields, Except.ok.inj (decoded.symm.trans object), grants⟩
  · rintro (refused | ⟨resp, data, replied, decoded, some, grants⟩)
    · exact ⟨.inl refused, fun _ => .inl refused⟩
    · refine ⟨.inr ⟨resp, data, replied, decoded, some⟩, fun asks => ?_⟩
      obtain ⟨fields, rfl, granted⟩ := grants asks
      exact .inr ⟨resp, fields, replied, decoded, granted⟩

end Callback

/-! A token endpoint that replies with JSON null. -/

def nullUpstream : OAuthUpstream where
  pending _ := some ⟨"crm".toList, "t".toList, "u".toList, "v".toList, "https://idp/token".toList, 0⟩
  registration _ := some ⟨[], [], "c".toList, [], false, []⟩
  reply := .ok ⟨200, "null".toList, .ok .null⟩
  transport := by simp
  advisory := by simp

def sampleOAuth : OAuthConfig := { apiBaseUrl := [], registry := none, sha256 := id }

/-- Neither field is populated, and the callback raises. -/
theorem null_reply_raises :
    (nullUpstream.serve (exchangeAuthorizationCode sampleOAuth "https://idp/token".toList [] "code".toList
        "v".toList ⟨[], [], "c".toList, [], false, []⟩) []).1 = .ok {} ∧
      ¬TokenExchangeOutcome.OnePopulated {} ∧
      (nullUpstream.serve (oauthCallback sampleOAuth "code".toList "s".toList []) []).1 = .error .other ∧
      ¬CallbackEnds sampleOAuth []
        (nullUpstream.serve (oauthCallback sampleOAuth "code".toList "s".toList []) []) := by
  have raised : (nullUpstream.serve (oauthCallback sampleOAuth "code".toList "s".toList []) []).1 =
      .error .other := rfl
  refine ⟨rfl, by simp [TokenExchangeOutcome.OnePopulated, Xor], raised, fun ends => ?_⟩
  obtain ⟨page, same⟩ := ends.page
  rw [raised] at same
  cases same

end OrchidApi
