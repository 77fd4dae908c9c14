import OrchidApi.AsyncPool
import OrchidApi.OAuth

/-! Any number of authorize calls and of callbacks, honest or forged, in any interleaving: a
token belongs to whoever started the flow, and each flow redeems at most one. -/
namespace OrchidApi
open Text Async Encoding

/-! ## The system -/

inductive OAuthRequest where
  | authorize (serverName : Str) (auth : AuthContext)
  | callback (code state error : Str)

inductive OAuthReply where
  | issued (response : AuthorizeResponse)
  | page (response : HtmlResponse)

def OAuthRequest.work (cfg : OAuthConfig) : OAuthRequest → OAuthHandler OAuthReply
  | .authorize serverName auth => do
    let response ← getAuthorizeUrl cfg serverName auth
    pure (.issued response)
  | .callback code state error => do
    let response ← oauthCallback cfg code state error
    pure (.page response)

def OAuthRequest.presented : OAuthRequest → Option Str
  | .authorize _ _ => none
  | .callback _ state _ => some state

/-- The state store; and who has put what, the random tokens by their size, and who has sent
which request to a token endpoint and which record to the token store. -/
structure OAuthWorld where
  pending : List (Str × PendingState) := []
  created : List (OAuthRequest × Str × PendingState) := []
  drawn : List (Nat × Str) := []
  posts : List (OAuthRequest × TokenRequest) := []
  saves : List (OAuthRequest × TokenRecord) := []

namespace OAuthWorld

def erase (w : OAuthWorld) (state : Str) : OAuthWorld :=
  { w with pending := w.pending.filter (·.1 ≠ state) }

def put (w : OAuthWorld) (state : Str) (pending : PendingState) : OAuthWorld :=
  { w with pending := (state, pending) :: (w.erase state).pending }

end OAuthWorld

/-- The calls that leave this part of the world alone. -/
def OAuthCall.Foreign : OAuthCall → Prop
  | .tokenUrlsafe _ | .putState _ _ | .popState _ | .post _ | .saveToken _ => False
  | _ => True

/-- Random tokens are fresh; the state store puts and pops at once, may have forgotten an
expired state, and may fail before or after its effect; anything else answers anything. -/
inductive OAuthServes (request : OAuthRequest) (w : OAuthWorld) :
    (c : OAuthCall) → OAuthApi.Answer c → OAuthWorld → Prop where
  | draw (bytes : Nat) (token : Str) (fresh : (bytes, token) ∉ w.drawn) :
      OAuthServes request w (.tokenUrlsafe bytes) (.ok token)
        { w with drawn := (bytes, token) :: w.drawn }
  | put (state : Str) (pending : PendingState) (answer : Except Exn Unit) :
      OAuthServes request w (.putState state pending) answer
        { w.put state pending with created := (request, state, pending) :: w.created }
  | putFails (state : Str) (pending : PendingState) (error : Exn) :
      OAuthServes request w (.putState state pending) (.error error)
        { w with created := (request, state, pending) :: w.created }
  | pop (state : Str) :
      OAuthServes request w (.popState state) (.ok (w.pending.lookup state)) (w.erase state)
  | popExpired (state : Str) : OAuthServes request w (.popState state) (.ok none) (w.erase state)
  | popFails (state : Str) (error : Exn) : OAuthServes request w (.popState state) (.error error) w
  | popLoses (state : Str) (error : Exn) :
      OAuthServes request w (.popState state) (.error error) (w.erase state)
  | post (sent : TokenRequest) (answer : Except Exn TokenResponse) :
      OAuthServes request w (.post sent) answer { w with posts := (request, sent) :: w.posts }
  | save (record : TokenRecord) (answer : Except Exn Unit) :
      OAuthServes request w (.saveToken record) answer { w with saves := (request, record) :: w.saves }
  | other (c : OAuthCall) (answer : OAuthApi.Answer c) (foreign : c.Foreign) :
      OAuthServes request w c answer w

/-- The two uses of a popped state that must not be repeated. -/
inductive TokenUse where
  | post
  | save
  deriving DecidableEq

/-- What a request has drawn, put, popped and used so far. -/
structure OAuthKnown where
  drawn : List Str := []
  stored : List (Str × PendingState) := []
  taken : Option PendingState := none
  used : List TokenUse := []

def OAuthKnown.draw (known : OAuthKnown) (token : Str) : OAuthKnown :=
  { known with drawn := known.drawn ++ [token] }

def OAuthKnown.learn (known : OAuthKnown) : (c : OAuthCall) → OAuthApi.Answer c → OAuthKnown
  | .tokenUrlsafe _, .ok token => known.draw token
  | .putState state pending, _ => { known with stored := known.stored ++ [(state, pending)] }
  | .popState _, .ok (some pending) => { known with taken := some pending }
  | .post _, _ => { known with used := known.used ++ [.post] }
  | .saveToken _, _ => { known with used := known.used ++ [.save] }
  | _, _ => known

def oauthSystem (cfg : OAuthConfig) :
    System OAuthApi OAuthRequest OAuthKnown OAuthReply OAuthWorld where
  start := OAuthRequest.work cfg
  fresh := {}
  learn _ := OAuthKnown.learn
  serves := OAuthServes

/-! ## What each request does -/

/-- The pending state is the caller's, with the verifier made of the token. -/
structure PendingState.For (pending : PendingState) (serverName : Str) (auth : AuthContext)
    (token : Str) : Prop where
  serverName : pending.serverName = serverName
  tenantId : pending.tenantId = auth.tenantKey
  userId : pending.userId = auth.userId
  codeVerifier : pending.codeVerifier = token.take 128

/-- The record is saved for whom the state was pending. -/
structure TokenRecord.For (record : TokenRecord) (pending : PendingState) : Prop where
  serverName : record.serverName = pending.serverName
  tenantId : record.tenantId = pending.tenantId
  userId : record.userId = pending.userId

def TokenRequest.verifier (request : TokenRequest) : Option Str :=
  request.data.lookup "code_verifier".toList

/-- One verifier, one state and one put of an authorize call; one pop, one post and one save
of a callback. -/
def OAuthAllowed (request : OAuthRequest) (known : OAuthKnown) : OAuthCall → Prop
  | .tokenUrlsafe bytes => bytes = 64 ∧ known.drawn = [] ∨
      bytes = 32 ∧ ∃ token, known.drawn = [token]
  | .putState state pending => known.stored = [] ∧ ∃ serverName auth token,
      request = .authorize serverName auth ∧ known.drawn = [token, state] ∧
        pending.For serverName auth token
  | .popState state => request.presented = some state ∧ known.taken = none
  | .post sent => .post ∉ known.used ∧ ∃ pending, known.taken = some pending ∧
      sent.verifier = some pending.codeVerifier
  | .saveToken record => .save ∉ known.used ∧ ∃ pending, known.taken = some pending ∧
      record.For pending
  | _ => True

/-- The end of a URL that carries a challenge. -/
def challengeParams (codeChallenge : Str) : Str :=
  '&' :: "code_challenge".toList ++ '=' :: codeChallenge ++
    '&' :: "code_challenge_method".toList ++ '=' :: "S256".toList

/-- The URL names the state that was put and the challenge of the verifier. -/
def AuthorizeResponse.For (cfg : OAuthConfig) (response : AuthorizeResponse) (known : OAuthKnown) :
    Prop :=
  ∃ token codeChallenge, known.drawn = [token, response.state] ∧
    generateCodeChallenge cfg.sha256 (token.take 128) = .ok codeChallenge ∧
    challengeParams codeChallenge <:+ response.authorizeUrl

def OAuthPost (cfg : OAuthConfig) (known : OAuthKnown) (outcome : Except Exn OAuthReply) : Prop :=
  ∀ response, outcome = .ok (.issued response) → response.For cfg known

/-! ## The programs keep to it -/

section Guarded
variable {cfg : OAuthConfig} {request : OAuthRequest}

/-- Nothing but the calls that the bookkeeping ignores. -/
theorem foreign_allowed {known : OAuthKnown} (c : OAuthCall) (foreign : c.Foreign) :
    OAuthAllowed request known c := by
  cases c <;> first | exact foreign.elim | trivial

theorem foreign_learn {known : OAuthKnown} (c : OAuthCall) (answer : OAuthApi.Answer c)
    (foreign : c.Foreign) : known.learn c answer = known := by
  cases c <;> first | exact foreign.elim | rfl

theorem uses_discover (serverName : Str) (info : ServerInfo) :
    (discover cfg serverName info).Uses OAuthCall.Foreign := by
  rw [discover]
  split
  · exact Prog.uses_await (S := OAuthApi) trivial
  · exact Prog.uses_bind (Prog.uses_await (S := OAuthApi) trivial) fun _ =>
      Prog.uses_await (S := OAuthApi) trivial

theorem uses_registrationFor (serverName : Str) (info : ServerInfo) :
    (registrationFor cfg serverName info).Uses OAuthCall.Foreign := by
  refine Prog.uses_bind (Prog.uses_await (S := OAuthApi) trivial) fun stored => ?_
  cases stored with
  | some registration => trivial
  | none =>
    refine Prog.uses_attempt (uses_discover serverName info) fun outcome => ?_
    cases outcome with
    | ok registration => trivial
    | error error =>
      dsimp only
      split <;> trivial

/-- A part that only makes foreign calls leaves what is known. -/
theorem guarded_foreign {α β : Type} {p : OAuthHandler α} {f : α → OAuthHandler β}
    {post : OAuthKnown → Except Exn β → Prop} {known : OAuthKnown}
    (foreign : p.Uses OAuthCall.Foreign)
    (rest : ∀ value, (f value).Guarded (OAuthAllowed request) OAuthKnown.learn post known)
    (fails : ∀ error, post known (.error error)) :
    (p >>= f).Guarded (OAuthAllowed request) OAuthKnown.learn post known := by
  have first : p.Guarded (OAuthAllowed request) OAuthKnown.learn (fun later _ => later = known) known :=
    Prog.guarded_of_uses foreign foreign_allowed foreign_learn fun _ => rfl
  refine Prog.guarded_bind first ?_ ?_
  · rintro later value rfl
    exact rest value
  · rintro later error rfl
    exact fails error

/-- The challenge closes the query, and its digits need no quoting. -/
theorem challengeParams_suffix {registration : ClientRegistration} {state token codeChallenge : Str}
    (challenge : generateCodeChallenge cfg.sha256 token = .ok codeChallenge) :
    challengeParams codeChallenge <:+ registration.authorizationEndpoint ++
      '?' :: urlencode (authorizeParams cfg registration state codeChallenge) := by
  have plain : quotePlus codeChallenge = codeChallenge := by
    rw [generateCodeChallenge] at challenge
    split at challenge
    · obtain rfl := Except.ok.inj challenge
      rw [rstrip_urlsafeB64encode]
      exact quotePlus_unreserved (base64Digits_unreserved _)
    · cases challenge
  have names : quotePlus "code_challenge".toList = "code_challenge".toList ∧
      quotePlus "code_challenge_method".toList = "code_challenge_method".toList ∧
      quotePlus "S256".toList = "S256".toList :=
    ⟨quotePlus_unreserved rfl, quotePlus_unreserved rfl, quotePlus_unreserved rfl⟩
  obtain ⟨before, params⟩ : ∃ before, before ≠ [] ∧ authorizeParams cfg registration state codeChallenge =
      before ++ [("code_challenge".toList, codeChallenge)] ++
        [("code_challenge_method".toList, "S256".toList)] :=
    ⟨(authorizeParams cfg registration state codeChallenge).take 5, List.cons_ne_nil _ _, rfl⟩
  refine ⟨registration.authorizationEndpoint ++ '?' :: urlencode before, ?_⟩
  rw [params.2, urlencode_concat (by simp), urlencode_concat params.1, plain, names.1, names.2.1,
    names.2.2, challengeParams]
  simp only [List.append_assoc, List.cons_append]

theorem guarded_putPending {serverName : Str} {auth : AuthContext}
    {registration : ClientRegistration} {token codeChallenge : Str}
    (challenge : generateCodeChallenge cfg.sha256 (token.take 128) = .ok codeChallenge) :
    (putPending cfg serverName auth registration (token.take 128) codeChallenge).Guarded
      (OAuthAllowed (.authorize serverName auth)) OAuthKnown.learn
      (fun known outcome => ∀ response, outcome = .ok response → response.For cfg known)
      { drawn := [token] } := by
  refine ⟨.inr ⟨rfl, token, rfl⟩, fun drawn => ?_⟩
  rcases drawn with error | state
  · exact fun _ raised => nomatch raised
  refine ⟨trivial, fun time => ?_⟩
  rcases time with error | createdAt
  · exact fun _ raised => nomatch raised
  refine ⟨⟨rfl, serverName, auth, token, rfl, rfl, ⟨rfl, rfl, rfl, rfl⟩⟩, fun put => ?_⟩
  rcases put with error | put
  · exact fun _ raised => nomatch raised
  rintro response same
  obtain rfl := Except.ok.inj same
  exact ⟨token, codeChallenge, rfl, challenge, challengeParams_suffix challenge⟩

theorem guarded_issueState (serverName : Str) (auth : AuthContext)
    (registration : ClientRegistration) :
    (issueState cfg serverName auth registration).Guarded
      (OAuthAllowed (.authorize serverName auth)) OAuthKnown.learn
      (fun known outcome => ∀ response, outcome = .ok response → response.For cfg known) {} := by
  have verifier : (generateCodeVerifier 64).Guarded (OAuthAllowed (.authorize serverName auth))
      OAuthKnown.learn (fun known outcome => ∀ codeVerifier, outcome = .ok codeVerifier →
        ∃ token, known = { drawn := [token] } ∧ codeVerifier = token.take 128) {} := by
    refine ⟨.inl ⟨rfl, rfl⟩, fun drawn => ?_⟩
    rcases drawn with error | token
    · exact fun _ raised => nomatch raised
    · exact fun _ same => ⟨token, rfl, (Except.ok.inj same).symm⟩
  refine Prog.guarded_bind verifier (fun later codeVerifier generated => ?_)
    fun _ _ _ _ raised => nomatch raised
  obtain ⟨token, rfl, rfl⟩ := generated codeVerifier rfl
  cases challenge : generateCodeChallenge cfg.sha256 (token.take 128) with
  | error error => exact fun _ raised => nomatch raised
  | ok codeChallenge => exact guarded_putPending challenge

theorem guarded_getAuthorizeUrl (serverName : Str) (auth : AuthContext) :
    (getAuthorizeUrl cfg serverName auth).Guarded (OAuthAllowed (.authorize serverName auth))
      OAuthKnown.learn
      (fun known outcome => ∀ response, outcome = .ok response → response.For cfg known) {} := by
  rw [getAuthorizeUrl]
  split
  · exact fun _ raised => nomatch raised
  · split
    · exact fun _ raised => nomatch raised
    · refine guarded_foreign (uses_registrationFor serverName _) (fun registration => ?_)
        fun _ _ raised => nomatch raised
      split
      · exact fun _ raised => nomatch raised
      · exact guarded_issueState serverName auth registration

theorem tokenRequest_verifier (tokenEndpoint redirectUri code codeVerifier : Str)
    (registration : ClientRegistration) :
    (tokenRequest tokenEndpoint redirectUri code codeVerifier registration).verifier =
      some codeVerifier := by
  rw [tokenRequest]
  split_ifs <;> rfl

theorem tokenRecord_for {pending : PendingState} {registration : ClientRegistration}
    {data : Json.Value} {now : Rat} {record : TokenRecord}
    (made : tokenRecord pending registration data now = .ok record) : record.For pending := by
  cases data with
  | obj fields =>
    rw [tokenRecord] at made
    split at made
    · obtain rfl := Except.ok.inj made
      exact ⟨rfl, rfl, rfl⟩
    · cases made
  | _ => cases made

/-- What a callback knows once it has popped its state, and once it has posted. -/
def Popped (pending : PendingState) : OAuthKnown := { taken := some pending }
def Exchanged (pending : PendingState) : OAuthKnown := { taken := some pending, used := [.post] }

variable {pending : PendingState} {registration : ClientRegistration}

theorem guarded_exchange (tokenEndpoint redirectUri code : Str) :
    (exchangeAuthorizationCode cfg tokenEndpoint redirectUri code pending.codeVerifier
      registration).Guarded (OAuthAllowed request) OAuthKnown.learn
      (fun known _ => known = Exchanged pending) (Popped pending) := by
  refine Prog.guarded_attempt ⟨⟨List.not_mem_nil, pending, rfl, tokenRequest_verifier ..⟩,
    fun answer => ?_⟩
  rcases answer with error | resp
  · change Prog.Guarded _ _ _ (if error.isException then _ else _ : OAuthHandler _) _
    split <;> exact rfl
  · change Prog.Guarded _ _ _ (if resp.statusCode ≥ 400 then _ else _ : OAuthHandler _) _
    split
    · exact rfl
    · split <;> exact rfl

theorem uses_warmAuthorized (record : TokenRecord) :
    (warmAuthorized cfg pending record).Uses OAuthCall.Foreign := by
  rw [warmAuthorized]
  split
  · refine Prog.uses_attempt (Prog.uses_await (S := OAuthApi) trivial) fun outcome => ?_
    cases outcome with
    | ok done => trivial
    | error error =>
      dsimp only
      split <;> trivial
  · trivial

theorem guarded_saveRecord {record : TokenRecord} (made : record.For pending) :
    (saveRecord cfg record).Guarded (OAuthAllowed request) OAuthKnown.learn (fun _ _ => True)
      (Exchanged pending) := by
  rw [saveRecord]
  split
  · refine ⟨⟨by simp [Exchanged], pending, rfl, made⟩, fun answer => ?_⟩
    rcases answer with error | saved <;> exact trivial
  · exact trivial

theorem guarded_storeToken (data : Json.Value) :
    (storeToken cfg pending registration data).Guarded (OAuthAllowed request) OAuthKnown.learn
      (fun _ _ => True) (Exchanged pending) := by
  refine Prog.guarded_bind (?_ : OAuth.time.Guarded _ _ (fun known _ => known = Exchanged pending) _)
    ?_ fun _ _ _ => trivial
  · refine ⟨trivial, fun time => ?_⟩
    rcases time with error | now <;> exact rfl
  · rintro later now rfl
    split
    · exact trivial
    · next record made =>
      refine Prog.guarded_bind (guarded_saveRecord (tokenRecord_for made)) (fun later _ _ => ?_)
        fun _ _ _ => trivial
      exact guarded_foreign (uses_warmAuthorized record) (fun _ => trivial) fun _ => trivial

theorem guarded_redeem (code : Str) :
    (redeem cfg code pending).Guarded (OAuthAllowed request) OAuthKnown.learn (fun _ _ => True)
      (Popped pending) := by
  refine guarded_foreign (Prog.uses_await (S := OAuthApi) trivial) (fun found => ?_) fun _ => trivial
  cases found with
  | none => exact trivial
  | some registration =>
    dsimp only
    split
    · exact trivial
    · refine Prog.guarded_bind (guarded_exchange _ _ code) ?_ fun _ _ _ => trivial
      rintro later outcome rfl
      split
      · exact trivial
      · exact trivial
      · exact guarded_storeToken _

theorem guarded_oauthCallback (code state error : Str) :
    (oauthCallback cfg code state error).Guarded (OAuthAllowed (.callback code state error))
      OAuthKnown.learn (fun _ _ => True) {} := by
  rw [oauthCallback]
  split_ifs
  · exact trivial
  · exact trivial
  · refine ⟨⟨rfl, rfl⟩, fun popped => ?_⟩
    rcases popped with raised | _ | pending
    · exact trivial
    · exact trivial
    · exact guarded_redeem code

theorem guarded_oauthRequest (request : OAuthRequest) :
    (request.work cfg).Guarded (OAuthAllowed request) OAuthKnown.learn (OAuthPost cfg) {} := by
  cases request with
  | authorize serverName auth =>
    refine Prog.guarded_bind (guarded_getAuthorizeUrl serverName auth) (fun known response issued => ?_)
      fun _ _ _ _ raised => nomatch raised
    rintro _ same
    cases same
    exact issued response rfl
  | callback code state error =>
    exact Prog.guarded_bind (guarded_oauthCallback code state error)
      (fun _ _ _ _ same => nomatch same) fun _ _ _ _ raised => nomatch raised

end Guarded

/-! ## Everything comes from a put -/

/-- The request presents a state that was put, and the pending state is of this kind. -/
def Redeems (w : OAuthWorld) (request : OAuthRequest) (kind : PendingState → Prop) : Prop :=
  ∃ creator state pending, request.presented = some state ∧ (creator, state, pending) ∈ w.created ∧
    kind pending

/-- Every pending state, every post and every record goes back to a state that was put. -/
structure OAuthInvariant (w : OAuthWorld) : Prop where
  pending : ∀ state pending, (state, pending) ∈ w.pending →
    ∃ creator, (creator, state, pending) ∈ w.created
  posts : ∀ request sent, (request, sent) ∈ w.posts →
    Redeems w request fun pending => sent.verifier = some pending.codeVerifier
  saves : ∀ request record, (request, record) ∈ w.saves → Redeems w request record.For

/-- A request has put its own state, and has popped one that was put. -/
structure OAuthMeans (w : OAuthWorld) (request : OAuthRequest) (known : OAuthKnown) : Prop where
  stored : ∀ state pending, (state, pending) ∈ known.stored → ∃ serverName auth token,
    request = .authorize serverName auth ∧ known.drawn = [token, state] ∧
      pending.For serverName auth token
  taken : ∀ pending, known.taken = some pending → Redeems w request (· = pending)

section Discipline
variable {request : OAuthRequest} {w w' : OAuthWorld} {known : OAuthKnown} {c : OAuthCall}
  {answer : OAuthApi.Answer c}

theorem serves_created (served : OAuthServes request w c answer w')
    {entry : OAuthRequest × Str × PendingState} (member : entry ∈ w.created) : entry ∈ w'.created := by
  cases served with
  | put | putFails => exact .tail _ member
  | _ => exact member

theorem Redeems.mono {other : OAuthRequest} {kind : PendingState → Prop} (redeems : Redeems w other kind)
    (served : OAuthServes request w c answer w') : Redeems w' other kind := by
  obtain ⟨creator, state, pending, presented, created, fits⟩ := redeems
  exact ⟨creator, state, pending, presented, serves_created served created, fits⟩

theorem OAuthMeans.mono {other : OAuthRequest} {fact : OAuthKnown} (means : OAuthMeans w other fact)
    (served : OAuthServes request w c answer w') : OAuthMeans w' other fact :=
  ⟨means.stored, fun pending taken => (means.taken pending taken).mono served⟩

/-- What a popped state is used for goes back to where it was put. -/
theorem OAuthMeans.redeems {kind : PendingState → Prop} (means : OAuthMeans w request known)
    {pending : PendingState} (taken : known.taken = some pending) (fits : kind pending) :
    Redeems w request kind := by
  obtain ⟨creator, state, _, presented, created, rfl⟩ := means.taken pending taken
  exact ⟨creator, state, _, presented, created, fits⟩

theorem erase_pending {state other : Str} {pending : PendingState}
    (member : (other, pending) ∈ (w.erase state).pending) : (other, pending) ∈ w.pending :=
  List.mem_of_mem_filter member

theorem keeps_invariant (invariant : OAuthInvariant w) (means : OAuthMeans w request known)
    (may : OAuthAllowed request known c) (served : OAuthServes request w c answer w') :
    OAuthInvariant w' := by
  have posts : ∀ who sent, (who, sent) ∈ w.posts →
      Redeems w' who fun pending => sent.verifier = some pending.codeVerifier :=
    fun who sent member => (invariant.posts who sent member).mono served
  have saves : ∀ who record, (who, record) ∈ w.saves → Redeems w' who record.For :=
    fun who record member => (invariant.saves who record member).mono served
  have pending : ∀ state pending, (state, pending) ∈ w.pending →
      ∃ creator, (creator, state, pending) ∈ w'.created := by
    intro state pending member
    obtain ⟨creator, created⟩ := invariant.pending state pending member
    exact ⟨creator, serves_created served created⟩
  cases served with
  | draw | popFails | other | putFails => exact ⟨pending, posts, saves⟩
  | pop | popExpired | popLoses =>
    exact ⟨fun state stored member => pending state stored (erase_pending member), posts, saves⟩
  | put state stored =>
    refine ⟨fun other found member => ?_, posts, saves⟩
    rcases List.mem_cons.mp member with same | old
    · cases same
      exact ⟨request, .head _⟩
    · exact pending other found (erase_pending old)
  | post sent =>
    refine ⟨pending, fun who other member => ?_, saves⟩
    rcases List.mem_cons.mp member with same | old
    · cases same
      obtain ⟨_, stored, taken, verifier⟩ := may
      exact means.redeems taken verifier
    · exact posts who other old
  | save record =>
    refine ⟨pending, posts, fun who other member => ?_⟩
    rcases List.mem_cons.mp member with same | old
    · cases same
      obtain ⟨_, stored, taken, carries⟩ := may
      exact means.redeems taken carries
    · exact saves who other old

theorem learns_means (invariant : OAuthInvariant w) (means : OAuthMeans w request known)
    (may : OAuthAllowed request known c) (served : OAuthServes request w c answer w') :
    OAuthMeans w' request (known.learn c answer) := by
  have later := means.mono served
  cases served with
  | draw bytes token =>
    refine ⟨fun state pending member => ?_, later.taken⟩
    obtain ⟨_, _, drawn, _, two, _⟩ := means.stored state pending member
    rcases may with ⟨-, none⟩ | ⟨-, one, some⟩
    · simp [two] at none
    · simp [two] at some
  | put state pending answer | putFails state pending error =>
    refine ⟨fun other stored member => ?_, later.taken⟩
    obtain ⟨empty, serverName, auth, token, same, drawn, carries⟩ := may
    have only : (other, stored) = (state, pending) := by simpa [OAuthKnown.learn, empty] using member
    cases only
    exact ⟨serverName, auth, token, same, drawn, carries⟩
  | pop state =>
    cases found : w.pending.lookup state with
    | none => exact later
    | some pending =>
      refine ⟨later.stored, fun other taken => ?_⟩
      obtain rfl := Option.some.inj taken
      obtain ⟨before, behind, split, _⟩ := List.lookup_eq_some_iff.mp found
      obtain ⟨creator, created⟩ := invariant.pending state pending (by simp [split])
      exact ⟨creator, state, _, may.1, created, rfl⟩
  | post | save => exact ⟨later.stored, later.taken⟩
  | popExpired | popFails | popLoses => exact later
  | other c answer foreign =>
    rw [foreign_learn c answer foreign]
    exact later

theorem oauth_discipline (cfg : OAuthConfig) :
    Discipline (oauthSystem cfg) OAuthAllowed (fun _ => OAuthPost cfg) OAuthInvariant OAuthMeans where
  starts := guarded_oauthRequest
  means_fresh _ _ := ⟨fun _ _ member => (nomatch member), fun _ taken => (nomatch taken)⟩
  keeps := keeps_invariant
  stable _ _ _ served _ _ fact := fact.mono served
  learns := learns_means

end Discipline

/-! ## Each state is used once -/

def OAuthWorld.uses (w : OAuthWorld) : TokenUse → List OAuthRequest
  | .post => w.posts.map Prod.fst
  | .save => w.saves.map Prod.fst

section Once
variable (use : TokenUse) (state : Str)

/-- A state that has not been drawn may still be drawn once. -/
def undrawn (w : OAuthWorld) : Nat := if (32, state) ∈ w.drawn then 0 else 1

def draws (known : OAuthKnown) : Nat := if known.drawn[1]? = some state then 1 else 0

/-- A drawn state may be put, a put state popped, and a popped one used. -/
def usesLeft (w : OAuthWorld) : Nat :=
  undrawn state w + w.pending.countP (·.1 = state) + (w.uses use).countP (·.presented = some state)

def unput (known : OAuthKnown) : Nat :=
  if known.drawn[1]? = some state ∧ known.stored = [] then 1 else 0

def unused (request : OAuthRequest) (known : OAuthKnown) : Nat :=
  if request.presented = some state ∧ known.taken.isSome = true ∧ use ∉ known.used then 1 else 0

variable {use} {state} {request : OAuthRequest} {w w' : OAuthWorld} {known : OAuthKnown}
  {c : OAuthCall} {answer : OAuthApi.Answer c}

theorem undrawn_draw {bytes : Nat} {token : Str} (fresh : (bytes, token) ∉ w.drawn)
    (may : OAuthAllowed request known (.tokenUrlsafe bytes)) :
    undrawn state { w with drawn := (bytes, token) :: w.drawn } + draws state (known.draw token) ≤
      undrawn state w ∧ draws state known = 0 := by
  rcases may with ⟨rfl, none⟩ | ⟨rfl, first, one⟩
  · simp [undrawn, draws, OAuthKnown.draw, none]
  · by_cases same : token = state
    · subst same
      simp [undrawn, draws, OAuthKnown.draw, one, fresh]
    · have other : state ≠ token := fun equal => same equal.symm
      simp [undrawn, draws, OAuthKnown.draw, one, same, other]

theorem draws_spends (may : OAuthAllowed request known c) (served : OAuthServes request w c answer w') :
    undrawn state w' + draws state (known.learn c answer) ≤ undrawn state w + draws state known := by
  cases served with
  | draw bytes token fresh =>
    have moved : undrawn state { w with drawn := (bytes, token) :: w.drawn } +
        draws state (known.draw token) ≤ undrawn state w ∧ draws state known = 0 :=
      undrawn_draw fresh may
    exact moved.1.trans (Nat.le_add_right _ _)
  | pop other => cases w.pending.lookup other <;> exact Nat.le_refl _
  | other c answer foreign =>
    rw [foreign_learn c answer foreign]
  | _ => exact Nat.le_refl _

theorem count_erase (other : Str) :
    (w.erase other).pending.countP (·.1 = state) =
      if other = state then 0 else w.pending.countP (·.1 = state) := by
  rw [OAuthWorld.erase, List.countP_filter]
  split
  · next same =>
    subst same
    simp
  · next differ =>
    refine List.countP_congr fun entry _ => ?_
    simp only [Bool.and_eq_true, decide_eq_true_eq, and_iff_left_iff_imp]
    rintro rfl same
    exact differ same.symm

theorem usesLeft_erase (other : Str) : usesLeft use state (w.erase other) ≤ usesLeft use state w := by
  have same : (w.erase other).uses use = w.uses use := by cases use <;> rfl
  have drawn : undrawn state (w.erase other) = undrawn state w := rfl
  rw [usesLeft, usesLeft, count_erase, same, drawn]
  split_ifs <;> omega

theorem usesLeft_pop {other : Str} {pending : PendingState}
    (found : w.pending.lookup other = some pending) :
    usesLeft use state (w.erase other) + (if other = state then 1 else 0) ≤ usesLeft use state w := by
  have same : (w.erase other).uses use = w.uses use := by cases use <;> rfl
  have drawn : undrawn state (w.erase other) = undrawn state w := rfl
  obtain ⟨before, behind, split, _⟩ := List.lookup_eq_some_iff.mp found
  have present : 0 < w.pending.countP (·.1 = other) :=
    List.countP_pos_iff.mpr ⟨(other, pending), by simp [split], by simp⟩
  rw [usesLeft, usesLeft, count_erase, same, drawn]
  split_ifs with equal
  · subst equal
    omega
  · omega

theorem usesLeft_put (other : Str) (pending : PendingState)
    (created : List (OAuthRequest × Str × PendingState)) :
    usesLeft use state { w.put other pending with created } ≤
      usesLeft use state w + if other = state then 1 else 0 := by
  have same : OAuthWorld.uses { w.put other pending with created } use = w.uses use := by
    cases use <;> rfl
  have drawn : undrawn state { w.put other pending with created } = undrawn state w := rfl
  have stored : ({ w.put other pending with created } : OAuthWorld).pending =
      (other, pending) :: (w.erase other).pending := rfl
  rw [usesLeft, usesLeft, same, drawn, stored, List.countP_cons, count_erase]
  by_cases equal : other = state
  · rw [if_pos equal, if_pos (decide_eq_true equal), if_pos equal]
    omega
  · rw [if_neg equal, if_neg (fun holds => equal (of_decide_eq_true holds)), if_neg equal]
    omega

/-- Putting a state uses up the call's turn. -/
theorem unput_put {other : Str} {pending : PendingState}
    (may : OAuthAllowed request known (.putState other pending)) :
    unput state known = (if other = state then 1 else 0) ∧
      unput state { known with stored := known.stored ++ [(other, pending)] } = 0 := by
  obtain ⟨empty, _, _, token, _, drawn, _⟩ := may
  simp [unput, empty, drawn]

/-- Popping a state gives the callback its turn, if it was pending. -/
theorem unused_pop {other : Str} {pending : PendingState}
    (may : OAuthAllowed request known (.popState other)) :
    unused use state request { known with taken := some pending } ≤ if other = state then 1 else 0 := by
  rw [unused, may.1]
  split_ifs <;> simp_all

/-- A use ends the turn. -/
theorem unused_use (other : TokenUse) (fresh : other ∉ known.used) (taken : known.taken.isSome = true)
    (pending : w'.pending = w.pending) (drawn : w'.drawn = w.drawn)
    (uses : w'.uses use = if use = other then request :: w.uses use else w.uses use) :
    usesLeft use state w' + unused use state request { known with used := known.used ++ [other] } ≤
      usesLeft use state w + unused use state request known := by
  rw [usesLeft, usesLeft, undrawn, undrawn, pending, drawn, uses]
  by_cases same : use = other
  · subst same
    rw [if_pos rfl, List.countP_cons]
    simp only [decide_eq_true_eq, unused, taken, fresh, not_false_eq_true, and_true,
      List.mem_append, List.mem_singleton, or_true, not_true_eq_false, and_false, if_false]
    omega
  · rw [if_neg same]
    simp [unused, same]

theorem unput_le (known : OAuthKnown) : unput state known ≤ draws state known := by
  rw [unput, draws]
  split_ifs with both drawn drawn
  · exact Nat.le_refl _
  · exact absurd both.1 drawn
  · exact Nat.zero_le _
  · exact Nat.le_refl _

theorem uses_spends (may : OAuthAllowed request known c)
    (served : OAuthServes request w c answer w') :
    usesLeft use state w' + (unput state (known.learn c answer) +
        unused use state request (known.learn c answer)) ≤
      usesLeft use state w + (unput state known + unused use state request known) := by
  cases served with
  | draw bytes token fresh =>
    have moved : undrawn state { w with drawn := (bytes, token) :: w.drawn } +
        draws state (known.draw token) ≤ undrawn state w ∧ draws state known = 0 :=
      undrawn_draw fresh may
    have fewer : unput state (known.draw token) ≤ draws state (known.draw token) := unput_le _
    have left : usesLeft use state { w with drawn := (bytes, token) :: w.drawn } =
        undrawn state { w with drawn := (bytes, token) :: w.drawn } +
          w.pending.countP (·.1 = state) + (w.uses use).countP (·.presented = some state) := by
      cases use <;> rfl
    have same : unused use state request (known.draw token) = unused use state request known := rfl
    change _ + (unput state (known.draw token) + unused use state request (known.draw token)) ≤ _
    rw [left, same, usesLeft]
    omega
  | put other pending answer =>
    obtain ⟨turn, spent⟩ : unput state known = (if other = state then 1 else 0) ∧
        unput state { known with stored := known.stored ++ [(other, pending)] } = 0 := unput_put may
    have more : usesLeft use state { w.put other pending with
        created := (request, other, pending) :: w.created } ≤
          usesLeft use state w + if other = state then 1 else 0 := usesLeft_put other pending _
    change _ + (unput state { known with stored := known.stored ++ [(other, pending)] } +
      unused use state request known) ≤ _
    omega
  | putFails other pending error =>
    have spent : unput state { known with stored := known.stored ++ [(other, pending)] } = 0 :=
      (unput_put may).2
    change usesLeft use state w + (unput state { known with stored := known.stored ++ [(other, pending)] } +
      unused use state request known) ≤ _
    omega
  | pop other =>
    cases found : w.pending.lookup other with
    | none => exact Nat.add_le_add_right (usesLeft_erase other) _
    | some pending =>
      have fewer : usesLeft use state (w.erase other) + (if other = state then 1 else 0) ≤
          usesLeft use state w := usesLeft_pop found
      have turn : unused use state request { known with taken := some pending } ≤
          if other = state then 1 else 0 := unused_pop may
      change _ + (unput state known + unused use state request { known with taken := some pending }) ≤ _
      omega
  | popExpired other => exact Nat.add_le_add_right (usesLeft_erase other) _
  | popFails other error => exact Nat.le_refl _
  | popLoses other error => exact Nat.add_le_add_right (usesLeft_erase other) _
  | post sent =>
    obtain ⟨fresh, pending, taken, _⟩ := may
    have spent : usesLeft use state { w with posts := (request, sent) :: w.posts } +
        unused use state request { known with used := known.used ++ [.post] } ≤
          usesLeft use state w + unused use state request known :=
      unused_use .post fresh (by simp [taken]) rfl rfl (by cases use <;> rfl)
    change _ + (unput state known + unused use state request { known with used := known.used ++ [.post] }) ≤ _
    omega
  | save record =>
    obtain ⟨fresh, pending, taken, _⟩ := may
    have spent : usesLeft use state { w with saves := (request, record) :: w.saves } +
        unused use state request { known with used := known.used ++ [.save] } ≤
          usesLeft use state w + unused use state request known :=
      unused_use .save fresh (by simp [taken]) rfl rfl (by cases use <;> rfl)
    change _ + (unput state known + unused use state request { known with used := known.used ++ [.save] }) ≤ _
    omega
  | other c answer foreign =>
    rw [foreign_learn c answer foreign]

end Once

/-! ## Pools of requests -/

abbrev OAuthTask : Type := Task OAuthApi OAuthRequest OAuthKnown OAuthReply

abbrev OAuthPool : Type := Pool OAuthApi OAuthRequest OAuthKnown OAuthReply OAuthWorld

/-- The call, and no other of the pool, has put the state. -/
def Initiates (pool : OAuthPool) (state : Str) (call : OAuthTask) : Prop :=
  ∃ before after, pool.tasks = before ++ call :: after ∧ state ∈ call.known.stored.map Prod.fst ∧
    ∀ other ∈ before ++ after, state ∉ other.known.stored.map Prod.fst

/-- The request presents a state that the call has put. -/
def leadsTo (call : OAuthTask) (request : OAuthRequest) : Bool :=
  call.known.stored.any fun entry => request.presented = some entry.1

section Pools
variable {cfg : OAuthConfig} {pool : OAuthPool}

theorem oauth_starts : InOrder (oauthSystem cfg) OAuthAllowed (fun _ => OAuthPost cfg) OAuthInvariant
    OAuthMeans ⟨{}, []⟩ where
  world := ⟨fun _ _ member => (nomatch member), fun _ _ member => (nomatch member),
    fun _ _ member => (nomatch member)⟩
  tasks _ member := nomatch member

theorem draws_once (reaches : Reaches (oauthSystem cfg) ⟨{}, []⟩ pool) (state : Str) :
    (pool.tasks.map fun call => draws state call.known).sum ≤ 1 := by
  have total := total_reaches (undrawn state) (fun _ => draws state) (oauth_discipline cfg)
    (fun _ => rfl) (fun _ _ => draws_spends) oauth_starts reaches
  exact (Nat.le_add_left _ _).trans total

theorem uses_once (reaches : Reaches (oauthSystem cfg) ⟨{}, []⟩ pool) (use : TokenUse) (state : Str) :
    (pool.world.uses use).countP (·.presented = some state) ≤ 1 := by
  have total := total_reaches (usesLeft use state)
    (fun request known => unput state known + unused use state request known) (oauth_discipline cfg)
    (fun request => by simp [oauthSystem, unput, unused]) (fun _ _ => uses_spends) oauth_starts reaches
  have start : (⟨{}, []⟩ : OAuthPool).total (usesLeft use state)
      (fun request known => unput state known + unused use state request known) = 1 := by
    cases use <;> rfl
  rw [start, Pool.total, usesLeft] at total
  omega

theorem stored_learn {known : OAuthKnown} {c : OAuthCall} {answer : OAuthApi.Answer c}
    {entry : Str × PendingState} (stored : entry ∈ known.stored) :
    entry ∈ (known.learn c answer).stored := by
  cases c with
  | putState state pending => exact List.mem_append_left _ stored
  | tokenUrlsafe bytes => cases answer <;> exact stored
  | popState state =>
    rcases answer with error | _ | pending <;> exact stored
  | _ => exact stored

theorem created_backed (reaches : Reaches (oauthSystem cfg) ⟨{}, []⟩ pool) :
    ∀ entry ∈ pool.world.created, ∃ call ∈ pool.tasks,
      call.owner = entry.1 ∧ entry.2 ∈ call.known.stored := by
  refine backed_reaches OAuthWorld.created
    (fun entry owner known => owner = entry.1 ∧ entry.2 ∈ known.stored) (oauth_discipline cfg) ?_
    (fun backing => ⟨backing.1, stored_learn backing.2⟩) oauth_starts reaches
    fun _ member => (nomatch member)
  intro world world' owner known c answer _ _ _ served entry member
  cases served with
  | put state pending | putFails state pending =>
    rcases List.mem_cons.mp member with rfl | old
    · exact .inr ⟨rfl, List.mem_append_right _ (.head _)⟩
    · exact .inl old
  | _ => exact .inl member

/-- A state that was put has one call behind it, and carries that call's caller and verifier. -/
theorem created_initiates (reaches : Reaches (oauthSystem cfg) ⟨{}, []⟩ pool) {creator : OAuthRequest}
    {state : Str} {pending : PendingState} (created : (creator, state, pending) ∈ pool.world.created) :
    ∃ call ∈ pool.tasks, Initiates pool state call ∧ ∃ serverName auth token,
      call.owner = .authorize serverName auth ∧ call.known.drawn = [token, state] ∧
        pending.For serverName auth token := by
  have order := inOrder_reaches (oauth_discipline cfg) oauth_starts reaches
  have drawn {call : OAuthTask} (member : call ∈ pool.tasks) {entry : Str × PendingState}
      (stored : entry ∈ call.known.stored) : draws entry.1 call.known = 1 := by
    obtain ⟨_, _, _, _, two, _⟩ := (order.tasks call member).1.stored entry.1 entry.2 stored
    simp [draws, two]
  obtain ⟨call, member, rfl, stored⟩ := created_backed reaches _ created
  obtain ⟨before, after, split⟩ := List.append_of_mem member
  refine ⟨call, member, ⟨before, after, split, List.mem_map.mpr ⟨_, stored, rfl⟩, ?_⟩, ?_⟩
  · intro other elsewhere states
    obtain ⟨entry, put, rfl⟩ := List.mem_map.mp states
    have there : other ∈ pool.tasks := by
      rw [split]
      rcases List.mem_append.mp elsewhere with left | right
      · exact List.mem_append_left _ left
      · exact List.mem_append_right _ (.tail _ right)
    have once := draws_once reaches entry.1
    rw [split] at once
    have alone : draws entry.1 other.known = 0 :=
      alone_of_sum_le (fun _ => draws entry.1) once (drawn member stored).ge elsewhere
    exact absurd (drawn there put) (by omega)
  · exact (order.tasks call member).1.stored state pending stored

end Pools

/-- Every record belongs to whoever made the call that put the presented state; the verifier
sent is that call's, whose challenge is in its URL; and no call leads to two uses. -/
structure OAuthBound (cfg : OAuthConfig) (pool : OAuthPool) : Prop where
  saved : ∀ request record, (request, record) ∈ pool.world.saves →
    ∃ state call serverName auth, request.presented = some state ∧ Initiates pool state call ∧
      call.owner = .authorize serverName auth ∧ record.serverName = serverName ∧
      record.tenantId = auth.tenantKey ∧ record.userId = auth.userId
  posted : ∀ request sent, (request, sent) ∈ pool.world.posts →
    ∃ state call token, request.presented = some state ∧ Initiates pool state call ∧
      call.known.drawn = [token, state] ∧ sent.verifier = some (token.take 128) ∧
      ∀ response, call.outcome = some (.ok (.issued response)) → response.state = state ∧
        ∃ codeChallenge, generateCodeChallenge cfg.sha256 (token.take 128) = .ok codeChallenge ∧
          challengeParams codeChallenge <:+ response.authorizeUrl
  once : ∀ call ∈ pool.tasks, ∀ use, (pool.world.uses use).countP (leadsTo call) ≤ 1

theorem tokens_bound {cfg : OAuthConfig} {pool : OAuthPool}
    (reaches : Reaches (oauthSystem cfg) ⟨{}, []⟩ pool) : OAuthBound cfg pool := by
  have order := inOrder_reaches (oauth_discipline cfg) oauth_starts reaches
  constructor
  · intro request record member
    obtain ⟨creator, state, pending, presented, created, carries⟩ :=
      order.world.saves request record member
    obtain ⟨call, _, initiates, serverName, auth, token, owner, _, its⟩ :=
      created_initiates reaches created
    exact ⟨state, call, serverName, auth, presented, initiates, owner,
      carries.serverName.trans its.serverName, carries.tenantId.trans its.tenantId,
      carries.userId.trans its.userId⟩
  · intro request sent member
    obtain ⟨creator, state, pending, presented, created, verifier⟩ :=
      order.world.posts request sent member
    obtain ⟨call, there, initiates, serverName, auth, token, _, drawn, its⟩ :=
      created_initiates reaches created
    refine ⟨state, call, token, presented, initiates, drawn, ?_, fun response finished => ?_⟩
    · rw [verifier, its.codeVerifier]
    · obtain ⟨_, codeChallenge, tokens, challenge, suffix⟩ :=
        (order.outcome there finished).2 response rfl
      obtain ⟨rfl, same⟩ := List.cons.inj (drawn.symm.trans tokens)
      exact ⟨(List.cons.inj same).1.symm, codeChallenge, challenge, suffix⟩
  · intro call member use
    have means := (order.tasks call member).1
    cases stored : call.known.stored with
    | nil =>
      have never : leadsTo call = fun _ => false := by
        funext request
        simp [leadsTo, stored]
      simp [never]
    | cons entry rest =>
      have one {other : Str × PendingState} (put : other ∈ call.known.stored) : other.1 = entry.1 := by
        obtain ⟨_, _, _, _, drawn, _⟩ := means.stored other.1 other.2 put
        obtain ⟨_, _, _, _, same, _⟩ := means.stored entry.1 entry.2 (by simp [stored])
        exact (List.cons.inj (List.cons.inj (drawn.symm.trans same)).2).1
      refine le_trans (List.countP_mono_left fun request _ leads => ?_) (uses_once reaches use entry.1)
      obtain ⟨other, put, presented⟩ := List.any_eq_true.mp leads
      rw [one put] at presented
      exact presented

/-! ## A flow with a replayed callback -/

def crmRegistration : ClientRegistration :=
  { authorizationEndpoint := "https://auth/authorize".toList, tokenEndpoint := "https://auth/token".toList,
    clientId := "dyn-client".toList }

/-- Longer than every token so far. -/
def nextToken (w : OAuthWorld) : Str :=
  List.replicate ((w.drawn.map fun token => token.2.length).sum + 1) 'v'

/-- A server that never fails, and whose token endpoint accepts every code. -/
def oauthServer (request : OAuthRequest) : Server OAuthApi OAuthWorld
  | .getRegistration _, w => (.ok (some crmRegistration), w)
  | .probeMetadata _ _, w => (.ok [], w)
  | .ensureRegistration _ _ _ _, w => (.ok crmRegistration, w)
  | .tokenUrlsafe bytes, w => (.ok (nextToken w), { w with drawn := (bytes, nextToken w) :: w.drawn })
  | .time, w => (.ok (0 : Rat), w)
  | .putState state pending, w =>
    (.ok (), { w.put state pending with created := (request, state, pending) :: w.created })
  | .popState state, w => (.ok (w.pending.lookup state), w.erase state)
  | .post sent, w => (.ok ⟨200, [], .ok (.obj [("access_token".toList, Json.text "token")])⟩,
      { w with posts := (request, sent) :: w.posts })
  | .saveToken record, w => (.ok (), { w with saves := (request, record) :: w.saves })
  | .warm _ _ _ _, w => (.ok (), w)

theorem nextToken_fresh (w : OAuthWorld) (bytes : Nat) : (bytes, nextToken w) ∉ w.drawn := by
  intro member
  obtain ⟨before, after, split⟩ := List.append_of_mem member
  have longer := congrArg (fun drawn => (drawn.map fun token : Nat × Str => token.2.length).sum) split
  simp only [List.map_append, List.map_cons, List.sum_append, List.sum_cons, nextToken,
    List.length_replicate] at longer
  omega

theorem oauthServer_serves (request : OAuthRequest) (w : OAuthWorld) (c : OAuthCall) :
    OAuthServes request w c (oauthServer request c w).1 (oauthServer request c w).2 := by
  cases c with
  | tokenUrlsafe bytes => exact .draw bytes _ (nextToken_fresh w bytes)
  | putState state pending => exact .put state pending _
  | popState state => exact .pop state
  | post sent => exact .post sent _
  | saveToken record => exact .save record _
  | _ => exact .other _ _ trivial

/-- The digest of the first token. -/
def digestV : List UInt8 :=
  [0x4c, 0x94, 0x48, 0x5e, 0x0c, 0x21, 0xae, 0x6c, 0x41, 0xce, 0x1d, 0xfe, 0x7b, 0x6b, 0xfa, 0xce,
    0xea, 0x5a, 0xb6, 0x8e, 0x40, 0xa2, 0x47, 0x6f, 0x50, 0x20, 0x8e, 0x52, 0x6f, 0x50, 0x60, 0x80]

def crmConfig : OAuthConfig :=
  { apiBaseUrl := "http://localhost:8000".toList,
    registry := some [("crm".toList, ⟨"https://crm/mcp".toList, none⟩)], sha256 := fun _ => digestV }

/-- One authorize call and two callbacks with its state, the second in between the first. -/
def replayedPool : OAuthPool :=
  Pool.turns (oauthSystem crmConfig) oauthServer {}
    [.authorize "crm".toList ⟨"t".toList, "u".toList, []⟩, .callback "code".toList "vv".toList [],
      .callback "forged".toList "vv".toList []] [0, 0, 0, 0, 0, 1, 2, 1, 1, 1, 1, 1]

theorem tokens_bound_replayed :
    replayedPool.world.saves.length = 1 ∧ OAuthBound crmConfig replayedPool :=
  ⟨by decide, tokens_bound (reaches_turns oauthServer_serves _ _ _)⟩

end OrchidApi
