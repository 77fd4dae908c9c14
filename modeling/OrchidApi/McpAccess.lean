import OrchidApi.McpAuth
import OrchidApi.OAuthBinding

/-! The endpoints for the MCP servers in one process, with whatever the framework does to the
stores: a caller is told of no token but their own and revokes no other, and whoever has a
token has asked for it. -/
namespace OrchidApi
open Text Async

/-! ## Rules -/

/-- What has been told, or the default of a store that is missing. -/
def AskedIf (wired : Bool) {β : Type} (missing : β) (told : β → Prop) (value : β) : Prop :=
  if wired then told value else value = missing

theorem AskedIf.mono {wired : Bool} {β : Type} {missing : β} {told wider : β → Prop} {value : β}
    (asked : AskedIf wired missing told value) (widens : told value → wider value) :
    AskedIf wired missing wider value := by
  cases wired with
  | true => exact widens asked
  | false => exact asked

theorem AskedIf.told {wired : Bool} {β : Type} {missing : β} {told : β → Prop} {value : β}
    (asked : AskedIf wired missing told value) (other : value ≠ missing) : told value := by
  cases wired with
  | true => exact asked
  | false => exact absurd asked other

/-- The entry of a server, by the caller's token for it and by its registration. -/
def entryFor (registry : AuthRegistry) (name : Str) (token : Option Token)
    (registration : Option ClientRegistration) : McpAuthServer where
  serverName := name
  agentNames := registry.agentNames name
  authorized := token.isSome && !(token.map Token.isExpired).getD false
  tokenExpired := (token.map Token.isExpired).getD false
  discovered := registration.isSome
  scopes := (registration.map ClientRegistration.scopesSupported).getD []

/-- The contexts that the dependencies have read show what they give. -/
def McpRequest.Given (d : McpDeployment) (facts : AuthFacts) (env : McpEnv) : McpRequest → Prop
  | servers => facts.Shows (fun app => d.registry app.orchid) env.registry ∧
      facts.Shows (fun app => app.getMcpTokenStore.toBool) env.hasTokenStore ∧
      facts.Shows (fun app => app.getMcpClientRegistrationStore.toBool) env.hasRegistrationStore
  | discover _ _ | authorize _ => facts.Shows (fun app => d.registry app.orchid) env.registry ∧
      facts.Shows (fun app => app.getMcpClientRegistrationStore.toBool) env.hasRegistrationStore
  | callback _ _ _ => facts.Shows (fun app => app.getMcpTokenStore.toBool) env.hasTokenStore ∧
      facts.Shows (fun app => app.getMcpClientRegistrationStore.toBool) env.hasRegistrationStore ∧
      facts.Shows (fun app => app.orchid.isSome) env.warms
  | revoke _ => facts.Shows (fun app => app.getMcpTokenStore.toBool) env.hasTokenStore

/-- A missing store is the 503 of its helper. -/
def McpLacks (facts : AuthFacts) (error : Exn) : Prop :=
  facts.Shows AppContext.getMcpTokenStore (.error error) ∨
    facts.Shows AppContext.getMcpClientRegistrationStore (.error error) ∨
    facts.Shows AppContext.getOauthStateStore (.error error)

section Rules
variable (told : Told McpApi)

def EntryOf (auth : AuthContext) (env : McpEnv) (name : Str) (entry : McpAuthServer) : Prop :=
  ∃ token registration, entry = entryFor env.authRegistry name token registration ∧
    AskedIf env.hasTokenStore none (told (.getToken auth.tenantKey auth.userId name)) token ∧
    AskedIf env.hasRegistrationStore none (told (.oauth (.getRegistration name))) registration

/-- The discovery that is run for a server. -/
def discoveryOf (apiBaseUrl serverName resourceMetadataUrl : Str) (info : McpServer) : McpCall :=
  .discover serverName (callbackUrl apiBaseUrl) (info.metadataUrl resourceMetadataUrl) info.manualOauthConfig

/-- The changes that a request may make, where its dependencies have given the environment. -/
inductive McpRequest.Permits (apiBaseUrl : Str) (env : McpEnv) :
    (asked : McpRequest) → asked.access.Party → McpCall → Prop where
  | discover {auth : AuthContext} {serverName resourceMetadataUrl info}
      (listed : env.servers.lookup serverName = some info) :
      Permits apiBaseUrl env (.discover serverName resourceMetadataUrl) auth
        (discoveryOf apiBaseUrl serverName resourceMetadataUrl info)
  | revoke {auth : AuthContext} {serverName} : Permits apiBaseUrl env (.revoke serverName) auth
      (.deleteToken auth.tenantKey auth.userId serverName)
  | register {auth : AuthContext} {serverName info metadataUrl}
      (listed : env.servers.lookup serverName = some info) :
      Permits apiBaseUrl env (.authorize serverName) auth
        (.oauth (.ensureRegistration serverName (callbackUrl apiBaseUrl) metadataUrl info.manual))
  | put {auth : AuthContext} {serverName state pending token} (own : pending.For serverName auth token) :
      Permits apiBaseUrl env (.authorize serverName) auth (.oauth (.putState state pending))
  | pop {who : Unit} {code state error} :
      Permits apiBaseUrl env (.callback code state error) who (.oauth (.popState state))
  | post {who : Unit} {code state error pending sent}
      (popped : told (.oauth (.popState state)) (some pending))
      (verifier : sent.verifier = some pending.codeVerifier) :
      Permits apiBaseUrl env (.callback code state error) who (.oauth (.post sent))
  | save {who : Unit} {code state error pending record}
      (popped : told (.oauth (.popState state)) (some pending)) (own : record.For pending) :
      Permits apiBaseUrl env (.callback code state error) who (.oauth (.saveToken record))

/-- The answers that a request may get; the pages and the URLs have their own results. -/
inductive McpRequest.Tells (apiBaseUrl : Str) (env : McpEnv) :
    (asked : McpRequest) → asked.access.Party → McpReply → Prop where
  | servers {auth : AuthContext} {entries}
      (shown : List.Forall₂ (EntryOf told auth env) (env.servers.map Prod.fst) entries) :
      Tells apiBaseUrl env .servers auth (.servers entries)
  | discovered {auth : AuthContext} {serverName resourceMetadataUrl info record}
      (listed : env.servers.lookup serverName = some info)
      (found : told (discoveryOf apiBaseUrl serverName resourceMetadataUrl info) (.found record)) :
      Tells apiBaseUrl env (.discover serverName resourceMetadataUrl) auth
        (.discovered (discoveredBody record))
  | issued {auth : AuthContext} {serverName response} :
      Tells apiBaseUrl env (.authorize serverName) auth (.issued response)
  | page {who : Unit} {code state error response} :
      Tells apiBaseUrl env (.callback code state error) who (.page response)
  | revoked {auth : AuthContext} {serverName}
      (deleted : told (.deleteToken auth.tenantKey auth.userId serverName) true) :
      Tells apiBaseUrl env (.revoke serverName) auth .done

end Rules

def McpRequest.Ends (d : McpDeployment) (told : Told McpApi) (env : McpEnv) (asked : McpRequest)
    (who : asked.access.Party) : Except Exn McpReply → Prop
  | .ok reply => asked.Tells told d.apiBaseUrl env who reply
  | .error _ => True

def mcpRules (d : McpDeployment) : ServiceRules McpCall.Reply McpRequest.access McpEnv McpReply where
  given asked facts env := asked.Given d facts env
  lacks _ := McpLacks
  permits asked who env told c := asked.Permits told d.apiBaseUrl env who c
  ends asked who env told outcome := asked.Ends d told env who outcome
  once _ := false

section Mono
variable {told wider : Told McpApi} {apiBaseUrl : Str} {env : McpEnv}

theorem EntryOf.mono (widens : ∀ c value, told c value → wider c value) {auth : AuthContext} {name : Str}
    {entry : McpAuthServer} (shown : EntryOf told auth env name entry) :
    EntryOf wider auth env name entry := by
  obtain ⟨token, registration, same, held, found⟩ := shown
  exact ⟨token, registration, same, held.mono (widens _ _), found.mono (widens _ _)⟩

theorem McpRequest.Permits.mono (widens : ∀ c value, told c value → wider c value) {asked : McpRequest}
    {who : asked.access.Party} {c : McpCall} (permits : asked.Permits told apiBaseUrl env who c) :
    asked.Permits wider apiBaseUrl env who c := by
  cases permits with
  | discover listed => exact .discover listed
  | revoke => exact .revoke
  | register listed => exact .register listed
  | put own => exact .put own
  | pop => exact .pop
  | post popped verifier => exact .post (widens _ _ popped) verifier
  | save popped own => exact .save (widens _ _ popped) own

theorem McpRequest.Tells.mono (widens : ∀ c value, told c value → wider c value) {asked : McpRequest}
    {who : asked.access.Party} {reply : McpReply} (tells : asked.Tells told apiBaseUrl env who reply) :
    asked.Tells wider apiBaseUrl env who reply := by
  cases tells with
  | servers shown => exact .servers (shown.imp fun _ _ => EntryOf.mono widens)
  | discovered listed found => exact .discovered listed (widens _ _ found)
  | issued => exact .issued
  | page => exact .page
  | revoked deleted => exact .revoked (widens _ _ deleted)

end Mono

theorem EntryOf.authorized {auth : AuthContext} {env : McpEnv} {told : Told McpApi} {name : Str}
    {entry : McpAuthServer} (shown : EntryOf told auth env name entry)
    (authorized : entry.authorized = true) :
    entry.serverName = name ∧ ∃ token, told (.getToken auth.tenantKey auth.userId name) (some token) := by
  obtain ⟨token, registration, rfl, held, _⟩ := shown
  cases token with
  | none => contradiction
  | some token => exact ⟨rfl, token, held.told (Option.some_ne_none token)⟩

theorem mem_shown {R : Str → McpAuthServer → Prop} {names : List Str} {entries : List McpAuthServer}
    (shown : List.Forall₂ R names entries) {entry : McpAuthServer} (listed : entry ∈ entries) :
    ∃ name, R name entry := by
  induction shown with
  | nil => contradiction
  | cons first _ ih =>
    rcases List.mem_cons.mp listed with rfl | later
    · exact ⟨_, first⟩
    · exact ih later

/-! ## The listing -/

abbrev McpParty : Type := ServiceParty McpRequest.access McpOwn McpEnv

section Programs
variable {d : McpDeployment} {auth : AuthContext} {env : McpEnv} {party : McpParty}
  {heard : Heard McpApi} {α : Type}

abbrev McpKeeps (d : McpDeployment) (party : McpParty) (p : McpHandler α)
    (post : Heard McpApi → Except Exn α → Prop) (heard : Heard McpApi) : Prop :=
  (mcpService d).Keeps (mcpRules d) party p post heard

/-- What was told before still is. -/
def Grows (heard later : Heard McpApi) : Prop := ∀ c value, heard.told c value → later.told c value

theorem Grows.trans {later last : Heard McpApi} (grows : Grows heard later) (further : Grows later last) :
    Grows heard last := fun c value told => further c value (grows c value told)

/-- The last answer is told as well. -/
theorem told_last {c : McpCall} (answer : McpApi.Answer c) : Grows heard (⟨c, answer⟩ :: heard) ∧
    ∀ value, answer = .ok value → Heard.told (S := McpApi) (⟨c, answer⟩ :: heard) c value :=
  ⟨fun _ _ told => List.mem_cons_of_mem _ told, fun _ same => same ▸ .head _⟩

theorem keeps_askToken (wired : Bool) (tenant user name : Str) :
    McpKeeps d party (askIf wired (.getToken tenant user name) (none : Option Token)).inMcp
      (fun later outcome => Grows heard later ∧ ∀ token, outcome = .ok token →
        AskedIf wired none (later.told (.getToken tenant user name)) token) heard := by
  cases wired with
  | false => exact ⟨fun _ _ told => told, fun _ same => (Except.ok.inj same).symm⟩
  | true =>
    refine ⟨.read rfl rfl, fun answer => ?_⟩
    cases answer <;> exact told_last (c := .getToken tenant user name) _

theorem keeps_askRegistration (wired : Bool) (name : Str) :
    McpKeeps d party (askIf wired (.getRegistration name) (none : Option ClientRegistration)).inMcp
      (fun later outcome => Grows heard later ∧ ∀ registration, outcome = .ok registration →
        AskedIf wired none (later.told (.oauth (.getRegistration name))) registration) heard := by
  cases wired with
  | false => exact ⟨fun _ _ told => told, fun _ same => (Except.ok.inj same).symm⟩
  | true =>
    refine ⟨.read rfl rfl, fun answer => ?_⟩
    cases answer <;> exact told_last (c := .oauth (.getRegistration name)) _

theorem keeps_listServer (name : Str) :
    McpKeeps d party (listServer auth env.runtime env.hasRegistrationStore env.authRegistry name).inMcp
      (fun later outcome => Grows heard later ∧
        ∀ entry, outcome = .ok entry → EntryOf later.told auth env name entry) heard := by
  rw [listServer, DiscoveryHandler.inMcp, Prog.via_bind]
  refine Prog.guarded_bind (keeps_askToken _ _ _ _) (fun later token held => ?_) fun _ _ held =>
    ⟨held.1, never_ok⟩
  obtain ⟨grows, held⟩ := held
  rw [Prog.via_bind]
  refine Prog.guarded_bind (keeps_askRegistration _ _) (fun last registration found => ?_) fun _ _ found =>
    ⟨grows.trans found.1, never_ok⟩
  obtain ⟨further, found⟩ := found
  refine ⟨grows.trans further, fun entry same => ?_⟩
  cases same
  exact ⟨token, registration, rfl, (held token rfl).mono (further _ _), found registration rfl⟩

/-- Server by server, over what is left of the registry. -/
theorem keeps_listServers (names : List Str) :
    McpKeeps d party (listServers auth env.runtime env.hasRegistrationStore env.authRegistry names).inMcp
      (fun later outcome => Grows heard later ∧ ∀ entries, outcome = .ok entries →
        List.Forall₂ (EntryOf later.told auth env) names entries) heard := by
  induction names generalizing heard with
  | nil => exact ⟨fun _ _ told => told, fun _ same => Except.ok.inj same ▸ .nil⟩
  | cons name rest ih =>
    rw [listServers, DiscoveryHandler.inMcp, Prog.via_bind]
    refine Prog.guarded_bind (keeps_listServer name) (fun later entry shown => ?_) fun _ _ shown =>
      ⟨shown.1, never_ok⟩
    obtain ⟨grows, shown⟩ := shown
    rw [Prog.via_bind]
    refine Prog.guarded_bind ih (fun last entries listed => ?_) fun _ _ listed =>
      ⟨grows.trans listed.1, never_ok⟩
    obtain ⟨further, listed⟩ := listed
    refine ⟨grows.trans further, fun all same => ?_⟩
    cases same
    exact .cons ((shown entry rfl).mono further) (listed entries rfl)

theorem keeps_listMcpAuthServers :
    McpKeeps d party (listMcpAuthServers auth env.runtime env.hasRegistrationStore).inMcp
      (fun later outcome => ∀ entries, outcome = .ok entries →
        List.Forall₂ (EntryOf later.told auth env) (env.servers.map Prod.fst) entries) [] := by
  have unlisted (none : env.servers = []) : McpKeeps d party (pure [] : McpHandler (List McpAuthServer))
      (fun later outcome => ∀ entries, outcome = .ok entries →
        List.Forall₂ (EntryOf later.told auth env) (env.servers.map Prod.fst) entries) [] := by
    intro entries same
    rw [none, ← Except.ok.inj same]
    exact .nil
  have registry : env.runtime.mcpAuthRegistry = env.registry.map fun _ => env.authRegistry := rfl
  rw [listMcpAuthServers, registry]
  cases given : env.registry with
  | none => exact unlisted (by rw [McpEnv.servers, given]; rfl)
  | some servers =>
    change McpKeeps d party (DiscoveryHandler.inMcp (if env.servers.isEmpty then pure [] else
      listServers auth env.runtime env.hasRegistrationStore env.authRegistry (env.servers.map Prod.fst))) _ _
    split
    · next empty => exact unlisted (List.isEmpty_iff.mp empty)
    · exact Prog.guarded_mono (keeps_listServers _) fun _ _ listed => listed.2

/-! ## The OAuth flow -/

/-- What a flow has taken it has been told for the state that it presents. -/
def Took (flow : OAuthRequest) (heard : Heard McpApi) (known : OAuthKnown) : Prop :=
  ∀ pending, known.taken = some pending →
    ∃ state, flow.presented = some state ∧ heard.told (.oauth (.popState state)) (some pending)

theorem taken_learn (heard : Heard McpApi) {known : OAuthKnown} {c : OAuthCall} {answer : OAuthApi.Answer c}
    {pending : PendingState} (taken : (known.learn c answer).taken = some pending) :
    known.taken = some pending ∨
      ∃ state, c = .popState state ∧
        Heard.told (S := McpApi) (⟨.oauth c, answer⟩ :: heard) (.oauth (.popState state)) (some pending) := by
  cases c with
  | popState state =>
    rcases answer with error | _ | popped
    · exact .inl taken
    · exact .inl taken
    · obtain rfl : popped = pending := Option.some.inj taken
      exact .inr ⟨state, rfl, .head _⟩
  | tokenUrlsafe bytes => cases answer <;> exact .inl taken
  | _ => exact .inl taken

theorem Took.learn {flow : OAuthRequest} {known : OAuthKnown} (took : Took flow heard known) (c : OAuthCall)
    (answer : OAuthApi.Answer c) (may : OAuthAllowed flow known c) :
    Took flow (⟨.oauth c, answer⟩ :: heard) (known.learn c answer) := by
  intro pending taken
  rcases taken_learn heard taken with before | ⟨state, rfl, told⟩
  · obtain ⟨state, presented, told⟩ := took pending before
    exact ⟨state, presented, (told_last (c := .oauth c) answer).1 _ _ told⟩
  · exact ⟨state, may.1, told⟩

/-- The flow of a request, as what it knows permits its calls. -/
theorem keeps_flow {flow : OAuthRequest} {p : OAuthHandler α} {post : OAuthKnown → Except Exn α → Prop}
    {ok : OAuthCall → Prop} (guarded : p.Guarded (OAuthAllowed flow) OAuthKnown.learn post {})
    (uses : p.Uses ok)
    (allows : ∀ heard known c, Took flow heard known → OAuthAllowed flow known c → ok c →
      mcpStore.Allows ((mcpService d).Permits (mcpRules d)) (mcpRules d).once party heard (.oauth c)) :
    McpKeeps d party p.inMcp (fun _ _ => True) [] := by
  refine Prog.guarded_via (Prog.guarded_uses guarded uses) (R := Took flow) ?_ ?_ ?_ ?_
  · intro pending taken
    contradiction
  · intro heard known c took may
    exact allows heard known c took may.1 may.2
  · intro heard known c answer took may
    exact took.learn c answer may.1
  · intro _ _ _ _ _
    trivial

/-- A registration is made for the listed server of an authorize call, with the callback's URL. -/
def Registers (cfg : OAuthConfig) (flow : OAuthRequest) : OAuthCall → Prop
  | .ensureRegistration server redirectUri _ manualConfig =>
    ∃ auth servers info, flow = .authorize server auth ∧ cfg.registry = some servers ∧
      servers.lookup server = some info ∧ redirectUri = callbackUrl cfg.apiBaseUrl ∧
      manualConfig = info.manual
  | _ => True

section Registers
variable {cfg : OAuthConfig} {flow : OAuthRequest}

theorem registers_registrationFor {serverName : Str} {servers : List (Str × ServerInfo)} {info : ServerInfo}
    (auth : AuthContext) (registry : cfg.registry = some servers)
    (listed : servers.lookup serverName = some info) :
    (registrationFor cfg serverName info).Uses (Registers cfg (.authorize serverName auth)) := by
  have discovers : (discover cfg serverName info).Uses (Registers cfg (.authorize serverName auth)) := by
    rw [discover]
    cases manual : info.manual with
    | some config =>
      exact Prog.uses_await (S := OAuthApi) ⟨auth, servers, info, rfl, registry, listed, rfl, manual.symm⟩
    | none =>
      exact Prog.uses_bind (Prog.uses_await (S := OAuthApi) trivial) fun _ =>
        Prog.uses_await (S := OAuthApi) ⟨auth, servers, info, rfl, registry, listed, rfl, manual.symm⟩
  refine Prog.uses_bind (Prog.uses_await (S := OAuthApi) trivial) fun stored => ?_
  cases stored with
  | some registration => trivial
  | none =>
    refine Prog.uses_attempt discovers fun outcome => ?_
    cases outcome with
    | ok registration => trivial
    | error error => exact Prog.uses_ite trivial trivial

theorem registers_getAuthorizeUrl (serverName : Str) (auth : AuthContext) :
    (getAuthorizeUrl cfg serverName auth).Uses (Registers cfg (.authorize serverName auth)) := by
  rw [getAuthorizeUrl]
  cases registry : cfg.registry with
  | none => trivial
  | some servers =>
    dsimp only
    cases listed : servers.lookup serverName with
    | none => trivial
    | some info =>
      refine Prog.uses_bind (registers_registrationFor auth registry listed) fun registration => ?_
      refine Prog.uses_ite trivial ?_
      refine Prog.uses_bind (Prog.uses_bind (Prog.uses_await (S := OAuthApi) trivial) fun _ => trivial)
        fun codeVerifier => ?_
      split
      · trivial
      · refine Prog.uses_bind (Prog.uses_await (S := OAuthApi) trivial) fun state => ?_
        refine Prog.uses_bind (Prog.uses_await (S := OAuthApi) trivial) fun createdAt => ?_
        exact Prog.uses_bind (Prog.uses_await (S := OAuthApi) trivial) fun _ => trivial

theorem registers_storeToken (pending : PendingState) (registration : ClientRegistration)
    (data : Json.Value) :
    (storeToken cfg pending registration data).Uses (Registers cfg flow) := by
  refine Prog.uses_bind (Prog.uses_await (S := OAuthApi) trivial) fun now => ?_
  split
  · trivial
  · refine Prog.uses_bind (Prog.uses_ite (Prog.uses_await (S := OAuthApi) trivial) trivial) fun _ => ?_
    refine Prog.uses_bind (Prog.uses_ite ?_ trivial) fun _ => trivial
    refine Prog.uses_attempt (Prog.uses_await (S := OAuthApi) trivial) fun outcome => ?_
    cases outcome with
    | ok warmed => trivial
    | error error => exact Prog.uses_ite trivial trivial

theorem registers_exchange (tokenEndpoint redirectUri code codeVerifier : Str)
    (registration : ClientRegistration) :
    (exchangeAuthorizationCode cfg tokenEndpoint redirectUri code codeVerifier registration).Uses
      (Registers cfg flow) := by
  refine Prog.uses_attempt (Prog.uses_await (S := OAuthApi) trivial) fun outcome => ?_
  cases outcome with
  | error error => exact Prog.uses_ite trivial trivial
  | ok resp =>
    refine Prog.uses_ite trivial ?_
    cases resp.json <;> trivial

theorem registers_oauthCallback (code state error : Str) :
    (oauthCallback cfg code state error).Uses
      (Registers cfg (.callback code state error)) := by
  refine Prog.uses_ite trivial (Prog.uses_ite trivial ?_)
  refine Prog.uses_bind (Prog.uses_await (S := OAuthApi) trivial) fun popped => ?_
  cases popped with
  | none => trivial
  | some pending =>
    refine Prog.uses_bind (Prog.uses_await (S := OAuthApi) trivial) fun found => ?_
    cases found with
    | none => trivial
    | some registration =>
      refine Prog.uses_ite trivial (Prog.uses_bind (registers_exchange _ _ _ _ _) fun outcome => ?_)
      split
      · trivial
      · trivial
      · exact registers_storeToken pending registration _

end Registers

/-- The flow's registry is that of the environment. -/
theorem oauth_listed {servers : List (Str × ServerInfo)} {serverName : Str} {info : ServerInfo}
    (registry : (env.oauth d).registry = some servers) (listed : servers.lookup serverName = some info) :
    ∃ server : McpServer, env.servers.lookup serverName = some server ∧ server.toServerInfo = info := by
  obtain ⟨entries, given, rfl⟩ := Option.map_eq_some_iff.mp registry
  obtain ⟨before, after, split, others⟩ := List.lookup_eq_some_iff.mp listed
  obtain ⟨first, rest, rfl, rfl, same⟩ := List.map_eq_append_iff.mp split
  obtain ⟨⟨name, server⟩, rest, rfl, here, rfl⟩ := List.map_eq_cons_iff.mp same
  obtain ⟨rfl, rfl⟩ := Prod.mk.inj here
  refine ⟨server, ?_, rfl⟩
  rw [McpEnv.servers, given]
  exact List.lookup_eq_some_iff.mpr ⟨first, rest, rfl, fun entry member =>
    others _ (List.mem_map_of_mem member)⟩

theorem keeps_getAuthorizeUrl (serverName : Str) :
    McpKeeps d (.caller (.authorize serverName) auth env)
      (getAuthorizeUrl (env.oauth d) serverName auth).inMcp (fun _ _ => True) [] := by
  refine keeps_flow (guarded_getAuthorizeUrl serverName auth) (registers_getAuthorizeUrl serverName auth) ?_
  intro heard known c took may registers
  have nothing {pending : PendingState} (taken : known.taken = some pending) : False := by
    obtain ⟨state, presented, _⟩ := took pending taken
    contradiction
  cases c with
  | ensureRegistration server redirectUri metadataUrl manualConfig =>
    obtain ⟨auth, servers, info, same, registry, listed, rfl, rfl⟩ := registers
    cases same
    obtain ⟨server, found, rfl⟩ := oauth_listed registry listed
    exact .free (fun _ => .register found) rfl
  | putState state pending =>
    obtain ⟨_, server, caller, token, same, _, own⟩ := may
    cases same
    exact .free (fun _ => .put own) rfl
  | popState state =>
    obtain ⟨impossible, _⟩ := may
    contradiction
  | post sent =>
    obtain ⟨_, pending, taken, _⟩ := may
    exact (nothing taken).elim
  | saveToken record =>
    obtain ⟨_, pending, taken, _⟩ := may
    exact (nothing taken).elim
  | _ => exact .read rfl rfl

theorem keeps_oauthCallback (code state error : Str) :
    McpKeeps d (.caller (.callback code state error) () env)
      (oauthCallback (env.oauth d) code state error).inMcp (fun _ _ => True) [] := by
  refine keeps_flow (guarded_oauthCallback code state error) (registers_oauthCallback code state error) ?_
  intro heard known c took may registers
  have popped {pending : PendingState} (taken : known.taken = some pending) :
      heard.told (.oauth (.popState state)) (some pending) := by
    obtain ⟨presented, same, told⟩ := took pending taken
    cases same
    exact told
  cases c with
  | ensureRegistration server redirectUri metadataUrl manualConfig =>
    obtain ⟨auth, _, _, impossible, _⟩ := registers
    contradiction
  | putState other pending =>
    obtain ⟨_, server, caller, token, impossible, _⟩ := may
    contradiction
  | popState other =>
    obtain ⟨same, _⟩ := may
    cases same
    exact .free (fun _ => .pop) rfl
  | post sent =>
    obtain ⟨_, pending, taken, verifier⟩ := may
    exact .free (fun _ => .post (popped taken) verifier) rfl
  | saveToken record =>
    obtain ⟨_, pending, taken, own⟩ := may
    exact .free (fun _ => .save (popped taken) own) rfl
  | _ => exact .read rfl rfl

/-! ## Requests -/

theorem keeps_triggerDiscovery (serverName resourceMetadataUrl : Str) :
    McpKeeps d (.caller (.discover serverName resourceMetadataUrl) auth env)
      (triggerDiscovery d.apiBaseUrl env serverName resourceMetadataUrl) (fun later outcome =>
        ∀ fields, outcome = .ok fields → McpRequest.Tells later.told d.apiBaseUrl env
          (.discover serverName resourceMetadataUrl) auth (.discovered fields)) [] := by
  rw [triggerDiscovery]
  cases listed : env.servers.lookup serverName with
  | none => exact never_ok
  | some info =>
    refine ⟨.first (.discover listed), fun answer => ?_⟩
    rcases answer with error | record | reason
    · exact never_ok
    · intro fields same
      cases same
      exact .discovered listed (.head _)
    · exact never_ok

theorem keeps_revokeServerToken (serverName : Str) :
    McpKeeps d (.caller (.revoke serverName) auth env) (revokeServerToken serverName auth)
      (fun later outcome => ∀ value, outcome = .ok value →
        McpRequest.Tells later.told d.apiBaseUrl env (.revoke serverName) auth .done) [] := by
  refine ⟨.first .revoke, fun answer => ?_⟩
  rcases answer with error | _ | _
  · exact never_ok
  · exact never_ok
  · exact fun _ _ => .revoked (.head _)

theorem keeps_mcpHandle (asked : McpRequest) (who : asked.access.Party) (env : McpEnv) :
    McpKeeps d (.caller asked who env) (asked.handle d who env)
      (fun later outcome => asked.Ends d later.told env who outcome) [] := by
  cases asked with
  | servers =>
    refine Prog.guarded_bind keeps_listMcpAuthServers (fun later entries shown => ?_) fun _ _ _ => trivial
    exact .servers (shown entries rfl)
  | discover serverName resourceMetadataUrl =>
    refine Prog.guarded_bind (keeps_triggerDiscovery serverName resourceMetadataUrl)
      (fun later fields tells => ?_) fun _ _ _ => trivial
    exact tells fields rfl
  | authorize serverName =>
    refine Prog.guarded_bind (keeps_getAuthorizeUrl serverName) (fun later response _ => ?_)
      fun _ _ _ => trivial
    exact .issued
  | callback code state error =>
    refine Prog.guarded_bind (keeps_oauthCallback code state error) (fun later response _ => ?_)
      fun _ _ _ => trivial
    exact .page
  | revoke serverName =>
    refine Prog.guarded_bind (keeps_revokeServerToken serverName) (fun later value tells => ?_)
      fun _ _ _ => trivial
    exact tells value rfl

theorem AuthFacts.Shows.toBool {facts : AuthFacts} {β : Type} {helper : AppContext → Except Exn β} {value : β}
    (shows : facts.Shows helper (.ok value)) : facts.Shows (fun app => (helper app).toBool) true := by
  obtain ⟨app, read, given⟩ := shows
  exact ⟨app, read, congrArg Except.toBool given⟩

/-- The helpers read one context after the other. -/
theorem aside_mcpDepends (asked : McpRequest) (facts : AuthFacts) :
    Fronted (asked.depends d) (Aside McpLacks (fun later env => asked.Given d later env) facts) facts := by
  cases asked with
  | servers =>
    refine aside_bind aside_read fun later registry _ listed => ?_
    refine aside_bind aside_read fun later hasTokenStore second token => ?_
    refine aside_bind aside_read fun later hasRegistrationStore third registration => ?_
    exact aside_done ⟨listed.beside (second.trans third), token.beside third, registration⟩
  | discover serverName resourceMetadataUrl =>
    refine aside_bind aside_read fun later registry _ listed => ?_
    refine aside_bind (aside_depend fun _ _ => .inr ∘ .inl) fun later store second registration => ?_
    exact aside_done ⟨listed.beside second, registration.toBool⟩
  | authorize serverName =>
    refine aside_bind aside_read fun later registry _ listed => ?_
    refine aside_bind (aside_depend fun _ _ => .inr ∘ .inr) fun later store second _ => ?_
    refine aside_bind (aside_depend fun _ _ => .inr ∘ .inl) fun later store third registration => ?_
    exact aside_done ⟨listed.beside (second.trans third), registration.toBool⟩
  | callback code state error =>
    refine aside_bind (aside_depend fun _ _ => .inr ∘ .inr) fun later store _ _ => ?_
    refine aside_bind aside_read fun later hasTokenStore second token => ?_
    refine aside_bind (aside_depend fun _ _ => .inr ∘ .inl) fun later store third registration => ?_
    refine aside_bind aside_read fun later warms fourth warm => ?_
    exact aside_done ⟨token.beside (third.trans fourth), registration.toBool.beside fourth, warm⟩
  | revoke serverName =>
    refine aside_bind (aside_depend fun _ _ => .inl) fun later store _ token => ?_
    exact aside_done token.toBool

theorem mcp_bound (d : McpDeployment) : (mcpService d).Bound (mcpRules d) where
  depends := aside_mcpDepends
  handles := keeps_mcpHandle
  permits_mono widens permits := McpRequest.Permits.mono widens permits
  ends_mono {_ _ _ _ _ outcome} widens ends := by
    cases outcome with
    | ok reply => exact McpRequest.Tells.mono widens ends
    | error error => trivial

end Programs

/-! ## What changes a store -/

namespace McpStores
variable {w : McpStores} {tenant user server : Str}

theorem token_deleteToken (own caller name : Str) :
    (w.deleteToken own caller name).token tenant user server =
      if own = tenant ∧ caller = user ∧ name = server then none else w.token tenant user server := by
  rw [token, token, deleteToken, List.find?_filter]
  split
  · next same =>
    obtain ⟨rfl, rfl, rfl⟩ := same
    refine List.find?_eq_none.mpr fun record _ => ?_
    by_cases found : record.IsFor own caller name <;> simp [found]
  · next other =>
    refine congrArg (fun p => w.tokens.find? p) (funext fun record => ?_)
    by_cases found : record.IsFor tenant user server
    · obtain ⟨rfl, rfl, rfl⟩ := found
      have kept : ¬record.IsFor own caller name := fun ⟨own, caller, name⟩ =>
        other ⟨own.symm, caller.symm, name.symm⟩
      simp [kept]
    · simp [found]

theorem token_saveToken (record : TokenRecord) :
    (w.saveToken record).token tenant user server =
      if record.IsFor tenant user server then some record else w.token tenant user server := by
  split
  · next found => exact List.find?_cons_of_pos (decide_eq_true found)
  · next other =>
    calc (w.saveToken record).token tenant user server
        = (w.deleteToken record.tenantId record.userId record.serverName).token tenant user server :=
          List.find?_cons_of_neg (mt of_decide_eq_true other)
      _ = w.token tenant user server := (token_deleteToken _ _ _).trans (if_neg other)

/-- The other calls leave the tokens. -/
theorem after_tokens {c : McpCall} (deletes : ∀ own caller name, c ≠ .deleteToken own caller name)
    (saves : ∀ record, c ≠ .oauth (.saveToken record)) : (w.after c).tokens = w.tokens := by
  rcases c with _ | ⟨own, caller, name⟩ | _ | _ | c
  · rfl
  · exact absurd rfl (deletes own caller name)
  · rfl
  · rfl
  · cases c with
    | saveToken record => exact absurd rfl (saves record)
    | _ => rfl

theorem lost_by {c : McpCall} (held : (w.token tenant user server).isSome = true)
    (lost : ¬((w.after c).token tenant user server).isSome = true) :
    c = .deleteToken tenant user server := by
  by_cases deletes : ∃ own caller name, c = .deleteToken own caller name
  · obtain ⟨own, caller, name, rfl⟩ := deletes
    change ¬((w.deleteToken own caller name).token tenant user server).isSome = true at lost
    rw [token_deleteToken] at lost
    split at lost
    · next same =>
      obtain ⟨rfl, rfl, rfl⟩ := same
      rfl
    · contradiction
  · by_cases saves : ∃ record, c = .oauth (.saveToken record)
    · obtain ⟨record, rfl⟩ := saves
      change ¬((w.saveToken record).token tenant user server).isSome = true at lost
      rw [token_saveToken] at lost
      split at lost
      · exact absurd rfl lost
      · contradiction
    · rw [token, after_tokens (fun own caller name same => deletes ⟨own, caller, name, same⟩)
        fun record same => saves ⟨record, same⟩] at lost
      contradiction

theorem gained_by {c : McpCall} (lacking : ¬(w.token tenant user server).isSome = true)
    (gained : ((w.after c).token tenant user server).isSome = true) :
    ∃ record : TokenRecord, c = .oauth (.saveToken record) ∧ record.IsFor tenant user server := by
  by_cases saves : ∃ record, c = .oauth (.saveToken record)
  · obtain ⟨record, rfl⟩ := saves
    change ((w.saveToken record).token tenant user server).isSome = true at gained
    rw [token_saveToken] at gained
    split at gained
    · next found => exact ⟨record, rfl, found⟩
    · contradiction
  · by_cases deletes : ∃ own caller name, c = .deleteToken own caller name
    · obtain ⟨own, caller, name, rfl⟩ := deletes
      change ((w.deleteToken own caller name).token tenant user server).isSome = true at gained
      rw [token_deleteToken] at gained
      split at gained <;> contradiction
    · rw [token, after_tokens (fun own caller name same => deletes ⟨own, caller, name, same⟩)
        fun record same => saves ⟨record, same⟩] at gained
      contradiction

/-- Nothing but its put makes a state pending. -/
theorem put_by {c : McpCall} {state : Str} {pending : PendingState} (before : (state, pending) ∉ w.pending)
    (after : (state, pending) ∈ (w.after c).pending) : c = .oauth (.putState state pending) := by
  rcases c with _ | _ | _ | _ | c
  · contradiction
  · contradiction
  · contradiction
  · contradiction
  · cases c with
    | popState other => exact absurd (List.mem_of_mem_filter after) before
    | putState other made =>
      rcases List.mem_cons.mp after with same | old
      · cases same
        rfl
      · exact absurd (List.mem_of_mem_filter old) before
    | _ => contradiction

end McpStores

/-! ## Over any interleaving -/

abbrev McpTask : Type := ServiceTask McpOwn McpRequest

abbrev McpPool : Type :=
  Pool (FrontApi McpCall.Reply) McpTask (ServiceFacts McpCall.Reply) McpReply (Chronicle McpApi McpStores)

/-- The log of all changes to the stores, whose they are, and what the callers have been told. -/
structure McpAccounted (s : AuthSettings) (d : McpDeployment) (initial : McpStores) (pool : McpPool) :
    Prop where
  /-- The log leads from the first state to this one. -/
  replayed : pool.world.now = mcpStore.replay initial pool.world.changes
  /-- Each change was made by the framework, or by a request of someone who may make it in the
  environment that the contexts show which it has read. -/
  permitted : ∀ later c earlier, pool.world.changes = later ++ c :: earlier → ∃ task ∈ pool.tasks,
    task.known.heard.Made c ∧ ((∃ own, task.owner = .framework own ∧ c = own.call) ∨
      ∃ headers asked, task.owner = .request headers asked ∧ ∃ who env,
        asked.access.Attested s headers task.known.toAuthFacts who ∧
          asked.Given d task.known.toAuthFacts env ∧
          asked.Permits (mcpStore.told initial earlier) d.apiBaseUrl env who c)
  /-- Whatever a request is answered with, whoever is attested to it may be told so. -/
  earned : ∀ task ∈ pool.tasks, ∀ headers asked, task.owner = .request headers asked →
    ∀ reply, task.outcome = some (.ok reply) → ∃ who env,
      asked.access.Attested s headers task.known.toAuthFacts who ∧
        asked.Given d task.known.toAuthFacts env ∧
        asked.Tells (mcpStore.told initial pool.world.changes) d.apiBaseUrl env who reply

/-- Someone with the tenant and the user is attested to the headers. -/
def AttestsUser (s : AuthSettings) (headers : AuthHeaders) (facts : AuthFacts) (tenant user : Str) : Prop :=
  ∃ ctx, Attests s headers facts ctx ∧ ctx.auth.tenantKey = tenant ∧ ctx.auth.userId = user

/-- At the moment, the state was pending for the user from the first, or the user's own authorize
call had put that very state. -/
def RequestedBy (s : AuthSettings) (initial : McpStores) (pool : McpPool) (moment : List McpCall)
    (state tenant user server : Str) : Prop :=
  ∃ pending : PendingState,
    pending.tenantId = tenant ∧ pending.userId = user ∧ pending.serverName = server ∧
    ((state, pending) ∈ initial.pending ∨ .oauth (.putState state pending) ∈ moment ∧
      ∃ task ∈ pool.tasks, task.known.heard.Made (.oauth (.putState state pending)) ∧
        ∃ headers, task.owner = .request headers (.authorize server) ∧
          AttestsUser s headers task.known.toAuthFacts tenant user)

/-- How a token has come into the store at a moment of the log. -/
inductive Saved (s : AuthSettings) (initial : McpStores) (pool : McpPool) (moment : List McpCall)
    (record : TokenRecord) : Prop where
  | refreshed {task} (member : task ∈ pool.tasks) (made : task.known.heard.Made (.oauth (.saveToken record)))
      (own : task.owner = .framework (.refresh record))
  | redeemed {task headers code state error} (member : task ∈ pool.tasks)
      (made : task.known.heard.Made (.oauth (.saveToken record)))
      (asked : task.owner = .request headers (.callback code state error))
      (requested : RequestedBy s initial pool moment state record.tenantId record.userId record.serverName)

/-- How a token has gone from the store. -/
inductive Removed (s : AuthSettings) (pool : McpPool) (tenant user server : Str) : Prop where
  | dropped {task} (member : task ∈ pool.tasks)
      (made : task.known.heard.Made (.deleteToken tenant user server))
      (own : task.owner = .framework (.drop tenant user server))
  | revoked {task headers} (member : task ∈ pool.tasks)
      (made : task.known.heard.Made (.deleteToken tenant user server))
      (asked : task.owner = .request headers (.revoke server))
      (attested : AttestsUser s headers task.known.toAuthFacts tenant user)

/-- The change between the two moments with those before it. -/
def Between (older newer : List McpCall) (c : McpCall) (earlier : List McpCall) : Prop :=
  older <:+ earlier ∧ c :: earlier <:+ newer

/-- A user holds a token for the server at the moment. -/
def HeldAt (initial : McpStores) (moment : List McpCall) (tenant user server : Str) : Prop :=
  ((mcpStore.replay initial moment).token tenant user server).isSome = true

/-- Between any two moments of the log, who loses a token has revoked it and who gets one has asked
for it, if it was not the framework, and no one is shown a server as authorized without having held
a token of their own. -/
structure ServerTokensAccounted (s : AuthSettings) (initial : McpStores) (pool : McpPool) : Prop where
  lost : ∀ older newer tenant user server, older <:+ newer → newer <:+ pool.world.changes →
    HeldAt initial older tenant user server → ¬HeldAt initial newer tenant user server →
    (∃ earlier, Between older newer (.deleteToken tenant user server) earlier) ∧
      Removed s pool tenant user server
  gained : ∀ older newer tenant user server, older <:+ newer → newer <:+ pool.world.changes →
    ¬HeldAt initial older tenant user server → HeldAt initial newer tenant user server →
    ∃ record : TokenRecord, record.IsFor tenant user server ∧ ∃ earlier,
      Between older newer (.oauth (.saveToken record)) earlier ∧ Saved s initial pool earlier record
  shown : ∀ task ∈ pool.tasks, ∀ headers, task.owner = .request headers .servers →
    ∀ entries, task.outcome = some (.ok (.servers entries)) →
    ∃ ctx, Attests s headers task.known.toAuthFacts ctx ∧ ∀ entry ∈ entries, entry.authorized = true →
      ∃ moment, moment <:+ pool.world.changes ∧
        HeldAt initial moment ctx.auth.tenantKey ctx.auth.userId entry.serverName

section Pools
variable {s : AuthSettings} {d : McpDeployment} {initial : McpStores} {pool : McpPool}

theorem mcp_accounted (reaches : Reaches ((mcpService d).system s) ⟨⟨initial, []⟩, []⟩ pool) :
    McpAccounted s d initial pool where
  replayed := service_follows (mcp_bound d) reaches
  permitted _ _ _ made := by
    obtain ⟨task, member, did, framework | ⟨headers, asked, owner, who, env, admits, permits⟩⟩ :=
      service_permitted (mcp_bound d) reaches made
    · exact ⟨task, member, did, .inl framework⟩
    · exact ⟨task, member, did,
        .inr ⟨headers, asked, owner, who, env, admits.attested, admits.given, permits⟩⟩
  earned _ member _ _ owner _ ended := by
    rcases service_ended (mcp_bound d) reaches member owner ended with
      ⟨who, env, admits, tells⟩ | ⟨error, impossible, _⟩
    · exact ⟨who, env, admits.attested, admits.given, tells⟩
    · contradiction

/-- A state that a callback was told of, at whatever moment of the log. -/
theorem requested_of_popped (reaches : Reaches ((mcpService d).system s) ⟨⟨initial, []⟩, []⟩ pool)
    {state : Str} {pending : PendingState} {moment : List McpCall} (past : moment <:+ pool.world.changes)
    (popped : mcpStore.told initial moment (.oauth (.popState state)) (some pending)) :
    RequestedBy s initial pool moment state pending.tenantId pending.userId pending.serverName := by
  obtain ⟨before, older, answers, _⟩ := popped
  have there : (state, pending) ∈ (mcpStore.replay initial before).pending := by
    rcases answers with none | found
    · contradiction
    · obtain ⟨left, right, split, _⟩ := List.lookup_eq_some_iff.mp found.symm
      rw [split]
      exact List.mem_append_right _ (.head _)
  refine ⟨pending, rfl, rfl, rfl, ?_⟩
  by_cases first : (state, pending) ∈ initial.pending
  · exact .inl first
  obtain ⟨later, c, earlier, rfl, _, lacking, put⟩ := Store.replay_undone
    (p := fun w : McpStores => (state, pending) ∉ w.pending) (List.nil_suffix (l := before)) first
    (not_not.mpr there)
  obtain rfl := McpStores.put_by lacking (not_not.mp put)
  obtain ⟨newer, split⟩ := older.trans past
  rw [← List.append_assoc] at split
  refine .inr ⟨older.subset (List.mem_append_right _ (.head _)), ?_⟩
  obtain ⟨task, member, did, ⟨own, _, same⟩ | ⟨headers, asked, owner, who, env, attested, _, permits⟩⟩ :=
    (mcp_accounted reaches).permitted _ _ _ split.symm
  · cases own <;> cases same
  · cases permits with
    | @put auth serverName _ _ token own =>
      obtain ⟨ctx, attests, rfl⟩ := attested
      exact ⟨task, member, did, headers, own.serverName ▸ owner, ctx, attests, own.tenantId.symm,
        own.userId.symm⟩

/-- A token has been saved by the framework, or by a callback whose state its user had requested. -/
theorem saved_of_made (reaches : Reaches ((mcpService d).system s) ⟨⟨initial, []⟩, []⟩ pool)
    {record : TokenRecord} {later earlier : List McpCall}
    (made : pool.world.changes = later ++ .oauth (.saveToken record) :: earlier) :
    Saved s initial pool earlier record := by
  obtain ⟨task, member, did, ⟨own, framework, same⟩ |
      ⟨headers, asked, owner, who, env, attested, _, permits⟩⟩ :=
    (mcp_accounted reaches).permitted _ _ _ made
  · cases own with
    | refresh saved =>
      cases same
      exact .refreshed member did framework
    | drop | register => contradiction
  · cases permits with
    | save popped own =>
      have past : earlier <:+ pool.world.changes :=
        made ▸ List.suffix_append_of_suffix (List.suffix_cons _ _)
      have requested := requested_of_popped reaches past popped
      rw [← own.tenantId, ← own.userId, ← own.serverName] at requested
      exact .redeemed member did owner requested

theorem removed_of_made (reaches : Reaches ((mcpService d).system s) ⟨⟨initial, []⟩, []⟩ pool)
    {tenant user server : Str} {later earlier : List McpCall}
    (made : pool.world.changes = later ++ .deleteToken tenant user server :: earlier) :
    Removed s pool tenant user server := by
  obtain ⟨task, member, did, ⟨own, framework, same⟩ |
      ⟨headers, asked, owner, who, env, attested, _, permits⟩⟩ :=
    (mcp_accounted reaches).permitted _ _ _ made
  · cases own with
    | drop =>
      cases same
      exact .dropped member did framework
    | refresh | register => contradiction
  · cases permits
    obtain ⟨ctx, attests, rfl⟩ := attested
    exact .revoked member did owner ⟨ctx, attests, rfl, rfl⟩

theorem server_tokens_accounted (reaches : Reaches ((mcpService d).system s) ⟨⟨initial, []⟩, []⟩ pool) :
    ServerTokensAccounted s initial pool where
  lost older newer tenant user server grown past held gone := by
    obtain ⟨later, c, earlier, rfl, since, before, after⟩ := Store.replay_undone
      (p := fun w : McpStores => (w.token tenant user server).isSome = true) grown held gone
    obtain rfl := McpStores.lost_by before after
    obtain ⟨more, made⟩ := past
    rw [← List.append_assoc] at made
    exact ⟨⟨earlier, since, List.suffix_append _ _⟩, removed_of_made reaches made.symm⟩
  gained older newer tenant user server grown past lacking held := by
    obtain ⟨later, c, earlier, rfl, since, before, after⟩ := Store.replay_undone
      (p := fun w : McpStores => ¬(w.token tenant user server).isSome = true) grown lacking (not_not.mpr held)
    obtain ⟨record, rfl, belongs⟩ := McpStores.gained_by before (not_not.mp after)
    obtain ⟨more, made⟩ := past
    rw [← List.append_assoc] at made
    exact ⟨record, belongs, earlier, ⟨since, List.suffix_append _ _⟩, saved_of_made reaches made.symm⟩
  shown task member headers owner entries ended := by
    obtain ⟨who, env, ⟨ctx, attests, rfl⟩, _, tells⟩ :=
      (mcp_accounted reaches).earned task member headers _ owner _ ended
    refine ⟨ctx, attests, fun entry listed authorized => ?_⟩
    cases tells with
    | servers shown =>
      obtain ⟨name, about⟩ := mem_shown shown listed
      obtain ⟨rfl, token, moment, past, held, _⟩ := about.authorized authorized
      exact ⟨moment, past, held.symm⟩

end Pools

/-! A user starts a flow, and the browser that comes back redeems it; a stranger revokes in vain,
and the user is shown the server and revokes. -/

def crmApp : AppContext where
  orchid := some { id := 0, hasTokenStore := true, hasRegistrationStore := true }
  identityResolver := some (.custom { path := "acme.auth.Resolver".toList } none)
  oauthStateStore := some { id := 0 }

def crmDeployment : McpDeployment where
  apiBaseUrl := "http://localhost:8000".toList
  registry _ := some [("crm".toList, { url := "https://crm/mcp".toList, agentNames := ["sales".toList] })]
  sha256 _ := digestV

/-- The token is the name of its user. -/
def crmIdentity (bearerToken : Str) : Resolution :=
  .context { auth := { tenantKey := "t".toList, userId := bearerToken }, accessToken := bearerToken }

/-- The first random tokens of each size, a registration that is there, and a token endpoint that
accepts every code. -/
def McpStores.answer (w : McpStores) : (c : McpCall) → McpApi.Answer c
  | .getToken tenant user server => .ok ((w.token tenant user server).map fun _ => (⟨false⟩ : Token))
  | .deleteToken tenant user server => .ok (w.token tenant user server).isSome
  | .discover _ _ _ _ => .ok (.failed [])
  | .saveRegistration _ _ => .ok ()
  | .oauth (.getRegistration server) => .ok (w.registrations.lookup server)
  | .oauth (.popState state) => .ok (w.pending.lookup state)
  | .oauth (.probeMetadata _ _) => .ok []
  | .oauth (.ensureRegistration _ _ _ _) => .ok crmRegistration
  | .oauth (.tokenUrlsafe bytes) => .ok (List.replicate (bytes / 32) 'v')
  | .oauth .time => .ok (0 : Rat)
  | .oauth (.post _) => .ok ⟨200, [], .ok (.obj [("access_token".toList, Json.text "token")])⟩
  | .oauth (.putState _ _) | .oauth (.saveToken _) | .oauth (.warm _ _ _ _) => .ok ()

theorem answers_answer (w : McpStores) (c : McpCall) {value : c.Reply} (same : w.answer c = .ok value) :
    mcpStore.answers w c value := by
  cases c with
  | getToken tenant user server => exact (Except.ok.inj same) ▸ Option.isSome_map
  | deleteToken tenant user server => exact (Except.ok.inj same).symm
  | discover | saveRegistration => trivial
  | oauth c =>
    cases c with
    | getRegistration server => exact (Except.ok.inj same).symm
    | popState state => exact .inr (Except.ok.inj same).symm
    | _ => trivial

def crmServer : Server (FrontApi McpCall.Reply) (Chronicle McpApi McpStores)
  | .inl c, w => (answersInFront crmApp crmIdentity c, w)
  | .inr c, w => (w.now.answer c, if mcpStore.changes c then ⟨w.now.after c, c :: w.changes⟩ else w)

theorem crmServer_serves (task : McpTask) (w : Chronicle McpApi McpStores)
    (c : (FrontApi McpCall.Reply).Call) :
    ((mcpService crmDeployment).system {}).serves task w c (crmServer c w).1 (crmServer c w).2 := by
  rcases c with c | c
  · exact rfl
  · change mcpStore.Serves w c (w.now.answer c)
      (if mcpStore.changes c then ⟨w.now.after c, c :: w.changes⟩ else w)
    have answered : ∃ value, w.now.answer c = .ok value := by
      rcases c with _ | _ | _ | _ | c
      case oauth => cases c <;> exact ⟨_, rfl⟩
      all_goals exact ⟨_, rfl⟩
    obtain ⟨value, same⟩ := answered
    cases changes : mcpStore.changes c with
    | true => exact .change changes fun _ => answers_answer w.now c
    | false => exact same ▸ .read changes (answers_answer w.now c same)

def crmStores : McpStores := { registrations := [("crm".toList, crmRegistration)] }

def crmTasks : List McpTask :=
  [.request ⟨"Bearer u".toList, none⟩ (.authorize "crm".toList),
    .request ⟨[], none⟩ (.callback "code".toList "v".toList []),
    .request ⟨"Bearer v".toList, none⟩ (.revoke "crm".toList),
    .request ⟨"Bearer u".toList, none⟩ .servers,
    .request ⟨"Bearer u".toList, none⟩ (.revoke "crm".toList)]

/-- One request after the other, as many of them as are given. -/
def crmPool (tasks : List Nat) : McpPool :=
  Pool.turns ((mcpService crmDeployment).system {}) (fun _ => crmServer) ⟨crmStores, []⟩ crmTasks
    (tasks.flatMap (List.replicate 14))

theorem crmPool_reached (tasks : List Nat) :
    Reaches ((mcpService crmDeployment).system {}) ⟨⟨crmStores, []⟩, []⟩ (crmPool tasks) :=
  reaches_turns crmServer_serves _ _ _

/-- The changes are a put, a pop, a post, a save and two deletions, of which one finds nothing. -/
theorem mcp_accounted_redeemed :
    McpAccounted {} crmDeployment crmStores (crmPool [0, 1, 2, 3, 4]) ∧
      (crmPool [0, 1, 2, 3, 4]).world.changes.length = 6 :=
  ⟨mcp_accounted (crmPool_reached _), by decide +kernel⟩

/-- The token is saved, and gone again at the end. -/
theorem server_tokens_accounted_redeemed :
    ServerTokensAccounted {} crmStores (crmPool [0, 1, 2, 3, 4]) ∧
      (crmPool [0, 1, 2, 3]).world.now.tokens.length = 1 ∧
        (crmPool [0, 1, 2, 3, 4]).world.now.tokens.length = 0 :=
  ⟨server_tokens_accounted (crmPool_reached _), by decide +kernel, by decide +kernel⟩

end OrchidApi
