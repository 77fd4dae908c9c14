import OrchidApi.MessagesRun
import OrchidApi.OAuth

/-! `routers/_mcp_auth/discovery.py`: the list of the MCP servers with the caller's status, against
what `check_mcp_auth` finds for the message endpoints. -/
namespace OrchidApi
open Text Async

/-! ## The list of servers -/

/-- What the listing asks the token store and the registration store. -/
inductive DiscoveryCall where
  | getToken (tenant user server : Str)
  | getRegistration (server : Str)

def DiscoveryCall.Reply : DiscoveryCall → Type
  | .getToken _ _ _ => Option Token
  | .getRegistration _ => Option ClientRegistration

abbrev DiscoveryApi : Signature := ⟨DiscoveryCall, DiscoveryCall.Reply, Exn⟩

abbrev DiscoveryHandler (α : Type) : Type := Prog DiscoveryApi α

/-- An entry of `GET /mcp/auth/servers`. -/
structure McpAuthServer where
  serverName : Str
  agentNames : List Str
  authorized : Bool
  tokenExpired : Bool
  discovered : Bool
  scopes : Str
  deriving DecidableEq, Repr

/-- A store that is not wired is not asked. -/
def askIf (wired : Bool) (c : DiscoveryCall) (missing : c.Reply) : DiscoveryHandler c.Reply :=
  if wired then Prog.await (S := DiscoveryApi) c else pure missing

section List
variable (auth : AuthContext) (runtime : Runtime) (hasRegistrationStore : Bool) (registry : AuthRegistry)

def listServer (name : Str) : DiscoveryHandler McpAuthServer := do
  let token ← askIf runtime.hasTokenStore (.getToken auth.tenantKey auth.userId name) (none : Option Token)
  let registration ← askIf hasRegistrationStore (.getRegistration name) (none : Option ClientRegistration)
  let authorized := (token : Option Token).isSome
  let tokenExpired := ((token : Option Token).map Token.isExpired).getD false
  pure ⟨name, registry.agentNames name, authorized && !tokenExpired, tokenExpired,
    (registration : Option ClientRegistration).isSome,
    ((registration : Option ClientRegistration).map ClientRegistration.scopesSupported).getD []⟩

def listServers : List Str → DiscoveryHandler (List McpAuthServer)
  | [] => pure []
  | name :: rest => do
    let entry ← listServer auth runtime hasRegistrationStore registry name
    let later ← listServers rest
    pure (entry :: later)

def listMcpAuthServers : DiscoveryHandler (List McpAuthServer) :=
  match runtime.mcpAuthRegistry with
  | none => pure []
  | some registry =>
    if registry.empty then pure []
    else listServers auth runtime hasRegistrationStore registry registry.oauthServers

end List

/-- The same token store that the message endpoints ask, and a registration store. -/
def discoveryServer (b : Backend) (registrations : Str → Option ClientRegistration) : Server DiscoveryApi Unit
  | .getToken tenant user server, s => (.ok (b.token tenant user server), s)
  | .getRegistration server, s => (.ok (registrations server), s)

/-! ## Agreement -/

section Views
variable (b : Backend) (registrations : Str → Option ClientRegistration) (auth : AuthContext)
  (runtime : Runtime) (hasRegistrationStore : Bool) (w : World)

/-- The servers of a status that the message endpoints report in `auth_required`. -/
def unauthorized (status : List (Str × Bool)) : List Str :=
  (status.filter fun entry => !entry.2).map Prod.fst

/-- Both views are there, the message endpoints report what the one finds, and the other reports
the same servers as not authorized, and the same as authorized. -/
def ViewsAgree : Prop :=
  ∃ status servers, serve b (checkMcpAuth auth runtime) w = (.ok status, w) ∧
    (listMcpAuthServers auth runtime hasRegistrationStore).exec (discoveryServer b registrations) () =
      (.ok servers, ()) ∧
    (∀ chatId message files settings prepared v,
      serve b (prepareGraphState chatId message files auth settings runtime) w = (.ok prepared, v) →
      prepared.authRequired = unauthorized status) ∧
    (∀ name, (∃ entry ∈ servers, entry.serverName = name ∧ entry.authorized = false) ↔
      name ∈ unauthorized status) ∧
    ∀ name, (∃ entry ∈ servers, entry.serverName = name ∧ entry.authorized = true) ↔
      (name, true) ∈ status

/-- What the listing says of one server. -/
def serverEntry (registry : AuthRegistry) (name : Str) : McpAuthServer :=
  let token := if runtime.hasTokenStore then b.token auth.tenantKey auth.userId name else none
  let registration := if hasRegistrationStore then registrations name else none
  ⟨name, registry.agentNames name, token.isSome && !(token.map Token.isExpired).getD false,
    (token.map Token.isExpired).getD false, registration.isSome,
    (registration.map ClientRegistration.scopesSupported).getD []⟩

end Views

section Listing
variable {b : Backend} {registrations : Str → Option ClientRegistration} {auth : AuthContext}
  {runtime : Runtime} {hasRegistrationStore : Bool} {w : World}

theorem exec_askIf_token (wired : Bool) (tenant user name : Str) :
    (askIf wired (.getToken tenant user name) (none : Option Token)).exec (discoveryServer b registrations) () =
      (.ok (if wired then b.token tenant user name else none), ()) := by
  cases wired <;> rfl

theorem exec_askIf_registration (wired : Bool) (name : Str) :
    (askIf wired (.getRegistration name) (none : Option ClientRegistration)).exec
        (discoveryServer b registrations) () =
      (.ok (if wired then registrations name else none), ()) := by
  cases wired <;> rfl

theorem exec_listServers (registry : AuthRegistry) (names : List Str) :
    (listServers auth runtime hasRegistrationStore registry names).exec (discoveryServer b registrations) () =
      (.ok (names.map (serverEntry b registrations auth runtime hasRegistrationStore registry)), ()) := by
  induction names with
  | nil => rfl
  | cons name rest ih =>
    have entry : (listServer auth runtime hasRegistrationStore registry name).exec
        (discoveryServer b registrations) () =
        (.ok (serverEntry b registrations auth runtime hasRegistrationStore registry name), ()) := by
      rw [listServer, Prog.exec_bind_ok (exec_askIf_token _ _ _ _),
        Prog.exec_bind_ok (exec_askIf_registration _ _)]
      rfl
    rw [listServers, Prog.exec_bind_ok entry, Prog.exec_bind_ok ih]
    rfl

theorem serverEntry_authorized (registry : AuthRegistry) (name : Str) :
    (serverEntry b registrations auth runtime hasRegistrationStore registry name).authorized =
      (runtime.hasTokenStore && b.authorizes auth name) := by
  unfold serverEntry Backend.authorizes
  cases runtime.hasTokenStore with
  | false => rfl
  | true => cases b.token auth.tenantKey auth.userId name <;> rfl

theorem listed_entry_iff (registry : AuthRegistry) (names : List Str) (name : Str) (granted : Bool) :
    (∃ entry ∈ names.map (serverEntry b registrations auth runtime hasRegistrationStore registry),
      entry.serverName = name ∧ entry.authorized = granted) ↔
      name ∈ names ∧ (runtime.hasTokenStore && b.authorizes auth name) = granted := by
  constructor
  · rintro ⟨entry, member, rfl, status⟩
    obtain ⟨listed, inside, rfl⟩ := List.mem_map.mp member
    exact ⟨inside, by rwa [serverEntry_authorized] at status⟩
  · rintro ⟨inside, status⟩
    exact ⟨_, List.mem_map_of_mem inside, rfl, by rwa [serverEntry_authorized]⟩

/-- Whatever a message request is prepared with, it reports the servers of the status. -/
theorem reported_authRequired {status : List (Str × Bool)}
    (checked : serve b (checkMcpAuth auth runtime) w = (.ok status, w)) {chatId message : Str}
    {files : List UploadFile} {settings : Settings} {prepared : PreparedState} {v : World}
    (prepares : serve b (prepareGraphState chatId message files auth settings runtime) w =
      (.ok prepared, v)) : prepared.authRequired = unauthorized status := by
  by_cases owned : ∃ chat, w.store.session chatId = some chat ∧ chat.OwnedBy auth
  · obtain ⟨chat, found, own⟩ := owned
    by_cases readable : Readable (w.store.rows chatId)
    · obtain ⟨same, prepared, _, _, rfl⟩ :=
        serve_prepared message files settings found own readable checked
      obtain rfl := Except.ok.inj (congrArg Prod.fst (prepared.symm.trans prepares))
      rfl
    · rw [serve_prepare_unreadable found own readable] at prepares
      cases congrArg Prod.fst prepares
  · have foreign : ∀ chat ∈ w.store.session chatId, ¬chat.OwnedBy auth :=
      fun chat found own => owned ⟨chat, found, own⟩
    rw [serve_prepare_foreign foreign] at prepares
    cases congrArg Prod.fst prepares

theorem unauthorized_map (names : List Str) (granted : Str → Bool) (name : Str) :
    name ∈ unauthorized (names.map fun n => (n, granted n)) ↔ name ∈ names ∧ granted name = false := by
  simp only [unauthorized, List.mem_map, List.mem_filter, Bool.not_eq_true']
  constructor
  · rintro ⟨_, ⟨⟨n, listed, rfl⟩, refused⟩, rfl⟩
    exact ⟨listed, refused⟩
  · rintro ⟨listed, refused⟩
    exact ⟨(name, granted name), ⟨⟨name, listed, rfl⟩, refused⟩, rfl⟩

end Listing

variable {b : Backend} {registrations : Str → Option ClientRegistration} {auth : AuthContext}
  {runtime : Runtime} {hasRegistrationStore : Bool} {w : World}

/-- With nothing to list both views are empty. -/
theorem viewsAgree_of_unlisted (none_listed : ∀ registry ∈ runtime.mcpAuthRegistry, registry.empty = true) :
    ViewsAgree b registrations auth runtime hasRegistrationStore w := by
  have checked : serve b (checkMcpAuth auth runtime) w = (.ok [], w) := by
    unfold checkMcpAuth
    cases given : runtime.mcpAuthRegistry with
    | none => rfl
    | some registry =>
      simp only [none_listed registry given, Bool.true_or, if_true]
      rfl
  have listed : (listMcpAuthServers auth runtime hasRegistrationStore).exec
      (discoveryServer b registrations) () = (.ok [], ()) := by
    unfold listMcpAuthServers
    cases given : runtime.mcpAuthRegistry with
    | none => rfl
    | some registry =>
      simp only [none_listed registry given, if_true]
      rfl
  exact ⟨[], [], checked, listed, fun _ _ _ _ _ _ => reported_authRequired checked,
    by simp [unauthorized], by simp⟩

theorem exec_listMcpAuthServers {registry : AuthRegistry} (given : runtime.mcpAuthRegistry = some registry)
    (nonempty : registry.empty = false) :
    (listMcpAuthServers auth runtime hasRegistrationStore).exec (discoveryServer b registrations) () =
      (.ok (registry.oauthServers.map
        (serverEntry b registrations auth runtime hasRegistrationStore registry)), ()) := by
  rw [listMcpAuthServers, given]
  simp only [nonempty]
  exact exec_listServers registry registry.oauthServers

theorem serve_checkMcpAuth_listed {registry : AuthRegistry}
    (given : runtime.mcpAuthRegistry = some registry) (nonempty : registry.empty = false) :
    serve b (checkMcpAuth auth runtime) w =
      (.ok (if runtime.hasTokenStore then
        registry.oauthServers.map fun name => (name, b.authorizes auth name) else []), w) := by
  rw [checkMcpAuth, given]
  cases wired : runtime.hasTokenStore with
  | true =>
    simp only [nonempty]
    exact serve_tokenStatus _
  | false =>
    simp only [nonempty]
    rfl

theorem viewsAgree_of_store {registry : AuthRegistry} (given : runtime.mcpAuthRegistry = some registry)
    (nonempty : registry.empty = false) (wired : runtime.hasTokenStore = true) :
    ViewsAgree b registrations auth runtime hasRegistrationStore w := by
  have checked : serve b (checkMcpAuth auth runtime) w = _ := serve_checkMcpAuth_listed given nonempty
  rw [wired, if_pos rfl] at checked
  refine ⟨_, _, checked, exec_listMcpAuthServers given nonempty,
    fun _ _ _ _ _ _ => reported_authRequired checked, fun name => ?_, fun name => ?_⟩
  · rw [listed_entry_iff, unauthorized_map, wired, Bool.true_and]
  · rw [listed_entry_iff, wired, Bool.true_and]
    simp

/-- Without a token store every listed server is one that no message endpoint reports. -/
theorem viewsAgree_unwired_iff {registry : AuthRegistry} (given : runtime.mcpAuthRegistry = some registry)
    (nonempty : registry.empty = false) (unwired : runtime.hasTokenStore = false) :
    ViewsAgree b registrations auth runtime hasRegistrationStore w ↔ registry.oauthServers = [] := by
  have checked : serve b (checkMcpAuth auth runtime) w = _ := serve_checkMcpAuth_listed given nonempty
  have listed := @exec_listMcpAuthServers b registrations auth runtime hasRegistrationStore registry given
    nonempty
  rw [unwired, if_neg Bool.false_ne_true] at checked
  constructor
  · rintro ⟨status, servers, found, reported, _, required, _⟩
    obtain rfl := Except.ok.inj (congrArg Prod.fst (checked.symm.trans found))
    obtain rfl := Except.ok.inj (congrArg Prod.fst (listed.symm.trans reported))
    refine List.eq_nil_iff_forall_not_mem.mpr fun name member => ?_
    have needed := (required name).mp
      ((listed_entry_iff _ _ _ _).mpr ⟨member, by rw [unwired, Bool.false_and]⟩)
    simp [unauthorized] at needed
  · intro none_listed
    rw [none_listed] at listed
    exact ⟨[], [], checked, listed, fun _ _ _ _ _ _ => reported_authRequired checked,
      by simp [unauthorized], by simp⟩

/-- The two views agree exactly when there is a token store or no server to authorize. -/
theorem views_agree_iff :
    ViewsAgree b registrations auth runtime hasRegistrationStore w ↔
      runtime.hasTokenStore = true ∨
        ∀ registry ∈ runtime.mcpAuthRegistry, registry.empty = true ∨ registry.oauthServers = [] := by
  by_cases unlisted : ∀ registry ∈ runtime.mcpAuthRegistry, registry.empty = true
  · exact ⟨fun _ => .inr fun registry given => .inl (unlisted registry given),
      fun _ => viewsAgree_of_unlisted unlisted⟩
  push Not at unlisted
  obtain ⟨registry, given, nonempty⟩ := unlisted
  have given : runtime.mcpAuthRegistry = some registry := given
  have nonempty : registry.empty = false := Bool.eq_false_iff.mpr nonempty
  cases wired : runtime.hasTokenStore with
  | true => exact ⟨fun _ => .inl rfl, fun _ => viewsAgree_of_store given nonempty wired⟩
  | false =>
    rw [viewsAgree_unwired_iff given nonempty wired]
    constructor
    · intro none_listed
      refine .inr fun other same => .inr ?_
      rwa [← Option.some_inj.mp (given.symm.trans same)]
    · rintro (absent | unlisted)
      · cases absent
      · exact (unlisted registry given).resolve_left (by simp [nonempty])

/-- Without a token store the listing asks for an authorization that no message endpoint does. -/
theorem views_differ_without_store :
    ¬ViewsAgree {} (fun _ => none) ⟨"acme".toList, "ann".toList, []⟩
      { mcpAuthRegistry := some ⟨false, ["ext-crm".toList], fun _ => []⟩ } false ⟨{}, []⟩ := by
  rintro ⟨status, servers, checked, listed, _, required, _⟩
  obtain rfl := Except.ok.inj (congrArg Prod.fst checked)
  obtain rfl := Except.ok.inj (congrArg Prod.fst listed)
  have needed := (required "ext-crm".toList).mp ⟨_, .head _, rfl, rfl⟩
  cases needed

end OrchidApi
