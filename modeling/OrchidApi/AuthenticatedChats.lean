import OrchidApi.Authentication
import OrchidApi.ChatIsolation

/-! The chat endpoints behind their authentication: requests with nothing but their headers,
over one chat storage, against any identity resolvers. -/
namespace OrchidApi
open Text Async

variable {σ : Type}

/-! ## Requests with headers -/

structure HttpRequest where
  headers : AuthHeaders
  endpoint : Endpoint
  settings : Settings := {}
  runtime : Runtime := {}

def HttpRequest.caller (r : HttpRequest) (ctx : ResolvedContext) : Caller :=
  ⟨ctx.auth, r.endpoint, r.settings, r.runtime⟩

/-- Nothing is assumed of the answers in front, which leave the storage alone. -/
def frontServes (storage : ChatStorage σ) (store : σ) :
    (c : (FrontApi Call.Reply).Call) → (FrontApi Call.Reply).Answer c → σ → Prop
  | .inl _, _, store' => store' = store
  | .inr c, answer, store' => storage.serves store c answer store'

def authSystem (s : AuthSettings) (storage : ChatStorage σ) :
    System (FrontApi Call.Reply) HttpRequest AuthFacts Caller σ where
  start r := getAuthContext s r.headers >>= fun ctx => pure (r.caller ctx)
  fresh := {}
  learn _ := AuthFacts.learn
  serves _ := frontServes storage

/-- A request authenticates, and its handler goes on as the caller found. -/
def httpSystem (s : AuthSettings) (storage : ChatStorage σ) :
    System (FrontApi Call.Reply) HttpRequest AuthFacts ApiResponse σ :=
  (authSystem s storage).before (chatSystem storage)

/-! ## Refinement -/

/-- A request serves only a caller that its answers attest. -/
def Serves (s : AuthSettings) (r : HttpRequest) (facts : AuthFacts) (who : Caller) (_ : Gate) : Prop :=
  ∃ ctx, who = r.caller ctx ∧ Attests s r.headers facts ctx

theorem auth_fronts (s : AuthSettings) (storage : ChatStorage σ) :
    Fronts (authSystem s storage) (chatSystem storage) (Serves s) (fun r => Refuses s r.headers)
      (fun store w => w.store = store) where
  starts r := by
    refine Prog.guarded_bind (fronted_getAuthContext (s := s) (h := r.headers)) ?_ ?_
    · intro facts ctx attested
      exact ⟨ctx, rfl, attested⟩
    · intro facts error refused
      exact refused
  aside rel served := rel.trans served.symm
  passes := by
    rintro r store w c answer store' who rfl served
    exact ⟨⟨store', fun id => (w.creator id).or ((storage.chat store' id).map fun _ => who.auth.identity)⟩,
      ⟨served, fun id => rfl⟩, rfl⟩
  lasts attested := attested

/-- The pool behind the authentication, in which every caller is known from the start. -/
structure Authenticated (s : AuthSettings) (storage : ChatStorage σ) (store : σ)
    (pool : Pool (FrontApi Call.Reply) HttpRequest AuthFacts ApiResponse σ)
    (inner : Pool Api Caller Gate ApiResponse (Attributed σ)) : Prop where
  reached : Reaches (chatSystem storage) ⟨storage.found store, []⟩ inner
  isolated : Isolated storage inner
  store : inner.world.store = pool.world
  /-- A request is a task of that pool for the identity its answers attest. -/
  behind : ∀ task ∈ pool.tasks, InFront (authSystem s storage) (chatSystem storage) (Serves s)
      (fun r => Refuses s r.headers) task ∨
    ∃ u ∈ inner.tasks, ∃ ctx, u.owner = task.owner.caller ctx ∧
      Attests s task.owner.headers task.known ctx ∧ task.prog = u.prog.behind
  /-- Nothing else gets to the storage. -/
  reserved : ∀ task ∈ pool.tasks, ∀ (c : Call) next, task.prog = .call (.inr c) next →
    ∃ ctx, Attests s task.owner.headers task.known ctx
  /-- An answer is that of the handler for the attested identity, or a refusal with its cause. -/
  ended : ∀ task ∈ pool.tasks, ∀ outcome, task.outcome = some outcome →
    (∃ u ∈ inner.tasks, ∃ ctx, u.owner = task.owner.caller ctx ∧
      Attests s task.owner.headers task.known ctx ∧ u.outcome = some outcome) ∨
    ∃ error, outcome = .error error ∧ Refuses s task.owner.headers task.known error

theorem requests_authenticated (s : AuthSettings) (storage : ChatStorage σ) (store : σ)
    {pool : Pool (FrontApi Call.Reply) HttpRequest AuthFacts ApiResponse σ}
    (reaches : Reaches (httpSystem s storage) ⟨store, []⟩ pool) :
    ∃ inner, Authenticated s storage store pool inner := by
  have fronts := auth_fronts s storage
  have start : Refined (authSystem s storage) (chatSystem storage) (Serves s) (fun r => Refuses s r.headers)
      (fun store w => w.store = store) ⟨store, []⟩ ⟨storage.found store, []⟩ :=
    ⟨rfl, [], .nil, .nil⟩
  obtain ⟨inner, reached, refined⟩ := refined_reaches fronts start reaches
  have isolated : Isolated storage inner :=
    isolated_of_inOrder (inOrder_reaches (chat_discipline storage)
      ⟨found_faithful storage store, fun task none => absurd none List.not_mem_nil⟩ reached)
  refine ⟨inner, reached, isolated, refined.world, ?_, ?_, ?_⟩
  · intro task member
    rcases refined.member member with waits | ⟨u, there, ⟨prog, ctx, who, attested⟩⟩
    · exact .inl waits
    · exact .inr ⟨u, there, ctx, who, attested, prog⟩
  · intro task member c next calls
    rcases refined.member member with waits | ⟨u, there, ⟨prog, ctx, who, attested⟩⟩
    · obtain ⟨ahead, impossible⟩ := waits.calls calls
      contradiction
    · exact ⟨ctx, attested⟩
  · intro task member outcome ended
    rcases refined.member member with waits | ⟨u, there, serves⟩
    · exact .inr (waits.ends ended)
    · obtain ⟨ctx, who, attested⟩ := serves.attested
      exact .inl ⟨u, there, ctx, who, attested, serves.outcome ▸ ended⟩

/-! A stranger with a token of their own, a wrong token and no token ask to delete a chat. -/

def guardedApp : AppContext :=
  { identityResolver := some (.custom { path := "acme.auth.Resolver".toList } none) }

def guardedIdentity (bearerToken : Str) : Resolution :=
  if bearerToken = "tok-v".toList then
    .context { auth := { tenantKey := "t".toList, userId := "v".toList }, accessToken := bearerToken }
  else .identityError 500 "idp.internal:8443 refused".toList

def guardedServer : Server (FrontApi Call.Reply) { store : MemoryStore // store.WellFormed }
  | .inl c, store => (answersInFront guardedApp guardedIdentity c, store)
  | .inr c, store => ((server {} c ⟨store.val, []⟩).1,
      ⟨store.val.after c, MemoryStore.after_wellFormed store.property c⟩)

def guardedRequests : List HttpRequest :=
  ["Bearer tok-v", "Bearer tok-x", "Basic dTp2"].map fun authorization =>
    { headers := { authorization := authorization.toList }, endpoint := .deleteChat "chat-0".toList }

def guardedPool :
    Pool (FrontApi Call.Reply) HttpRequest AuthFacts ApiResponse { store : MemoryStore // store.WellFormed } :=
  Pool.turns (httpSystem {} (memoryStorage {})) (fun _ => guardedServer) sampleStorage guardedRequests
    [0, 1, 0, 0, 0, 1, 0, 0]

theorem guardedServer_serves (r : HttpRequest) (store : { store : MemoryStore // store.WellFormed })
    (c : (FrontApi Call.Reply).Call) :
    (httpSystem {} (memoryStorage {})).serves r store c (guardedServer c store).1
      (guardedServer c store).2 := by
  rcases c with c | c
  · exact rfl
  · exact ⟨rfl, server_store {} c _⟩

/-- All three are refused, the stranger by the handler. -/
theorem requests_authenticated_guarded :
    (∃ inner, Authenticated {} (memoryStorage {}) sampleStorage guardedPool inner) ∧
      guardedPool.tasks.map Task.outcome = [some (.error chatNotFound),
        some (.error (identityRefusal 500)), some (.error missingBearer)] :=
  ⟨requests_authenticated {} (memoryStorage {}) sampleStorage
    (reaches_turns guardedServer_serves _ _ _), rfl⟩

end OrchidApi
