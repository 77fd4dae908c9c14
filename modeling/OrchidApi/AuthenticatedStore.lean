import OrchidApi.AsyncChronicle
import OrchidApi.Authentication

/-! Routers over one store, behind the authentication and their other dependencies, while the
framework changes the store as it likes. -/
namespace OrchidApi
open Text Async

variable {D : Type} {Q : D → Type} {F ρ ε α ω : Type}

/-! ## Dependencies -/

/-- A dependency helper of `context.py` reads the context once. -/
def depend (helper : AppContext → Except Exn ε) : AuthHandler Q ε := do
  let app ← Auth.appCtx
  match helper app with
  | .ok value => pure value
  | .error error => Auth.raise error

/-- One of the contexts that were read shows the value. -/
def AuthFacts.Shows (facts : AuthFacts) (f : AppContext → ε) (value : ε) : Prop :=
  ∃ app ∈ facts.apps, f app = value

theorem AuthFacts.Shows.beside {facts later : AuthFacts} {f : AppContext → ε} {value : ε}
    (shows : facts.Shows f value) (beside : Beside facts later) : later.Shows f value := by
  obtain ⟨app, read, same⟩ := shows
  exact ⟨app, beside.apps.subset read, same⟩

/-- What the helper gives or lacks, it does so in the context that it has read. -/
theorem aside_depend {helper : AppContext → Except Exn ε} {lacks : AuthFacts → Exn → Prop} {facts : AuthFacts}
    (fails : ∀ later : AuthFacts, ∀ error, later.Shows helper (.error error) → lacks later error) :
    Fronted (depend helper : AuthHandler Q ε)
      (Aside lacks (fun later value => later.Shows helper (.ok value)) facts) facts := by
  refine aside_bind aside_appCtx fun later app _ there => ?_
  cases given : helper app with
  | ok value => exact aside_done ⟨app, there, given⟩
  | error error =>
    refine ⟨beside_refl later, nofun, fun _ same => .inr ?_⟩
    exact Except.error.inj same ▸ fails later error ⟨app, there, given⟩

/-- A helper that only reads. -/
theorem aside_read {f : AppContext → ε} {lacks : AuthFacts → Exn → Prop} {facts : AuthFacts} :
    Fronted (depend (fun app => .ok (f app)) : AuthHandler Q ε)
      (Aside lacks (fun later => later.Shows f) facts) facts := by
  refine aside_bind aside_appCtx fun later app _ there => ?_
  exact aside_done ⟨app, there, rfl⟩

/-! ## Services -/

/-- Nothing is promised of the values of a failure. -/
theorem never_ok {error : Exn} {P : α → Prop} : ∀ value, Except.error error = .ok value → P value := by
  intro value impossible
  contradiction

/-- Whether an endpoint is for identified callers or open to anyone. -/
inductive Access where
  | identified
  | anyone
  deriving DecidableEq

/-- What an endpoint is told of its caller. -/
abbrev Access.Party : Access → Type
  | identified => AuthContext
  | anyone => Unit

def Access.find (s : AuthSettings) (headers : AuthHeaders) :
    (access : Access) → AuthHandler Q access.Party
  | identified => do
    let ctx ← getAuthContext s headers
    pure ctx.auth
  | anyone => pure ()

/-- A request with its headers, or a change that the framework makes. -/
inductive ServiceTask (F ρ : Type) where
  | request (headers : AuthHeaders) (asked : ρ)
  | framework (own : F)

/-- For whom a task goes on, with what its dependencies gave. -/
inductive ServiceParty (access : ρ → Access) (F ε : Type) where
  | caller (asked : ρ) (who : (access asked).Party) (env : ε)
  | framework (own : F)

/-- The routers' dependencies besides the identity, their handlers, what the framework does by
itself, and the store beneath. -/
structure Service (Q : D → Type) (F ρ ε α ω : Type) where
  access : ρ → Access
  depends : ρ → AuthHandler Q ε
  handle : (asked : ρ) → (access asked).Party → ε → Prog ⟨D, Q, Exn⟩ α
  acts : F → D
  idle : α
  store : Store ⟨D, Q, Exn⟩ ω

/-- What the contexts that a request has read may give to its handler or lack, what it may do then
and how it may end, by what the store has told. -/
structure ServiceRules (Q : D → Type) (access : ρ → Access) (ε α : Type) where
  given : ρ → AuthFacts → ε → Prop
  lacks : ρ → AuthFacts → Exn → Prop
  permits : (asked : ρ) → (access asked).Party → ε → Told ⟨D, Q, Exn⟩ → D → Prop
  ends : (asked : ρ) → (access asked).Party → ε → Told ⟨D, Q, Exn⟩ → Except Exn α → Prop
  once : D → Bool

/-- The answers in front, and all that was heard behind. -/
structure ServiceFacts (Q : D → Type) extends AuthFacts where
  heard : Heard ⟨D, Q, Exn⟩ := []

def ServiceFacts.learn (facts : ServiceFacts Q) :
    (c : (FrontApi Q).Call) → (FrontApi Q).Answer c → ServiceFacts Q
  | .inl c, answer => { facts with toAuthFacts := facts.toAuthFacts.hear c answer }
  | .inr c, answer => { facts with heard := ⟨c, answer⟩ :: facts.heard }

def ServiceParty.start (service : Service Q F ρ ε α ω) :
    ServiceParty service.access F ε → Prog ⟨D, Q, Exn⟩ α
  | caller asked who env => service.handle asked who env
  | framework own => Prog.await (S := ⟨D, Q, Exn⟩) (service.acts own) >>= fun _ => pure service.idle

def ServiceTask.front (service : Service Q F ρ ε α ω) (s : AuthSettings) :
    ServiceTask F ρ → AuthHandler Q (ServiceParty service.access F ε)
  | request headers asked => do
    let who ← (service.access asked).find s headers
    let env ← service.depends asked
    pure (.caller asked who env)
  | framework own => pure (.framework own)

namespace Service

/-- The calls in front leave the store alone. -/
def frontServes (service : Service Q F ρ ε α ω) (w : Chronicle ⟨D, Q, Exn⟩ ω) :
    (c : (FrontApi Q).Call) → (FrontApi Q).Answer c → Chronicle ⟨D, Q, Exn⟩ ω → Prop
  | .inl _, _, w' => w' = w
  | .inr c, answer, w' => service.store.Serves w c answer w'

def front (service : Service Q F ρ ε α ω) (s : AuthSettings) : System (FrontApi Q) (ServiceTask F ρ)
    (ServiceFacts Q) (ServiceParty service.access F ε) (Chronicle ⟨D, Q, Exn⟩ ω) where
  start := ServiceTask.front service s
  fresh := {}
  learn _ := ServiceFacts.learn
  serves _ := service.frontServes

def inner (service : Service Q F ρ ε α ω) : System ⟨D, Q, Exn⟩ (ServiceParty service.access F ε)
    (Heard ⟨D, Q, Exn⟩) α (Chronicle ⟨D, Q, Exn⟩ ω) :=
  service.store.system (ServiceParty.start service)

def system (service : Service Q F ρ ε α ω) (s : AuthSettings) : System (FrontApi Q) (ServiceTask F ρ)
    (ServiceFacts Q) α (Chronicle ⟨D, Q, Exn⟩ ω) :=
  (service.front s).before service.inner

/-- What the framework does by itself needs no permission. -/
def Permits (service : Service Q F ρ ε α ω) (rules : ServiceRules Q service.access ε α) :
    ServiceParty service.access F ε → Told ⟨D, Q, Exn⟩ → D → Prop
  | .caller asked who env, told, c => rules.permits asked who env told c
  | .framework own, _, c => c = service.acts own

def Ends (service : Service Q F ρ ε α ω) (rules : ServiceRules Q service.access ε α) :
    ServiceParty service.access F ε → Told ⟨D, Q, Exn⟩ → Except Exn α → Prop
  | .caller asked who env, told, outcome => rules.ends asked who env told outcome
  | .framework _, _, _ => True

/-- A handler keeps the rules, with what it has heard so far. -/
abbrev Keeps (service : Service Q F ρ ε α ω) (rules : ServiceRules Q service.access ε α)
    (party : ServiceParty service.access F ε) {β : Type} (p : Prog ⟨D, Q, Exn⟩ β)
    (post : Heard ⟨D, Q, Exn⟩ → Except Exn β → Prop) (heard : Heard ⟨D, Q, Exn⟩) : Prop :=
  service.store.Lawful (service.Permits rules) rules.once party p post heard

/-- The routers keep the rules, and who knows more is bound to no more. -/
structure Bound (service : Service Q F ρ ε α ω) (rules : ServiceRules Q service.access ε α) : Prop where
  depends : ∀ asked facts,
    Fronted (service.depends asked) (Aside (rules.lacks asked) (rules.given asked) facts) facts
  handles : ∀ asked who env, service.Keeps rules (.caller asked who env)
    (service.handle asked who env) (fun heard => rules.ends asked who env heard.told) []
  permits_mono : ∀ {asked who env} {told wider : Told ⟨D, Q, Exn⟩} {c},
    (∀ c value, told c value → wider c value) →
    rules.permits asked who env told c → rules.permits asked who env wider c
  ends_mono : ∀ {asked who env} {told wider : Told ⟨D, Q, Exn⟩} {outcome},
    (∀ c value, told c value → wider c value) →
    rules.ends asked who env told outcome → rules.ends asked who env wider outcome

end Service

/-- The answers attest who the caller is, if the endpoint asks. -/
def Access.Attested (s : AuthSettings) (headers : AuthHeaders) (facts : AuthFacts) :
    (access : Access) → access.Party → Prop
  | identified, auth => ∃ ctx, Attests s headers facts ctx ∧ ctx.auth = auth
  | anyone, _ => True

theorem Access.Attested.beside {s : AuthSettings} {headers : AuthHeaders} {facts later : AuthFacts}
    {access : Access} {who : access.Party} (attested : access.Attested s headers facts who)
    (beside : Beside facts later) : access.Attested s headers later who := by
  cases access with
  | identified =>
    obtain ⟨ctx, attests, same⟩ := attested
    exact ⟨ctx, attests.beside beside, same⟩
  | anyone => trivial

/-- The request goes on for whoever its answers attest, with what its dependencies were given. -/
structure ServiceRules.Admits {access : ρ → Access} (rules : ServiceRules Q access ε α) (s : AuthSettings)
    (headers : AuthHeaders) (asked : ρ) (facts : AuthFacts) (who : (access asked).Party) (env : ε) : Prop where
  attested : (access asked).Attested s headers facts who
  given : rules.given asked facts env

/-- The party whom the answers to the task attest, which has heard what the task has. -/
def ServiceTask.Acts {access : ρ → Access} (rules : ServiceRules Q access ε α) (s : AuthSettings)
    (task : ServiceTask F ρ) (facts : ServiceFacts Q) (party : ServiceParty access F ε)
    (heard : Heard ⟨D, Q, Exn⟩) : Prop :=
  facts.heard = heard ∧ match task with
    | request headers asked => ∃ who env, party = .caller asked who env ∧
        rules.Admits s headers asked facts.toAuthFacts who env
    | framework own => party = .framework own

/-- Whether a task may make a change of the kind, where the requests may. -/
def ServiceTask.makes (kind : F → Bool) (may : ρ → Bool) : ServiceTask F ρ → Bool
  | request _ asked => may asked
  | framework own => kind own

def ServiceParty.makes {access : ρ → Access} (kind : F → Bool) (may : ρ → Bool) :
    ServiceParty access F ε → Bool
  | caller asked _ _ => may asked
  | framework own => kind own

theorem ServiceTask.Acts.makes {access : ρ → Access} {rules : ServiceRules Q access ε α} {s : AuthSettings}
    {task : ServiceTask F ρ} {facts : ServiceFacts Q} {party : ServiceParty access F ε}
    {heard : Heard ⟨D, Q, Exn⟩} (acts : task.Acts rules s facts party heard) (kind : F → Bool)
    (may : ρ → Bool) : party.makes kind may = task.makes kind may := by
  cases task with
  | request headers asked =>
    obtain ⟨_, who, env, rfl, _⟩ := acts
    rfl
  | framework own =>
    obtain ⟨_, rfl⟩ := acts
    rfl

/-- Why a request did not get to its handler. -/
def ServiceTask.Refuses (service : Service Q F ρ ε α ω) (rules : ServiceRules Q service.access ε α)
    (s : AuthSettings) : ServiceTask F ρ → ServiceFacts Q → Exn → Prop
  | request headers asked, facts, error =>
    facts.raised = some error ∨ rules.lacks asked facts.toAuthFacts error ∨
      service.access asked = .identified ∧ OrchidApi.Refuses s headers facts.toAuthFacts error
  | framework _, _, _ => False

section Service
variable {service : Service Q F ρ ε α ω} {rules : ServiceRules Q service.access ε α} {s : AuthSettings}
  {initial : ω} {pool : Pool (FrontApi Q) (ServiceTask F ρ) (ServiceFacts Q) α (Chronicle ⟨D, Q, Exn⟩ ω)}

theorem service_laws (bound : service.Bound rules) :
    service.store.Laws (service.Permits rules) (service.Ends rules) rules.once
      (ServiceParty.start service) where
  starts
    | .caller asked who env => bound.handles asked who env
    | .framework own => by
      refine ⟨.first rfl, fun answer => ?_⟩
      rcases answer with error | value <;> trivial
  permits_mono {party} {_ _ _} widens permits := by
    cases party with
    | caller asked who env => exact bound.permits_mono widens permits
    | framework own => exact permits
  ends_mono {party} {_ _ _} widens ends := by
    cases party with
    | caller asked who env => exact bound.ends_mono widens ends
    | framework own => trivial

/-- An endpoint finds out whom its answers attest, or is refused where it asks. -/
theorem fronted_find (s : AuthSettings) (headers : AuthHeaders) (access : Access) :
    Fronted (access.find s headers : AuthHandler Q access.Party) (fun facts outcome =>
      match outcome with
      | .ok who => access.Attested s headers facts who
      | .error error => access = .identified ∧ Refuses s headers facts error) {} := by
  cases access with
  | anyone => trivial
  | identified =>
    exact Prog.guarded_bind (fronted_getAuthContext (s := s) (h := headers))
      (fun facts ctx attests => ⟨ctx, attests, rfl⟩) fun facts error refused => ⟨rfl, refused⟩

/-- In front nothing is heard yet. -/
theorem fronted_unheard {p : AuthHandler Q β} {post : AuthFacts → Except Exn β → Prop} {facts : AuthFacts}
    (fronted : Fronted p post facts) : p.Guarded (fun _ c => Sum.isLeft c = true) ServiceFacts.learn
      (fun later outcome => later.heard = [] ∧ post later.toAuthFacts outcome) { toAuthFacts := facts } := by
  induction p generalizing facts with
  | ret value => exact ⟨rfl, fronted⟩
  | raise error => exact ⟨rfl, fronted⟩
  | call c next ih =>
    obtain ⟨front, rest⟩ := fronted
    refine ⟨front, fun answer => ?_⟩
    cases c with
    | inl c => exact ih answer (rest answer)
    | inr c => contradiction

theorem service_front (bound : service.Bound rules) (s : AuthSettings) (task : ServiceTask F ρ) :
    (task.front service s).Guarded (fun _ c => Sum.isLeft c = true) ServiceFacts.learn
      (Settles (S := ⟨D, Q, Exn⟩) service.inner (ServiceTask.Acts rules s)
        (ServiceTask.Refuses service rules s) task) {} := by
  cases task with
  | framework own =>
    have acts : ServiceTask.Acts rules s (.framework own : ServiceTask F ρ) {} (.framework own) [] := ⟨rfl, rfl⟩
    exact acts
  | request headers asked =>
    have ends : Fronted ((ServiceTask.request headers asked : ServiceTask F ρ).front service s)
        (fun facts outcome => match outcome with
          | .ok party => ∃ who env, party = .caller asked who env ∧ rules.Admits s headers asked facts who env
          | .error error => facts.raised = some error ∨ rules.lacks asked facts error ∨
              service.access asked = .identified ∧ Refuses s headers facts error) {} := by
      refine Prog.guarded_bind (fronted_find s headers (service.access asked)) ?_
        fun facts error refused => .inr (.inr refused)
      intro facts who (attested : Access.Attested s headers facts (service.access asked) who)
      refine Prog.guarded_bind (bound.depends asked facts) (fun later env aside => ?_)
        fun later error aside => ?_
      · exact ⟨who, env, rfl, attested.beside aside.beside, aside.gives env rfl⟩
      · exact (aside.failed error rfl).imp_right .inl
    refine Prog.guarded_mono (fronted_unheard ends) fun later outcome settled => ?_
    cases outcome with
    | ok party => exact settled
    | error error => exact settled.2

theorem service_fronts (bound : service.Bound rules) (s : AuthSettings) :
    Fronts (service.front s) service.inner (ServiceTask.Acts rules s) (ServiceTask.Refuses service rules s)
      Eq where
  starts := service_front bound s
  aside same served := served.trans same
  passes _ same served := ⟨_, same ▸ served, rfl⟩
  lasts {task _ _ _ _ _} acts := by
    cases task with
    | request headers asked => exact ⟨congrArg _ acts.1, acts.2⟩
    | framework own => exact ⟨congrArg _ acts.1, acts.2⟩

/-- The pool of those for whom the tasks go on. -/
theorem service_refined (bound : service.Bound rules)
    (reaches : Reaches (service.system s) ⟨⟨initial, []⟩, []⟩ pool) :
    ∃ inner, Reaches service.inner ⟨⟨initial, []⟩, []⟩ inner ∧ Refined (service.front s) service.inner
      (ServiceTask.Acts rules s) (ServiceTask.Refuses service rules s) Eq pool inner :=
  refined_reaches (service_fronts bound s) ⟨rfl, [], .nil, .nil⟩ reaches

/-! ## Over any interleaving -/

theorem service_follows (bound : service.Bound rules)
    (reaches : Reaches (service.system s) ⟨⟨initial, []⟩, []⟩ pool) :
    pool.world.now = service.store.replay initial pool.world.changes := by
  obtain ⟨inner, reached, refined⟩ := service_refined bound reaches
  have same : pool.world = inner.world := refined.world
  rw [same]
  exact (Store.chronicle_inOrder (service_laws bound) reached).world

/-- The task has made the change, which is the framework's, or that of a request which may make it
for whoever is attested to it, by what the store had told and its dependencies were given. -/
structure MadeBy (service : Service Q F ρ ε α ω) (rules : ServiceRules Q service.access ε α) (s : AuthSettings)
    (told : Told ⟨D, Q, Exn⟩) (c : D) (task : Task (FrontApi Q) (ServiceTask F ρ) (ServiceFacts Q) α) :
    Prop where
  made : task.known.heard.Made c
  may : (∃ own, task.owner = .framework own ∧ c = service.acts own) ∨
    ∃ headers asked, task.owner = .request headers asked ∧ ∃ who env,
      rules.Admits s headers asked task.known.toAuthFacts who env ∧ rules.permits asked who env told c

theorem service_permitted (bound : service.Bound rules)
    (reaches : Reaches (service.system s) ⟨⟨initial, []⟩, []⟩ pool) {later earlier : List D} {c : D}
    (made : pool.world.changes = later ++ c :: earlier) :
    ∃ task ∈ pool.tasks, MadeBy service rules s (service.store.told initial earlier) c task := by
  obtain ⟨inner, reached, refined⟩ := service_refined bound reaches
  have same : pool.world = inner.world := refined.world
  obtain ⟨⟨party, prog, heard⟩, member, did, permits⟩ :=
    Store.permitted_reaches (service_laws bound) reached (same ▸ made)
  obtain ⟨task, there, serves⟩ := refined.serving member
  obtain ⟨hears, acts⟩ := serves.attested
  refine ⟨task, there, hears ▸ did, ?_⟩
  cases owner : task.owner with
  | framework own =>
    rw [owner] at acts
    obtain rfl : party = .framework own := acts
    exact .inl ⟨own, rfl, permits⟩
  | request headers asked =>
    rw [owner] at acts
    obtain ⟨who, env, rfl, admits⟩ := acts
    exact .inr ⟨headers, asked, rfl, who, env, admits, permits⟩

/-- There are no more changes of a kind than tasks that may make one. -/
theorem service_counted (bound : service.Bound rules)
    (reaches : Reaches (service.system s) ⟨⟨initial, []⟩, []⟩ pool) {kind : D → Bool} {may : ρ → Bool}
    (single : ∀ c, kind c = true → rules.once c = true)
    (mays : ∀ {asked who env told c}, rules.permits asked who env told c → kind c = true →
      may asked = true) :
    pool.world.changes.countP kind ≤
      pool.tasks.countP fun task => task.owner.makes (fun own => kind (service.acts own)) may := by
  obtain ⟨inner, reached, refined⟩ := service_refined bound reaches
  have same : pool.world = inner.world := refined.world
  rw [same]
  refine Nat.le_trans (Store.countP_reaches (service_laws bound) reached kind
    (·.makes (fun own => kind (service.acts own)) may) single ?_) (refined.countP_le ?_)
  · intro party told c permits counts
    cases party with
    | caller asked who env => exact mays permits counts
    | framework own =>
      obtain rfl : c = service.acts own := permits
      exact counts
  · intro task u serves counted
    exact (ServiceTask.Acts.makes serves.attested _ may).symm.trans counted

/-- A request has ended as its handler may end for whoever is attested to it, or there is a
cause in front. -/
theorem service_ended (bound : service.Bound rules)
    (reaches : Reaches (service.system s) ⟨⟨initial, []⟩, []⟩ pool)
    {task : Task (FrontApi Q) (ServiceTask F ρ) (ServiceFacts Q) α} (member : task ∈ pool.tasks)
    {headers : AuthHeaders} {asked : ρ} (owner : task.owner = .request headers asked)
    {outcome : Except Exn α} (ended : task.outcome = some outcome) :
    (∃ who env, rules.Admits s headers asked task.known.toAuthFacts who env ∧
      rules.ends asked who env (service.store.told initial pool.world.changes) outcome) ∨
    ∃ error, outcome = .error error ∧ ServiceTask.Refuses service rules s task.owner task.known error := by
  obtain ⟨inner, reached, refined⟩ := service_refined bound reaches
  have same : pool.world = inner.world := refined.world
  rcases refined.member member with waits | ⟨⟨party, prog, heard⟩, there, serves⟩
  · exact .inr (waits.ends ended)
  · obtain ⟨means, ends⟩ := (Store.chronicle_inOrder (service_laws bound) reached).outcome there
      (serves.outcome ▸ ended)
    obtain ⟨_, acts⟩ := serves.attested
    rw [owner] at acts
    obtain ⟨who, env, rfl, admits⟩ := acts
    exact .inl ⟨who, env, admits, same ▸ bound.ends_mono means ends⟩

end Service
end OrchidApi
