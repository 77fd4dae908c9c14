import OrchidApi.AuthEntry

/-! What the authentication of a request rests on, in front of whatever handler: an identity
that the resolver has attested to this very request, or a refusal with its cause. -/
namespace OrchidApi
open Text Async

variable {D : Type} {Q : D → Type}

/-- What the calls in front have answered to the request so far: the contexts that it has read
in their order, what which resolver has said to what, and the exception that one has raised. -/
structure AuthFacts where
  apps : List AppContext := []
  resolution : Option (IdentityResolver × Str × Str × Resolution) := none
  raised : Option Exn := none

/-- The resolver that was wired when the request first looked. -/
def AuthFacts.wired (facts : AuthFacts) : Option (Option IdentityResolver) :=
  facts.apps.head?.map AppContext.identityResolver

def AuthFacts.read (facts : AuthFacts) (app : AppContext) : AuthFacts :=
  { facts with apps := facts.apps ++ [app] }

/-- What an answer to the dependency's own call tells. -/
def AuthFacts.hear (facts : AuthFacts) : (c : AuthCall) → Except Exn c.Reply → AuthFacts
  | _, .error error => { facts with raised := some error }
  | .appCtx, .ok app => facts.read app
  | .resolve resolver domain bearerToken, .ok resolution =>
    { facts with resolution := some (resolver, domain, bearerToken, resolution) }
  | _, .ok _ => facts

def AuthFacts.learn (facts : AuthFacts) : (c : (FrontApi Q).Call) → (FrontApi Q).Answer c → AuthFacts
  | .inl c, answer => facts.hear c answer
  | .inr _, _ => facts

/-! ## Whom the answers attest -/

/-- The resolver of this repository answers by itself, any other has answered to the question. -/
def IdentityResolver.Said (resolver : IdentityResolver) (facts : AuthFacts) (domain bearerToken : Str)
    (resolution : Resolution) : Prop :=
  match resolver with
  | .devBypass accessToken => resolution = .context (devContext accessToken)
  | .custom _ _ => facts.resolution = some (resolver, domain, bearerToken, resolution)

/-- The resolver in place has answered to the token of this very request. -/
structure Resolved (s : AuthSettings) (h : AuthHeaders) (facts : AuthFacts) (resolution : Resolution) :
    Prop where
  plain : s.devAuthBypass = false
  bearer : "Bearer ".toList <+: h.authorization
  said : ∃ resolver, facts.wired = some (some resolver) ∧
    resolver.Said facts (routingDomain s h.xAuthDomain) (h.authorization.drop 7) resolution

inductive Attests (s : AuthSettings) (h : AuthHeaders) (facts : AuthFacts) : ResolvedContext → Prop where
  | development (bypass : s.devAuthBypass = true) : Attests s h facts (devContext s.devBypassToken)
  | resolved {ctx} (answered : Resolved s h facts (.context ctx)) (valid : ctx.isExpired = false) :
      Attests s h facts ctx

/-- Every refusal has its cause. Those of the dependency's own have fixed details, of which none
tells more than the status; the last is the exception that a call in front has raised itself. -/
inductive Refuses (s : AuthSettings) (h : AuthHeaders) (facts : AuthFacts) : Exn → Prop where
  | missing (plain : s.devAuthBypass = false) (noBearer : ¬"Bearer ".toList <+: h.authorization) :
      Refuses s h facts missingBearer
  | unwired (plain : s.devAuthBypass = false) (bearer : "Bearer ".toList <+: h.authorization)
      (none : facts.wired = some none) : Refuses s h facts resolverMissing
  | rejected {statusCode message} (answered : Resolved s h facts (.identityError statusCode message)) :
      Refuses s h facts (identityRefusal statusCode)
  | expired {ctx} (answered : Resolved s h facts (.context ctx)) (old : ctx.isExpired = true) :
      Refuses s h facts tokenExpired
  | raised (error : Exn) (answered : facts.raised = some error) : Refuses s h facts error

section Front
variable {s : AuthSettings} {h : AuthHeaders} {facts : AuthFacts} {α β : Type}

/-- A program of calls in front, from what is known to what may be its end. -/
abbrev Fronted (p : AuthHandler Q α) (post : AuthFacts → Except Exn α → Prop) (facts : AuthFacts) : Prop :=
  p.Guarded (fun _ c => Sum.isLeft c = true) AuthFacts.learn post facts

theorem fronted_await {c : AuthCall} {post : AuthFacts → Except Exn c.Reply → Prop}
    (answers : ∀ answer : Except Exn c.Reply, post (facts.hear c answer) answer) :
    Fronted (Auth.await c : AuthHandler Q c.Reply) post facts := by
  refine ⟨rfl, fun answer => ?_⟩
  cases answer with
  | ok value => exact answers (.ok value)
  | error error => exact answers (.error error)

/-! ## Beside the resolver -/

/-- The answers since are beside the identity: more contexts have been read at most. -/
structure Beside (facts later : AuthFacts) : Prop where
  apps : facts.apps <+: later.apps
  resolution : later.resolution = facts.resolution

theorem beside_refl (facts : AuthFacts) : Beside facts facts := ⟨List.prefix_rfl, rfl⟩

theorem Beside.trans {later last : AuthFacts} (beside : Beside facts later) (further : Beside later last) :
    Beside facts last :=
  ⟨beside.apps.trans further.apps, further.resolution.trans beside.resolution⟩

theorem Beside.wired {later : AuthFacts} (beside : Beside facts later) {found : Option IdentityResolver}
    (wired : facts.wired = some found) : later.wired = some found := by
  obtain ⟨app, first, same⟩ := Option.map_eq_some_iff.mp wired
  obtain ⟨rest, same'⟩ := List.head?_eq_some_iff.mp first
  obtain ⟨more, grown⟩ := beside.apps
  rw [AuthFacts.wired, ← grown, same', List.cons_append, List.head?_cons, Option.map_some, same]

theorem Resolved.beside {later : AuthFacts} {resolution : Resolution}
    (answered : Resolved s h facts resolution) (beside : Beside facts later) :
    Resolved s h later resolution := by
  obtain ⟨resolver, wired, said⟩ := answered.said
  refine ⟨answered.plain, answered.bearer, resolver, beside.wired wired, ?_⟩
  cases resolver with
  | devBypass token => exact said
  | custom cls client => exact beside.resolution.trans said

/-- What is attested stays so. -/
theorem Attests.beside {later : AuthFacts} {ctx : ResolvedContext} (attests : Attests s h facts ctx)
    (beside : Beside facts later) : Attests s h later ctx := by
  cases attests with
  | development bypass => exact .development bypass
  | resolved answered valid => exact .resolved (answered.beside beside) valid

/-- How a program beside the resolver ends: its value is one that is given, a failure is a known
exception or lacks something. -/
structure Aside (lacks : AuthFacts → Exn → Prop) (gives : AuthFacts → α → Prop) (facts later : AuthFacts)
    (outcome : Except Exn α) : Prop where
  beside : Beside facts later
  gives : ∀ value, outcome = .ok value → gives later value
  failed : ∀ error, outcome = .error error → later.raised = some error ∨ lacks later error

variable {lacks : AuthFacts → Exn → Prop}

theorem aside_done {gives : AuthFacts → α → Prop} {value : α} (given : gives facts value) :
    Fronted (pure value : AuthHandler Q α) (Aside lacks gives facts) facts :=
  ⟨beside_refl facts, fun _ same => Except.ok.inj same ▸ given, nofun⟩

theorem aside_bind {gives : AuthFacts → α → Prop} {last : AuthFacts → β → Prop} {p : AuthHandler Q α}
    {f : α → AuthHandler Q β} (first : Fronted p (Aside lacks gives facts) facts)
    (rest : ∀ later value, Beside facts later → gives later value →
      Fronted (f value) (Aside lacks last later) later) : Fronted (p >>= f) (Aside lacks last facts) facts := by
  refine Prog.guarded_bind first (fun later value aside => ?_) fun _ _ aside => ?_
  · have given := aside.gives value rfl
    exact Prog.guarded_mono (rest later value aside.beside given) fun _ _ further =>
      ⟨aside.beside.trans further.beside, further.gives, further.failed⟩
  · exact ⟨aside.beside, nofun, fun _ same => aside.failed _ (congrArg _ (Except.error.inj same))⟩

theorem aside_raised {gives : AuthFacts → α → Prop} (c : AuthCall) (error : Exn) :
    Aside lacks gives facts (facts.hear c (.error error)) (.error error : Except Exn α) := by
  have known : facts.hear c (.error error) = { facts with raised := some error } := by cases c <;> rfl
  exact known ▸ ⟨⟨List.prefix_rfl, rfl⟩, nofun, fun _ same => .inl (congrArg some (Except.error.inj same))⟩

/-- A context that is read is then one of those that were. -/
theorem aside_appCtx : Fronted (Auth.appCtx : AuthHandler Q AppContext)
    (Aside lacks (fun later app => app ∈ later.apps) facts) facts := by
  apply fronted_await
  intro answer
  cases answer with
  | ok app =>
    refine ⟨⟨List.prefix_append _ _, rfl⟩, fun value same => ?_, nofun⟩
    exact Except.ok.inj same ▸ List.mem_append_right facts.apps (.head _)
  | error error => exact aside_raised .appCtx error

/-- The warm-up tells nothing. -/
theorem aside_warm {c : AuthCall} (warms : ∃ ctx, c = .isWarmed ctx ∨ c = .createTask ctx) :
    Fronted (Auth.await c : AuthHandler Q c.Reply) (Aside lacks (fun _ _ => True) facts) facts := by
  apply fronted_await
  intro answer
  cases answer with
  | ok reply =>
    obtain ⟨ctx, rfl | rfl⟩ := warms <;> exact ⟨beside_refl facts, fun _ _ => trivial, nofun⟩
  | error error => exact aside_raised c error

theorem fronted_scheduleWarm (ctx : ResolvedContext) : Fronted (scheduleWarmForUser ctx : AuthHandler Q Unit)
    (Aside (fun _ _ => False) (fun _ _ => True) facts) facts := by
  refine aside_bind aside_appCtx fun later app _ _ => ?_
  split
  · refine aside_bind (aside_warm ⟨ctx, .inl rfl⟩) fun _ warmed _ _ => ?_
    split
    · exact aside_done trivial
    · exact aside_bind (aside_warm ⟨ctx, .inr rfl⟩) fun _ _ _ _ => aside_done trivial
  · exact aside_done trivial

/-! ## The dependency -/

/-- How the dependency may end. -/
abbrev Ends (s : AuthSettings) (h : AuthHeaders) : AuthFacts → Except Exn ResolvedContext → Prop :=
  fun facts outcome => match outcome with
    | .ok ctx => Attests s h facts ctx
    | .error error => Refuses s h facts error

/-- With the identity found, only the warm-up is left. -/
theorem fronted_found {ctx : ResolvedContext} (attests : Attests s h facts ctx) :
    Fronted (scheduleWarmForUser ctx >>= fun _ => pure ctx : AuthHandler Q ResolvedContext)
      (Ends s h) facts := by
  refine Prog.guarded_bind (fronted_scheduleWarm ctx) (fun later _ aside => attests.beside aside.beside) ?_
  intro later error aside
  exact .raised error ((or_false _).mp (aside.failed error rfl))

theorem fronted_resolve {resolver : IdentityResolver} {domain bearerToken : Str}
    (wired : facts.wired = some (some resolver)) :
    Fronted (resolver.resolve domain bearerToken : AuthHandler Q Resolution) (fun later outcome =>
      match outcome with
      | .ok resolution => later.wired = some (some resolver) ∧ resolver.Said later domain bearerToken resolution
      | .error error => later.raised = some error) facts := by
  cases resolver with
  | devBypass token => exact ⟨wired, rfl⟩
  | custom cls client =>
    apply fronted_await
    intro answer
    cases answer with
    | ok resolution => exact ⟨wired, rfl⟩
    | error error => rfl

/-- What the dependency makes of the resolver's answer. -/
theorem fronted_acceptResolution {resolution : Resolution} (answered : Resolved s h facts resolution) :
    Fronted (acceptResolution resolution : AuthHandler Q ResolvedContext) (Ends s h) facts := by
  cases resolution with
  | identityError statusCode message => exact .rejected answered
  | context ctx =>
    by_cases old : ctx.isExpired = true
    · rw [acceptResolution, if_pos old]
      exact .expired answered old
    · rw [acceptResolution, if_neg old]
      exact fronted_found (.resolved answered (Bool.eq_false_iff.mpr old))

theorem fronted_getAuthContext :
    Fronted (getAuthContext s h : AuthHandler Q ResolvedContext) (Ends s h) {} := by
  by_cases bypass : s.devAuthBypass = true
  · rw [getAuthContext, if_pos bypass]
    exact fronted_found (.development bypass)
  rw [getAuthContext, if_neg bypass]
  have plain : s.devAuthBypass = false := Bool.eq_false_iff.mpr bypass
  by_cases bearer : startsWith h.authorization "Bearer ".toList = true
  · rw [if_pos bearer]
    have begins := (startsWith_iff _ _).mp bearer
    have asked : Fronted (Auth.appCtx : AuthHandler Q AppContext) (fun later outcome => match outcome with
        | .ok app => later.wired = some app.identityResolver
        | .error error => later.raised = some error) {} := by
      apply fronted_await
      intro answer
      cases answer <;> rfl
    refine Prog.guarded_bind asked (fun later app known => ?_) fun _ error known => .raised error known
    have known : later.wired = some app.identityResolver := known
    cases found : app.identityResolver with
    | none => exact .unwired plain begins (found ▸ known)
    | some resolver =>
      rw [found] at known
      refine Prog.guarded_bind (fronted_resolve known) (fun after resolution said => ?_)
        fun _ error known => .raised error known
      exact fronted_acceptResolution ⟨plain, begins, resolver, said⟩
  · rw [if_neg bearer]
    exact .missing plain fun begins => bearer ((startsWith_iff _ _).mpr begins)

end Front

/-- The answers in front of a process with this context, whose resolver knows these identities. -/
def answersInFront (app : AppContext) (identity : Str → Resolution) : (c : AuthCall) → Except Exn c.Reply
  | .appCtx => .ok app
  | .resolve _ _ bearerToken => .ok (identity bearerToken)
  | .isWarmed _ => .ok false
  | .createTask _ => .ok true
  | .getOauthConfig _ _ => .ok (none : Option UpstreamOAuthConfig)
  | .exchangeCode _ _ _ _ _ | .refreshToken _ _ _ => .ok .notImplemented

end OrchidApi
