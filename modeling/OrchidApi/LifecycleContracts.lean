import OrchidApi.AsyncTriple
import OrchidApi.Lifecycle

/-! Contracts of setup and teardown when any step of them may fail: the order in which
resources are opened and closed, what the context holds, and what it has lost. -/
namespace OrchidApi
open Text Async

/-! ## The ledger -/

inductive Resource where
  | httpClient (id : Nat)
  | orchid (id : Nat)
  | oauthStateStore (id : Nat)
  | events (id : Nat) (storage : Option Nat)
  deriving DecidableEq

def Resource.id : Resource → Nat
  | .httpClient id | .orchid id | .oauthStateStore id | .events id _ => id

inductive LedgerEntry where
  | opened (resource : Resource)
  | closed (resource : Resource)
  deriving DecidableEq

/-- What may come next. Nothing is closed twice, an events runtime starts on a storage that
is open, and a facade is closed after every events runtime that writes to its storage. -/
def Permitted (earlier : List LedgerEntry) : LedgerEntry → Prop
  | .opened resource => .opened resource ∉ earlier ∧ ∀ id n, resource = .events id (some n) →
      .opened (.orchid n) ∈ earlier ∧ .closed (.orchid n) ∉ earlier
  | .closed resource => .opened resource ∈ earlier ∧ .closed resource ∉ earlier ∧
      ∀ n, resource = .orchid n → ∀ id, .opened (.events id (some n)) ∈ earlier →
        .closed (.events id (some n)) ∈ earlier

/-- A ledger, newest entry first, each of them permitted by the earlier ones. -/
def OrderlyLedger : List LedgerEntry → Prop
  | [] => True
  | entry :: earlier => Permitted earlier entry ∧ OrderlyLedger earlier

structure LifecycleWorld where
  ctx : AppContext := {}
  issued : Nat := 0
  ledger : List LedgerEntry := []

namespace LifecycleWorld

def IsOpen (w : LifecycleWorld) (resource : Resource) : Prop :=
  .opened resource ∈ w.ledger ∧ .closed resource ∉ w.ledger

def opening (w : LifecycleWorld) (resource : Resource) : LifecycleWorld :=
  { w with issued := w.issued + 1, ledger := .opened resource :: w.ledger }

def close (w : LifecycleWorld) (resource : Resource) : LifecycleWorld :=
  { w with ledger := .closed resource :: w.ledger }

end LifecycleWorld

def EventsRuntime.resource (events : EventsRuntime) : Resource := .events events.id events.storage

/-- The resources that the context holds; a disabled events runtime is none. -/
def AppContext.Holds (ctx : AppContext) : Resource → Prop
  | .httpClient id => ctx.httpClient = some ⟨id⟩
  | .orchid id => ∃ orchid, ctx.orchid = some orchid ∧ orchid.id = id
  | .oauthStateStore id => ctx.oauthStateStore = some ⟨id⟩
  | .events id storage => ∃ events, ctx.events = some events ∧ events.enabled = true ∧
      events.id = id ∧ events.storage = storage

/-- A new resource has a new id. A step that fails counts as having opened and closed nothing, a
close that raises among them, and a disabled events runtime is started without any effect. -/
inductive LifecycleServes (w : LifecycleWorld) :
    (c : LifecycleCall) → LifecycleApi.Answer c → LifecycleWorld → Prop where
  | appCtx : LifecycleServes w .appCtx (.ok w.ctx) w
  | assign (change : AppContext → AppContext) :
      LifecycleServes w (.assign change) (.ok ()) { w with ctx := change w.ctx }
  | newHttpClient :
      LifecycleServes w .newHttpClient (.ok (⟨w.issued⟩ : HttpClient)) (w.opening (.httpClient w.issued))
  | fromConfigPath (orchid : Orchid) (fresh : orchid.id = w.issued) :
      LifecycleServes w .fromConfigPath (.ok orchid) (w.opening (.orchid orchid.id))
  | buildOauthStateStore :
      LifecycleServes w .buildOauthStateStore (.ok (⟨w.issued⟩ : OAuthStateStore))
        (w.opening (.oauthStateStore w.issued))
  | startEvents (config storage resolver) (events : EventsRuntime) (fresh : events.id = w.issued)
      (onto : events.storage = storage) (enabled : events.enabled = true) :
      LifecycleServes w (.startEvents config storage resolver) (.ok events) (w.opening events.resource)
  | noEvents (config storage resolver) (events : EventsRuntime) (disabled : events.enabled = false) :
      LifecycleServes w (.startEvents config storage resolver) (.ok events) w
  | stopEvents (events : EventsRuntime) :
      LifecycleServes w (.stopEvents events) (.ok ()) (w.close events.resource)
  | closeOrchid (orchid : Orchid) :
      LifecycleServes w (.closeOrchid orchid) (.ok ()) (w.close (.orchid orchid.id))
  | closeOauthStateStore (store : OAuthStateStore) :
      LifecycleServes w (.closeOauthStateStore store) (.ok ()) (w.close (.oauthStateStore store.id))
  | aclose (client : HttpClient) :
      LifecycleServes w (.aclose client) (.ok ()) (w.close (.httpClient client.id))
  | importClass (path : Str) (cls : LoadedClass) : LifecycleServes w (.importClass path) (.ok cls) w
  | instantiate (cls httpClient) : LifecycleServes w (.instantiate cls httpClient) (.ok ()) w
  | configureTracing : LifecycleServes w .configureTracing (.ok ()) w
  | warm (orchid) : LifecycleServes w (.warmUnauthenticatedCapabilities orchid) (.ok ()) w
  | startHttpProducer (sources events) : LifecycleServes w (.startHttpProducer sources events) (.ok ()) w
  | injectSignalEmitter (orchid) : LifecycleServes w (.injectSignalEmitter orchid) (.ok ()) w
  | cleanupExpired (orchid) : LifecycleServes w (.cleanupExpired orchid) (.ok ()) w
  | fails (c : LifecycleCall) (error : Exn) (awaited : c ≠ .appCtx ∧ ∀ change, c ≠ .assign change) :
      LifecycleServes w c (.error error) w

/-! ## The invariant -/

/-- A resolver that was given an HTTP client was given the one of the context. -/
def AppContext.ResolverLive (ctx : AppContext) : Prop :=
  ∀ cls client, ctx.identityResolver = some (.custom cls (some client)) → ctx.httpClient = some client

/-- What is open is held by the context or among the lost resources. -/
structure SoundWorld (lost : Resource → Prop) (w : LifecycleWorld) : Prop where
  fresh : ∀ r, .opened r ∈ w.ledger → r.id < w.issued
  based : ∀ id n, .opened (.events id (some n)) ∈ w.ledger → n < w.issued
  orderly : OrderlyLedger w.ledger
  held : ∀ r, w.ctx.Holds r → w.IsOpen r
  accounted : ∀ r, w.IsOpen r → w.ctx.Holds r ∨ lost r
  /-- Nothing but the context's own events runtime writes to the storage of its facade. -/
  feeding : ∀ orchid id, w.ctx.orchid = some orchid → w.IsOpen (.events id (some orchid.id)) →
    w.ctx.Holds (.events id (some orchid.id))
  live : w.ctx.orchid.isSome → w.ctx.ResolverLive

section Ledger
variable {lost : Resource → Prop} {w : LifecycleWorld} {r : Resource} {ctx' : AppContext}

theorem isOpen_opening {x : Resource} : (w.opening r).IsOpen x ↔
    (x = r ∨ .opened x ∈ w.ledger) ∧ .closed x ∉ w.ledger := by
  simp [LifecycleWorld.IsOpen, LifecycleWorld.opening]

theorem isOpen_before {x : Resource} (isOpen : (w.opening r).IsOpen x) (distinct : x ≠ r) :
    w.IsOpen x := by
  obtain ⟨opened, unclosed⟩ := isOpen_opening.mp isOpen
  exact ⟨opened.resolve_left distinct, unclosed⟩

theorem isOpen_close {x : Resource} : (w.close r).IsOpen x ↔ w.IsOpen x ∧ x ≠ r := by
  simp only [LifecycleWorld.IsOpen, LifecycleWorld.close, List.mem_cons, reduceCtorEq, false_or,
    LedgerEntry.closed.injEq, not_or]
  tauto

theorem opened_close {x : Resource} : .opened x ∈ (w.close r).ledger ↔ .opened x ∈ w.ledger := by
  simp [LifecycleWorld.close]

theorem OrderlyLedger.closed_opened {ledger : List LedgerEntry} (orderly : OrderlyLedger ledger)
    (closed : .closed r ∈ ledger) : .opened r ∈ ledger := by
  induction ledger with
  | nil => contradiction
  | cons entry earlier ih =>
    rcases List.mem_cons.mp closed with rfl | before
    · exact .tail _ orderly.1.1
    · exact .tail _ (ih orderly.2 before)

/-- A new resource, and a context that holds it. -/
theorem SoundWorld.opened (sound : SoundWorld lost w) (fresh : r.id = w.issued)
    (onto : ∀ id n, r = .events id (some n) → w.IsOpen (.orchid n))
    (held : ∀ x, ctx'.Holds x → x = r ∨ w.ctx.Holds x)
    (kept : ∀ x, x = r ∨ w.ctx.Holds x → ctx'.Holds x ∨ lost x)
    (feeding : ∀ orchid id, ctx'.orchid = some orchid →
      .events id (some orchid.id) = r ∨ w.IsOpen (.events id (some orchid.id)) →
      ctx'.Holds (.events id (some orchid.id)))
    (live : ctx'.orchid.isSome → ctx'.ResolverLive) :
    SoundWorld lost { w.opening r with ctx := ctx' } := by
  have unknown : .opened r ∉ w.ledger := fun old => by
    have := sound.fresh r old
    omega
  have unclosed : .closed r ∉ w.ledger := fun closed => unknown (sound.orderly.closed_opened closed)
  have opens {x : Resource} (isOpen : (w.opening r).IsOpen x) : x = r ∨ w.IsOpen x := by
    obtain ⟨rfl | old, unclosed⟩ := isOpen_opening.mp isOpen
    · exact .inl rfl
    · exact .inr ⟨old, unclosed⟩
  have stays {x : Resource} (isOpen : x = r ∨ w.IsOpen x) : (w.opening r).IsOpen x := by
    rcases isOpen with rfl | isOpen
    · exact isOpen_opening.mpr ⟨.inl rfl, unclosed⟩
    · exact isOpen_opening.mpr ⟨.inr isOpen.1, isOpen.2⟩
  refine ⟨?_, ?_, ⟨⟨unknown, ?_⟩, sound.orderly⟩, ?_, ?_, ?_, live⟩
  · intro x there
    rcases List.mem_cons.mp there with same | old
    · obtain rfl := LedgerEntry.opened.inj same
      simp [LifecycleWorld.opening, fresh]
    · exact Nat.lt_succ_of_lt (sound.fresh x old)
  · intro id n there
    rcases List.mem_cons.mp there with same | old
    · have storage := onto id n (LedgerEntry.opened.inj same).symm
      exact Nat.lt_succ_of_lt (sound.fresh _ storage.1)
    · exact Nat.lt_succ_of_lt (sound.based id n old)
  · intro id n same
    exact onto id n same
  · intro x holds
    exact stays ((held x holds).imp_right (sound.held x))
  · intro x isOpen
    rcases opens isOpen with rfl | old
    · exact kept x (.inl rfl)
    · rcases sound.accounted x old with holds | gone
      · exact kept x (.inr holds)
      · exact .inr gone
  · intro orchid id current isOpen
    exact feeding orchid id current (opens isOpen)

/-- A held resource is closed, and the context lets go of it. -/
theorem SoundWorld.closed (sound : SoundWorld lost w) (holds : w.ctx.Holds r)
    (last : ∀ n, r = .orchid n → ∀ id, ¬w.IsOpen (.events id (some n)))
    (held : ∀ x, ctx'.Holds x ↔ w.ctx.Holds x ∧ x ≠ r)
    (orchid : ctx'.orchid = w.ctx.orchid ∨ ctx'.orchid = none)
    (live : ctx'.orchid.isSome → ctx'.ResolverLive) :
    SoundWorld lost { w.close r with ctx := ctx' } := by
  have isOpen := sound.held r holds
  refine ⟨?_, ?_, ⟨⟨isOpen.1, isOpen.2, ?_⟩, sound.orderly⟩, ?_, ?_, ?_, live⟩
  · intro x there
    exact sound.fresh x (opened_close.mp there)
  · intro id n there
    exact sound.based id n (opened_close.mp there)
  · intro n same id opened
    by_contra unclosed
    exact last n same id ⟨opened, unclosed⟩
  · intro x now
    obtain ⟨before, distinct⟩ := (held x).mp now
    exact isOpen_close.mpr ⟨sound.held x before, distinct⟩
  · intro x now
    obtain ⟨before, distinct⟩ := isOpen_close.mp now
    exact (sound.accounted x before).imp_left fun holds => (held x).mpr ⟨holds, distinct⟩
  · intro current id same now
    obtain ⟨before, distinct⟩ := isOpen_close.mp now
    rcases orchid with kept | gone
    · exact (held _).mpr ⟨sound.feeding current id (kept ▸ same) before, distinct⟩
    · rw [gone] at same
      contradiction

/-- A change of the context that lets nothing go. -/
theorem SoundWorld.rewired (sound : SoundWorld lost w) (held : ∀ x, ctx'.Holds x ↔ w.ctx.Holds x)
    (orchid : ctx'.orchid = w.ctx.orchid) (live : ctx'.orchid.isSome → ctx'.ResolverLive) :
    SoundWorld lost { w with ctx := ctx' } where
  fresh := sound.fresh
  based := sound.based
  orderly := sound.orderly
  held x holds := sound.held x ((held x).mp holds)
  accounted x isOpen := (sound.accounted x isOpen).imp_left (held x).mpr
  feeding current id same isOpen := (held _).mpr (sound.feeding current id (orchid ▸ same) isOpen)
  live := live

theorem SoundWorld.weaken {wider : Resource → Prop} (sound : SoundWorld lost w)
    (widens : ∀ x, lost x → wider x) :
    SoundWorld wider w where
  fresh := sound.fresh
  based := sound.based
  orderly := sound.orderly
  held := sound.held
  accounted x isOpen := (sound.accounted x isOpen).imp_right (widens x)
  feeding := sound.feeding
  live := sound.live

end Ledger

/-! ## Teardown -/

section Contracts
variable {lost : Resource → Prop}

abbrev Keeps (pre : Assertion LifecycleWorld) (p : LifecycleHandler α)
    (post : α → Assertion LifecycleWorld) (lost : Resource → Prop) : Prop :=
  Contract LifecycleServes pre p post fun _ => SoundWorld lost

/-- The calls that leave the context and the ledger as they are. -/
def LifecycleCall.Idle : LifecycleCall → Prop
  | .configureTracing | .importClass _ | .instantiate _ _ | .warmUnauthenticatedCapabilities _
  | .startHttpProducer _ _ | .injectSignalEmitter _ | .cleanupExpired _ => True
  | _ => False

theorem served_error {w w' : LifecycleWorld} {c : LifecycleCall} {error : Exn}
    (served : LifecycleServes w c (.error error) w') : w' = w := by
  cases served
  rfl

theorem idle_unchanged {pre : Assertion LifecycleWorld} {c : LifecycleCall} (idle : c.Idle) :
    Contract LifecycleServes pre (Lifecycle.await c) (fun _ => pre) fun _ => pre := by
  apply Contract.await
  · intro w reply final holds served
    cases served <;> first | exact holds | exact idle.elim
  · intro w error final holds served
    exact served_error served ▸ holds

theorem keeps_idle {pre : Assertion LifecycleWorld} {c : LifecycleCall} (idle : c.Idle)
    (sound : ∀ w, pre w → SoundWorld lost w) : Keeps pre (Lifecycle.await c) (fun _ => pre) lost :=
  (idle_unchanged idle).conseq (fun _ holds => holds) (fun _ _ holds => holds) fun _ => sound

theorem keeps_appCtx {pre : Assertion LifecycleWorld} {raised : Exn → Assertion LifecycleWorld} :
    Contract LifecycleServes pre Lifecycle.appCtx (fun ctx w => pre w ∧ w.ctx = ctx) raised := by
  apply Contract.await
  · intro w reply final holds served
    cases served
    exact ⟨holds, rfl⟩
  · intro w error final holds served
    cases served with
    | fails _ _ awaited => exact absurd rfl awaited.1

theorem keeps_assign {pre : Assertion LifecycleWorld} {change : AppContext → AppContext}
    {post : Assertion LifecycleWorld} (step : ∀ w, pre w → post { w with ctx := change w.ctx }) :
    Keeps pre (Lifecycle.assign change) (fun _ => post) lost := by
  apply Contract.await
  · intro w reply final holds served
    cases served
    exact step w holds
  · intro w error final holds served
    cases served with
    | fails _ _ awaited => exact absurd rfl (awaited.2 change)

/-- An optional step, whatever it does. -/
theorem keeps_onlyLogged {pre : Assertion LifecycleWorld} {p : LifecycleHandler Unit}
    (first : Contract LifecycleServes pre p (fun _ => pre) fun _ => pre)
    (sound : ∀ w, pre w → SoundWorld lost w) :
    Keeps pre (Lifecycle.onlyLogged p) (fun _ => pre) lost := by
  apply Contract.attempt first
  · intro value
    exact Contract.ret fun _ holds => holds
  · intro error
    exact Contract.ite (fun _ => Contract.ret fun _ holds => holds) fun _ => Contract.raise sound

/-- Close a resource and let go of it: the context changes only when the close has returned. -/
theorem keeps_release {pre post : Assertion LifecycleWorld} {c : LifecycleCall} {r : Resource}
    {change : AppContext → AppContext}
    (closes : ∀ {w reply w'}, LifecycleServes w c (.ok reply) w' → w' = w.close r)
    (sound : ∀ w, pre w → SoundWorld lost w)
    (step : ∀ w, pre w → post { w.close r with ctx := change w.ctx }) :
    Keeps pre (Lifecycle.await c >>= fun _ => Lifecycle.assign change) (fun _ => post) lost := by
  have middle : Keeps pre (Lifecycle.await c) (fun _ w => ∃ v, pre v ∧ w = v.close r) lost := by
    apply Contract.await
    · intro w reply final holds served
      exact ⟨w, holds, closes served⟩
    · intro w error final holds served
      exact served_error served ▸ sound w holds
  refine Contract.bind middle fun _ => keeps_assign ?_
  rintro w ⟨v, holds, rfl⟩
  exact step v holds

def NoEvents (w : LifecycleWorld) : Prop := ∀ id storage, ¬w.ctx.Holds (.events id storage)

theorem keeps_releaseEvents :
    Keeps (SoundWorld lost) releaseEvents (fun _ w => SoundWorld lost w ∧ NoEvents w) lost := by
  refine Contract.bind keeps_appCtx fun ctx => ?_
  cases running : ctx.events with
  | none =>
    refine Contract.ret fun w ⟨sound, same⟩ => ⟨sound, ?_⟩
    rintro id storage ⟨events, held, _⟩
    rw [same, running] at held
    contradiction
  | some events =>
    refine Contract.ite (fun enabled => ?_) fun disabled => ?_
    · refine keeps_release (r := events.resource) (fun served => by cases served; rfl)
        (fun _ holds => holds.1) fun w ⟨sound, same⟩ => ?_
      have holds : w.ctx.Holds events.resource := ⟨events, by rw [same, running], enabled, rfl, rfl⟩
      refine ⟨sound.closed holds nofun ?_ (.inl rfl) sound.live, ?_⟩
      · intro x
        cases x with
        | events id storage =>
          refine ⟨fun ⟨_, gone, _⟩ => (nomatch gone), ?_⟩
          rintro ⟨⟨other, held, _, rfl, rfl⟩, distinct⟩
          rw [same, running] at held
          obtain rfl := Option.some.inj held
          exact absurd rfl distinct
        | _ => exact ⟨fun held => ⟨held, nofun⟩, And.left⟩
      · rintro id storage ⟨_, gone, _⟩
        contradiction
    · refine Contract.ret fun w ⟨sound, same⟩ => ⟨sound, ?_⟩
      rintro id storage ⟨other, held, enabled, _⟩
      rw [same, running] at held
      obtain rfl := Option.some.inj held
      exact disabled enabled

theorem keeps_releaseOrchid :
    Keeps (fun w => SoundWorld lost w ∧ NoEvents w) releaseOrchid
      (fun _ w => (SoundWorld lost w ∧ NoEvents w) ∧ w.ctx.orchid = none) lost := by
  refine Contract.bind keeps_appCtx fun ctx => ?_
  cases running : ctx.orchid with
  | none =>
    refine Contract.ret fun w ⟨holds, same⟩ => ⟨holds, ?_⟩
    rw [same, running]
  | some orchid =>
    refine keeps_release (r := .orchid orchid.id) (fun served => by cases served; rfl)
      (fun _ holds => holds.1.1) fun w ⟨⟨sound, idle⟩, same⟩ => ⟨⟨?_, ?_⟩, rfl⟩
    · have current : w.ctx.orchid = some orchid := by rw [same, running]
      refine sound.closed ⟨orchid, current, rfl⟩ ?_ ?_ (.inr rfl) nofun
      · intro n same id isOpen
        obtain rfl := Resource.orchid.inj same
        exact idle _ _ (sound.feeding orchid id current isOpen)
      · intro x
        cases x with
        | orchid id =>
          refine ⟨fun ⟨_, gone, _⟩ => (nomatch gone), ?_⟩
          rintro ⟨⟨other, held, rfl⟩, distinct⟩
          rw [current] at held
          obtain rfl := Option.some.inj held
          exact absurd rfl distinct
        | _ => exact ⟨fun held => ⟨held, nofun⟩, And.left⟩
    · exact idle

theorem keeps_releaseOauthStateStore :
    Keeps (fun w => (SoundWorld lost w ∧ NoEvents w) ∧ w.ctx.orchid = none) releaseOauthStateStore
      (fun _ w => ((SoundWorld lost w ∧ NoEvents w) ∧ w.ctx.orchid = none) ∧ w.ctx.oauthStateStore = none)
      lost := by
  refine Contract.bind keeps_appCtx fun ctx => ?_
  cases running : ctx.oauthStateStore with
  | none =>
    refine Contract.ret fun w ⟨holds, same⟩ => ⟨holds, ?_⟩
    rw [same, running]
  | some store =>
    refine keeps_release (r := .oauthStateStore store.id) (fun served => by cases served; rfl)
      (fun _ holds => holds.1.1.1) fun w ⟨⟨⟨sound, idle⟩, down⟩, same⟩ => ⟨⟨⟨?_, idle⟩, down⟩, rfl⟩
    have current : w.ctx.oauthStateStore = some store := by rw [same, running]
    refine sound.closed current nofun ?_ (.inl rfl) sound.live
    intro x
    cases x with
    | oauthStateStore id =>
      refine ⟨fun gone => (nomatch gone), ?_⟩
      rintro ⟨held, distinct⟩
      obtain rfl := Option.some.inj (current.symm.trans held)
      exact absurd rfl distinct
    | _ => exact ⟨fun held => ⟨held, nofun⟩, And.left⟩

/-- Nothing is left in the context but what needs no release. -/
structure Released (ctx : AppContext) : Prop where
  events : ∀ events, ctx.events = some events → events.enabled = false
  orchid : ctx.orchid = none
  oauthStateStore : ctx.oauthStateStore = none
  httpClient : ctx.httpClient = none

theorem keeps_teardown :
    Keeps (SoundWorld lost) teardownOrchid (fun _ w => SoundWorld lost w ∧ Released w.ctx) lost := by
  have resources : Keeps (SoundWorld lost) releaseResources (fun _ w =>
      ((SoundWorld lost w ∧ NoEvents w) ∧ w.ctx.orchid = none) ∧ w.ctx.oauthStateStore = none) lost :=
    Contract.bind keeps_releaseEvents fun _ => Contract.bind keeps_releaseOrchid fun _ =>
      keeps_releaseOauthStateStore
  refine Contract.bind resources fun _ => Contract.bind keeps_appCtx fun ctx => ?_
  have released {w : LifecycleWorld} (idle : NoEvents w) : ∀ events, w.ctx.events = some events →
      events.enabled = false := by
    intro events held
    by_contra enabled
    exact idle _ _ ⟨events, held, Bool.not_eq_false _ ▸ enabled, rfl, rfl⟩
  cases running : ctx.httpClient with
  | none =>
    refine Contract.ret fun w ⟨⟨⟨⟨sound, idle⟩, down⟩, store⟩, same⟩ => ⟨sound, released idle, down, store, ?_⟩
    rw [same, running]
  | some client =>
    refine keeps_release (r := .httpClient client.id) (fun served => by cases served; rfl)
      (fun _ holds => holds.1.1.1.1) fun w ⟨⟨⟨⟨sound, idle⟩, down⟩, store⟩, same⟩ => ⟨?_, ?_⟩
    · have current : w.ctx.httpClient = some client := by rw [same, running]
      refine sound.closed current nofun ?_ (.inl rfl) ?_
      · intro x
        cases x with
        | httpClient id =>
          refine ⟨fun gone => (nomatch gone), ?_⟩
          rintro ⟨held, distinct⟩
          obtain rfl := Option.some.inj (current.symm.trans held)
          exact absurd rfl distinct
        | _ => exact ⟨fun held => ⟨held, nofun⟩, And.left⟩
      · change w.ctx.orchid.isSome = true → _
        rw [down]
        exact nofun
    · exact ⟨released idle, down, store, rfl⟩

/-! ## Setup -/

/-- Open a resource and let the context hold it: one cannot fail without the other. -/
theorem keeps_acquire {pre post : Assertion LifecycleWorld} {c : LifecycleCall}
    {change : c.Reply → AppContext → AppContext} (sound : ∀ w, pre w → SoundWorld lost w)
    (step : ∀ {w reply w'}, pre w → LifecycleServes w c (.ok reply) w' →
      post { w' with ctx := change reply w'.ctx }) :
    Keeps pre (Lifecycle.await c >>= fun reply => Lifecycle.assign (change reply)) (fun _ => post) lost := by
  have middle : Keeps pre (Lifecycle.await c)
      (fun reply w => ∃ v, pre v ∧ LifecycleServes v c (.ok reply) w) lost := by
    apply Contract.await
    · intro w reply final holds served
      exact ⟨w, holds, served⟩
    · intro w error final holds served
      exact served_error served ▸ sound w holds
  refine Contract.bind middle fun reply => keeps_assign ?_
  rintro w ⟨v, holds, served⟩
  exact step holds served

/-- What the context held when the setup started, and has not replaced yet. -/
structure Prepared (lost : Resource → Prop) (ctx₀ : AppContext) (w : LifecycleWorld) : Prop where
  sound : SoundWorld lost w
  orchid : w.ctx.orchid = ctx₀.orchid
  store : w.ctx.oauthStateStore = ctx₀.oauthStateStore
  events : w.ctx.events = ctx₀.events

/-- No events runtime writes to the storage of the new facade yet. -/
def Quiet (w : LifecycleWorld) : Prop :=
  ∀ orchid id, w.ctx.orchid = some orchid → ¬w.IsOpen (.events id (some orchid.id))

structure Opened (lost : Resource → Prop) (ctx₀ : AppContext) (w : LifecycleWorld) : Prop where
  sound : SoundWorld lost w
  quiet : Quiet w
  httpClient : w.ctx.httpClient.isSome
  orchid : w.ctx.orchid.isSome
  store : w.ctx.oauthStateStore = ctx₀.oauthStateStore
  events : w.ctx.events = ctx₀.events

structure Stored (lost : Resource → Prop) (ctx₀ : AppContext) (w : LifecycleWorld) : Prop where
  sound : SoundWorld lost w
  quiet : Quiet w
  httpClient : w.ctx.httpClient.isSome
  orchid : w.ctx.orchid.isSome
  store : w.ctx.oauthStateStore.isSome
  events : w.ctx.events = ctx₀.events

structure Serving (lost : Resource → Prop) (w : LifecycleWorld) : Prop where
  sound : SoundWorld lost w
  httpClient : w.ctx.httpClient.isSome
  orchid : w.ctx.orchid.isSome
  store : w.ctx.oauthStateStore.isSome
  events : w.ctx.events.isSome
  fed : ∀ events, w.ctx.events = some events → events.enabled = true →
    events.storage = w.ctx.orchid.map (·.id)

section Setup
variable {ctx₀ : AppContext}

theorem keeps_openHttpClient : Keeps (Prepared lost ctx₀) openHttpClient
    (fun _ w => Prepared lost ctx₀ w ∧ w.ctx.httpClient.isSome) lost := by
  refine Contract.bind keeps_appCtx fun ctx => ?_
  cases current : ctx.httpClient with
  | some client =>
    refine Contract.ret fun w ⟨prepared, same⟩ => ⟨prepared, ?_⟩
    rw [same, current]
    rfl
  | none =>
    refine keeps_acquire (fun _ holds => holds.1.sound) ?_
    rintro w reply w' ⟨prepared, same⟩ served
    have none : w.ctx.httpClient = none := by rw [same, current]
    cases served
    refine ⟨⟨?_, prepared.orchid, prepared.store, prepared.events⟩, rfl⟩
    refine prepared.sound.opened rfl nofun ?_ ?_ ?_ ?_
    · intro x holds
      cases x with
      | httpClient id => exact .inl (congrArg (fun client : HttpClient => Resource.httpClient client.id)
          (Option.some.inj holds).symm)
      | _ => exact .inr holds
    · rintro x (rfl | holds)
      · exact .inl rfl
      · cases x with
        | httpClient id => exact nomatch none.symm.trans holds
        | _ => exact .inl holds
    · intro orchid id running fed
      exact prepared.sound.feeding orchid id running (fed.resolve_left nofun)
    · intro running cls client resolver
      have live := prepared.sound.live running cls client resolver
      exact nomatch none.symm.trans live

theorem keeps_wireIdentityResolver (s : SetupSettings) :
    Keeps (fun w => Prepared lost ctx₀ w ∧ w.ctx.httpClient.isSome) (wireIdentityResolver s)
      (fun _ w => (Prepared lost ctx₀ w ∧ w.ctx.httpClient.isSome) ∧ w.ctx.ResolverLive) lost := by
  have assigned {w : LifecycleWorld} {resolver : Option IdentityResolver}
      (holds : Prepared lost ctx₀ w ∧ w.ctx.httpClient.isSome)
      (live : ∀ cls client, resolver = some (.custom cls (some client)) → w.ctx.httpClient = some client) :
      let ctx := { w.ctx with identityResolver := resolver }
      (Prepared lost ctx₀ { w with ctx } ∧ ctx.httpClient.isSome) ∧ ctx.ResolverLive := by
    refine ⟨⟨⟨holds.1.sound.rewired ?_ rfl fun _ => live, holds.1.orchid, holds.1.store, holds.1.events⟩,
      holds.2⟩, live⟩
    intro x
    cases x <;> exact Iff.rfl
  refine Contract.ite (fun _ => ?_) fun _ => Contract.ite (fun _ => ?_) fun _ => ?_
  · refine Contract.bind (keeps_idle trivial fun _ holds => holds.1.sound) fun cls => ?_
    refine Contract.bind keeps_appCtx fun ctx => ?_
    refine Contract.bind (keeps_idle trivial fun _ holds => holds.1.1.sound) fun _ => keeps_assign ?_
    rintro w ⟨holds, same⟩
    refine assigned holds fun other client resolver => ?_
    have given := (IdentityResolver.custom.inj (Option.some.inj resolver)).2
    split at given
    · exact same ▸ given
    · contradiction
  · exact keeps_assign fun w holds => assigned holds nofun
  · exact keeps_assign fun w holds => assigned holds nofun

/-- The stage before the facade is opened. -/
abbrev Wired (lost : Resource → Prop) (ctx₀ : AppContext) (w : LifecycleWorld) : Prop :=
  (Prepared lost ctx₀ w ∧ w.ctx.httpClient.isSome) ∧ w.ctx.ResolverLive

theorem wired_assign {w : LifecycleWorld} {provider exchange : Option LoadedClass}
    (wired : Wired lost ctx₀ w) : Wired lost ctx₀
      { w with ctx := { w.ctx with authConfigProvider := provider, authExchangeClient := exchange } } := by
  obtain ⟨⟨prepared, client⟩, live⟩ := wired
  refine ⟨⟨⟨prepared.sound.rewired ?_ rfl fun _ => live, prepared.orchid, prepared.store, prepared.events⟩,
    client⟩, live⟩
  intro x
  cases x <;> exact Iff.rfl

theorem keeps_wireAuthConfigProvider (s : SetupSettings) :
    Keeps (Wired lost ctx₀) (wireAuthConfigProvider s) (fun _ => Wired lost ctx₀) lost := by
  refine Contract.ite (fun _ => ?_) fun _ => keeps_assign fun w wired => wired_assign wired
  refine Contract.bind (keeps_idle trivial fun _ holds => holds.1.1.sound) fun cls => ?_
  refine Contract.bind (keeps_idle trivial fun _ holds => holds.1.1.sound) fun _ => ?_
  exact keeps_assign fun w wired => wired_assign wired

theorem keeps_wireAuthExchangeClient (s : SetupSettings) :
    Keeps (Wired lost ctx₀) (wireAuthExchangeClient s) (fun _ => Wired lost ctx₀) lost := by
  refine Contract.ite (fun _ => ?_) fun _ => keeps_assign fun w wired => wired_assign wired
  refine Contract.bind (keeps_idle trivial fun _ holds => holds.1.1.sound) fun cls => ?_
  refine Contract.bind (keeps_idle trivial fun _ holds => holds.1.1.sound) fun _ => ?_
  exact keeps_assign fun w wired => wired_assign wired

section Replacing
variable (old : ∀ r, ctx₀.Holds r → (∀ id, r ≠ .httpClient id) → lost r)
include old

theorem keeps_openOrchid : Keeps (Wired lost ctx₀) openOrchid (fun _ => Opened lost ctx₀) lost := by
  refine keeps_acquire (fun _ holds => holds.1.1.sound) ?_
  rintro w reply w' ⟨⟨prepared, client⟩, live⟩ served
  cases served with
  | fromConfigPath orchid fresh =>
    -- nothing known so far is based on the new facade
    have unfed (id : Nat) : ¬w.IsOpen (.events id (some reply.id)) := fun isOpen => by
      have based := prepared.sound.based id _ isOpen.1
      omega
    refine ⟨?_, ?_, client, rfl, prepared.store, prepared.events⟩
    · refine prepared.sound.opened fresh nofun ?_ ?_ ?_ fun _ => live
      · intro x holds
        cases x with
        | orchid id =>
          obtain ⟨other, same, rfl⟩ := holds
          exact .inl (congrArg (fun orchid : Orchid => Resource.orchid orchid.id) (Option.some.inj same).symm)
        | _ => exact .inr holds
      · rintro x (rfl | holds)
        · exact .inl ⟨reply, rfl, rfl⟩
        · cases x with
          | orchid id =>
            obtain ⟨other, same, rfl⟩ := holds
            exact .inr (old _ ⟨other, prepared.orchid ▸ same, rfl⟩ nofun)
          | _ => exact .inl holds
      · intro orchid id same fed
        obtain rfl := Option.some.inj same
        exact absurd (fed.resolve_left nofun) (unfed id)
    · intro orchid id same isOpen
      obtain rfl := Option.some.inj same
      exact unfed id (isOpen_before isOpen nofun)

theorem keeps_openOauthStateStore :
    Keeps (Opened lost ctx₀) openOauthStateStore (fun _ => Stored lost ctx₀) lost := by
  refine keeps_acquire (fun _ holds => holds.sound) ?_
  rintro w reply w' opened served
  cases served
  refine ⟨?_, ?_, opened.httpClient, opened.orchid, rfl, opened.events⟩
  · refine opened.sound.opened rfl nofun ?_ ?_ ?_ opened.sound.live
    · intro x holds
      cases x with
      | oauthStateStore id => exact .inl (congrArg
          (fun store : OAuthStateStore => Resource.oauthStateStore store.id) (Option.some.inj holds).symm)
      | _ => exact .inr holds
    · rintro x (rfl | holds)
      · exact .inl rfl
      · cases x with
        | oauthStateStore id =>
          have before : ctx₀.Holds (.oauthStateStore id) := opened.store.symm.trans holds
          exact .inr (old _ before nofun)
        | _ => exact .inl holds
    · intro orchid id running fed
      exact opened.sound.feeding orchid id running (fed.resolve_left nofun)
  · intro orchid id running isOpen
    exact opened.quiet orchid id running (isOpen_before isOpen nofun)

omit old in
theorem keeps_warmStartup : Keeps (Stored lost ctx₀) warmStartup (fun _ => Stored lost ctx₀) lost := by
  refine keeps_onlyLogged (Contract.bind keeps_appCtx fun ctx => ?_) fun _ stored => stored.sound
  cases ctx.orchid with
  | none => exact Contract.raise fun _ holds => holds.1
  | some orchid =>
    have warms : Contract LifecycleServes (Stored lost ctx₀)
        (Lifecycle.warmUnauthenticatedCapabilities orchid) (fun _ => Stored lost ctx₀)
        fun _ => Stored lost ctx₀ := idle_unchanged trivial
    exact warms.conseq (fun _ holds => holds.1) (fun _ _ holds => holds) fun _ _ holds => holds

/-- Whatever runtime was started, it takes the place of the one in the context. -/
theorem serving_started {w w' : LifecycleWorld} {events : EventsRuntime} {config resolver}
    (stored : Stored lost ctx₀ w) (served : LifecycleServes w
      (.startEvents config (w.ctx.orchid.map (·.id)) resolver) (.ok events) w') :
    Serving lost { w' with ctx := { w'.ctx with events := some events } } := by
  have replaced {x : Resource} {ctx' : AppContext} (holds : w.ctx.Holds x)
      (same : ctx' = { w.ctx with events := some events }) : ctx'.Holds x ∨ lost x := by
    subst same
    cases x with
    | events id storage =>
      obtain ⟨other, current, rest⟩ := holds
      exact .inr (old _ ⟨other, stored.events ▸ current, rest⟩ nofun)
    | _ => exact .inl holds
  cases served with
  | startEvents _ _ _ _ fresh onto enabled =>
    refine ⟨?_, stored.httpClient, stored.orchid, stored.store, rfl, fun _ same _ =>
      Option.some.inj same ▸ onto⟩
    refine stored.sound.opened fresh ?_ ?_ ?_ ?_ stored.sound.live
    · intro id n same
      obtain ⟨_, based⟩ := Resource.events.inj same
      obtain ⟨orchid, current, rfl⟩ := Option.map_eq_some_iff.mp (onto.symm.trans based)
      exact stored.sound.held _ ⟨orchid, current, rfl⟩
    · intro x holds
      cases x with
      | events id storage =>
        obtain ⟨other, same, _, rfl, rfl⟩ := holds
        obtain rfl := Option.some.inj same
        exact .inl rfl
      | _ => exact .inr holds
    · rintro x (rfl | holds)
      · exact .inl ⟨events, rfl, enabled, rfl, rfl⟩
      · exact replaced holds rfl
    · intro orchid id current fed
      rcases fed with same | isOpen
      · obtain ⟨rfl, based⟩ := Resource.events.inj same
        exact ⟨events, rfl, enabled, rfl, based.symm⟩
      · exact absurd isOpen (stored.quiet orchid id current)
  | noEvents _ _ _ _ disabled =>
    have sound := stored.sound
    refine ⟨⟨sound.fresh, sound.based, sound.orderly, ?_, ?_, ?_, sound.live⟩, stored.httpClient,
      stored.orchid, stored.store, rfl, ?_⟩
    · intro x holds
      cases x with
      | events id storage =>
        obtain ⟨other, same, enabled, _⟩ := holds
        obtain rfl := Option.some.inj same
        rw [disabled] at enabled
        contradiction
      | _ => exact sound.held _ holds
    · intro x isOpen
      rcases sound.accounted x isOpen with holds | gone
      · exact replaced holds rfl
      · exact .inr gone
    · intro orchid id current isOpen
      exact absurd isOpen (stored.quiet orchid id current)
    · rintro other same enabled
      rw [← Option.some.inj same, disabled] at enabled
      contradiction

theorem keeps_startEvents {ctx : AppContext} {config resolver} :
    Keeps (fun w => Stored lost ctx₀ w ∧ w.ctx = ctx)
      (Lifecycle.startEvents config (ctx.orchid.map (·.id)) resolver)
      (fun events w => Serving lost { w with ctx := { w.ctx with events := some events } }) lost := by
  apply Contract.await
  · rintro w events final ⟨stored, rfl⟩ served
    exact serving_started old stored served
  · intro w error final holds served
    exact served_error served ▸ holds.1.sound

end Replacing

theorem serving_produced {w : LifecycleWorld} (serving : Serving lost w) : Serving lost
    { w with ctx := { w.ctx with
      events := w.ctx.events.map fun events => { events with hasHttpProducer := true } } } := by
  refine ⟨serving.sound.rewired ?_ rfl serving.sound.live, serving.httpClient, serving.orchid,
    serving.store, Option.isSome_map.trans serving.events, ?_⟩
  · intro x
    cases x with
    | events id storage =>
      constructor
      · rintro ⟨produced, same, rest⟩
        obtain ⟨events, current, rfl⟩ := Option.map_eq_some_iff.mp same
        exact ⟨events, current, rest⟩
      · rintro ⟨events, current, rest⟩
        exact ⟨_, Option.map_eq_some_iff.mpr ⟨events, current, rfl⟩, rest⟩
    | _ => exact Iff.rfl
  · intro produced same enabled
    obtain ⟨events, current, rfl⟩ := Option.map_eq_some_iff.mp same
    exact serving.fed events current enabled

theorem keeps_mountHttpProducer (config : Option EventsConfig) :
    Keeps (Serving lost) (mountHttpProducer config) (fun _ => Serving lost) lost := by
  cases config with
  | none => exact Contract.ret fun _ serving => serving
  | some config =>
    refine Contract.ite (fun _ => Contract.ret fun _ serving => serving) fun _ => ?_
    refine Contract.bind keeps_appCtx fun ctx => ?_
    refine Contract.bind (keeps_idle trivial fun _ holds => holds.1.sound) fun _ => ?_
    exact keeps_assign fun w holds => serving_produced holds.1

theorem keeps_injectEmitter : Keeps (Serving lost) injectEmitter (fun _ => Serving lost) lost := by
  refine Contract.bind keeps_appCtx fun ctx => ?_
  have idle (orchid : Orchid) : Keeps (fun w => Serving lost w ∧ w.ctx = ctx)
      (Lifecycle.injectSignalEmitter orchid) (fun _ w => Serving lost w ∧ w.ctx = ctx) lost :=
    keeps_idle trivial fun _ holds => holds.1.sound
  have drops (p : LifecycleHandler Unit)
      (keeps : Keeps (fun w => Serving lost w ∧ w.ctx = ctx) p
        (fun _ w => Serving lost w ∧ w.ctx = ctx) lost) :
      Keeps (fun w => Serving lost w ∧ w.ctx = ctx) p (fun _ => Serving lost) lost :=
    keeps.conseq (fun _ holds => holds) (fun _ _ holds => holds.1) fun _ _ sound => sound
  apply drops
  split
  · exact Contract.ite (fun _ => idle _) fun _ => Contract.ret fun _ holds => holds
  · exact Contract.ret fun _ holds => holds

theorem keeps_bootEvents (old : ∀ r, ctx₀.Holds r → (∀ id, r ≠ .httpClient id) → lost r) :
    Keeps (Stored lost ctx₀) bootEvents (fun _ => Serving lost) lost := by
  refine Contract.bind keeps_appCtx fun ctx => ?_
  refine Contract.bind (keeps_startEvents old) fun events => ?_
  refine Contract.bind (keeps_assign fun _ serving => serving) fun _ => ?_
  refine Contract.ite (fun _ => ?_) fun _ => Contract.ret fun _ serving => serving
  exact Contract.bind (keeps_mountHttpProducer _) fun _ => keeps_injectEmitter

theorem keeps_cleanupTokens : Keeps (Serving lost) cleanupTokens (fun _ => Serving lost) lost := by
  refine Contract.bind keeps_appCtx fun ctx => ?_
  cases ctx.orchid with
  | none => exact Contract.raise fun _ holds => holds.1.sound
  | some orchid =>
    refine Contract.ite (fun _ => ?_) fun _ => Contract.ret fun _ holds => holds.1
    have idle : Contract LifecycleServes (Serving lost) (Lifecycle.await (.cleanupExpired orchid))
        (fun _ => Serving lost) fun _ => Serving lost := idle_unchanged trivial
    have cleans := keeps_onlyLogged idle fun _ serving => serving.sound
    exact cleans.conseq (fun _ holds => holds.1) (fun _ _ holds => holds) fun _ _ sound => sound

theorem keeps_setup (old : ∀ r, ctx₀.Holds r → (∀ id, r ≠ .httpClient id) → lost r)
    (s : SetupSettings) : Keeps (fun w => SoundWorld lost w ∧ w.ctx = ctx₀) (setupOrchid s)
      (fun _ => Serving lost) lost := by
  refine Contract.bind (keeps_idle trivial fun _ holds => holds.1) fun _ => ?_
  have prepared : Keeps (fun w => SoundWorld lost w ∧ w.ctx = ctx₀) openHttpClient
      (fun _ w => Prepared lost ctx₀ w ∧ w.ctx.httpClient.isSome) lost := by
    refine keeps_openHttpClient.conseq ?_ (fun _ _ holds => holds) fun _ _ sound => sound
    rintro w ⟨sound, rfl⟩
    exact ⟨sound, rfl, rfl, rfl⟩
  exact Contract.bind prepared fun _ => Contract.bind (keeps_wireIdentityResolver s) fun _ =>
    Contract.bind (keeps_wireAuthConfigProvider s) fun _ =>
    Contract.bind (keeps_wireAuthExchangeClient s) fun _ => Contract.bind (keeps_openOrchid old) fun _ =>
    Contract.bind (keeps_openOauthStateStore old) fun _ => Contract.bind keeps_warmStartup fun _ =>
    Contract.bind (keeps_bootEvents old) fun _ => keeps_cleanupTokens

end Setup
end Contracts

end OrchidApi
