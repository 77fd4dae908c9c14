import Mathlib.Data.Set.Basic
import OrchidApi.LimiterRefinement

/-! Requests of many identities through one `rate_limit` dependency. The bucket key joins
the tenant and the user with colons, so two identities may share a bucket. -/
namespace OrchidApi
open Text TokenBucket

/-! ## Bucket keys -/

/-- The first identity is the second one with part of the user moved over to the tenant. -/
def Shifted (moved identity : Str × Str) : Prop :=
  ∃ part, moved.1 = identity.1 ++ ":".toList ++ part ∧ identity.2 = part ++ ":".toList ++ moved.2

theorem shifted_ne {moved identity : Str × Str} (shifted : Shifted moved identity) :
    moved ≠ identity := by
  rintro rfl
  obtain ⟨part, tenant, _⟩ := shifted
  have longer := congrArg List.length tenant
  simp at longer

/-- Only a shift makes two identities share a key. -/
theorem bucketKey_eq_iff (name : Str) (a b : AuthContext) :
    bucketKey name a = bucketKey name b ↔
      a.identity = b.identity ∨ Shifted a.identity b.identity ∨ Shifted b.identity a.identity := by
  obtain ⟨tenant, user, roles⟩ := a
  obtain ⟨tenant', user', roles'⟩ := b
  have joined : bucketKey name ⟨tenant, user, roles⟩ = bucketKey name ⟨tenant', user', roles'⟩ ↔
      tenant ++ ':' :: user = tenant' ++ ':' :: user' := by
    simp [bucketKey]
  rw [joined, List.append_eq_append_iff]
  simp only [AuthContext.identity, Shifted, Prod.mk.injEq]
  constructor
  · rintro (⟨part, rfl, same⟩ | ⟨part, rfl, same⟩)
    · cases part with
      | nil => simp_all
      | cons colon part =>
        obtain ⟨rfl, rfl⟩ := List.cons.inj same
        exact .inr (.inr ⟨part, by simp⟩)
    · cases part with
      | nil => simp_all
      | cons colon part =>
        obtain ⟨rfl, rfl⟩ := List.cons.inj same
        exact .inr (.inl ⟨part, by simp⟩)
  · rintro (⟨rfl, rfl⟩ | ⟨part, rfl, rfl⟩ | ⟨part, rfl, rfl⟩)
    · exact .inl ⟨[], by simp⟩
    · exact .inr ⟨':' :: part, by simp⟩
    · exact .inl ⟨':' :: part, by simp⟩

/-! ## Runs -/

structure LimitedCall where
  auth : AuthContext
  time : ℚ
  deriving DecidableEq

def LimitedCall.identity (q : LimitedCall) : Str × Str := q.auth.identity

def LimitedCall.acquire (name : Str) (q : LimitedCall) : Acquire := ⟨bucketKey name q.auth, q.time⟩

namespace RateLimit

/-- Each request in turn, with what the dependency returns or raises. -/
def enforceNext (limit : RateLimit) (q : LimitedCall) :
    RateLimit × List (LimitedCall × Except TooManyRequests AuthContext) :=
  ((limit.enforce q.auth q.time).2, [(q, (limit.enforce q.auth q.time).1)])

/-- What the requests of one identity get. -/
def responses (limit : RateLimit) (identity : Str × Str) (run : List LimitedCall) :
    List (Except TooManyRequests AuthContext) :=
  ((Transducer.run enforceNext limit run).2.filter (·.1.identity = identity)).map Prod.snd

/-- Whatever requests these identities make, fewer of them than the buckets, each gets the
responses that it would get alone. -/
def Isolates (limit : RateLimit) (identities : Set (Str × Str)) : Prop :=
  ∀ run : List LimitedCall, run.Pairwise (·.time ≤ ·.time) →
    (∀ q ∈ run, q.identity ∈ identities) → (run.map LimitedCall.identity).toFinset.card < 10000 →
    ∀ identity ∈ identities, limit.responses identity run =
      limit.responses identity (run.filter (·.identity = identity))

/-- The response to an answer of the bucket. -/
def respond (limit : RateLimit) (auth : AuthContext) (answer : Bool × ℚ) :
    Except TooManyRequests AuthContext :=
  if answer.1 then .ok auth else .error (tooManyRequests limit answer.2)

section Responses
variable {limit : RateLimit} {l : TokenBucketLimiter} {identity : Str × Str}

theorem enforce_bucket (bucket : limit.bucket = some l) (auth : AuthContext) (now : ℚ) :
    limit.enforce auth now = (limit.respond auth (l.acquire (bucketKey limit.name auth) now).1,
      { limit with bucket := some (l.acquire (bucketKey limit.name auth) now).2 }) := by
  simp only [enforce, bucket, respond]

theorem responses_cons (limit : RateLimit) (q : LimitedCall) (later : List LimitedCall) :
    limit.responses identity (q :: later) =
      if q.identity = identity then
        (limit.enforce q.auth q.time).1 :: (limit.enforce q.auth q.time).2.responses identity later
      else (limit.enforce q.auth q.time).2.responses identity later := by
  simp only [responses, Transducer.run, enforceNext, List.singleton_append, List.filter_cons,
    decide_eq_true_eq]
  split <;> rfl

theorem responses_noop (disabled : limit.bucket = none) (run : List LimitedCall) :
    limit.responses identity run =
      (run.filter (·.identity = identity)).map fun q => .ok q.auth := by
  induction run with
  | nil => rfl
  | cons q rest ih =>
    have same : limit.enforce q.auth q.time = (.ok q.auth, limit) := by rw [enforce, disabled]
    rw [responses_cons, same, ih, List.filter_cons]
    by_cases own : q.identity = identity <;> simp [own]

/-- An identity with a key of its own gets the answers given to the key. -/
theorem responses_bucket (bucket : limit.bucket = some l) {key : Str} {run : List LimitedCall}
    (own : ∀ q ∈ run, q.identity = identity ↔ bucketKey limit.name q.auth = key) :
    limit.responses identity run =
      List.zipWith limit.respond ((run.filter (·.identity = identity)).map LimitedCall.auth)
        (l.answersTo key (run.map (·.acquire limit.name))) := by
  induction run generalizing limit l with
  | nil => rfl
  | cons q rest ih =>
    have later : RateLimit.responses { limit with
          bucket := some (l.acquire (bucketKey limit.name q.auth) q.time).2 } identity rest =
        List.zipWith limit.respond ((rest.filter (·.identity = identity)).map LimitedCall.auth)
          ((l.acquire (bucketKey limit.name q.auth) q.time).2.answersTo key
            (rest.map (·.acquire limit.name))) :=
      ih rfl fun other member => own other (.tail _ member)
    rw [responses_cons, enforce_bucket bucket, List.map_cons, TokenBucketLimiter.answersTo_cons]
    by_cases mine : q.identity = identity
    · have same : (q.acquire limit.name).key = key := (own q (.head _)).mp mine
      rw [if_pos mine, if_pos same, List.filter_cons_of_pos (by simpa using mine), later]
      rfl
    · have other : (q.acquire limit.name).key ≠ key := fun same => mine ((own q (.head _)).mpr same)
      rw [if_neg mine, if_neg other, List.filter_cons_of_neg (by simpa using mine), later]
      rfl

end Responses

/-! ## Isolation -/

section Isolation
variable {limit : RateLimit} {l : TokenBucketLimiter} {identities : Set (Str × Str)}

/-- A run of few identities is answered bucket by bucket. -/
theorem answersTo_private (empty : l.buckets = []) (most : l.maxBuckets = 10000) (name key : Str)
    {run : List LimitedCall} (ordered : run.Pairwise (·.time ≤ ·.time))
    (few : (run.map LimitedCall.identity).toFinset.card < 10000) :
    l.answersTo key (run.map (·.acquire name)) = answers l.capacity l.refill []
      (((run.map (·.acquire name)).filter (·.key = key)).map Acquire.time) := by
  have keys : ((run.map (·.acquire name)).map Acquire.key).toFinset =
      (run.map LimitedCall.identity).toFinset.image fun identity : Str × Str =>
        bucketKey name { tenantKey := identity.1, userId := identity.2 } := by
    ext key
    simp [LimitedCall.acquire, LimitedCall.identity, AuthContext.identity, bucketKey]
  have close : Lru.Close l.maxBuckets key ((run.map (·.acquire name)).map Acquire.key) := by
    apply Lru.close_of_few
    rw [keys, most]
    exact Finset.card_image_le.trans few.le
  obtain ⟨clock, future⟩ := TokenBucketLimiter.exists_before (run.map (·.acquire name))
  have room : 0 < l.maxBuckets := by
    rw [most]
    norm_num
  exact TokenBucketLimiter.answersTo_follows
    (TokenBucketLimiter.follows_fresh empty room key clock) close.owed
    (List.pairwise_map.mpr ordered) future

/-- An identity with a key of its own is answered by a bucket of its own. -/
theorem responses_private (bucket : limit.bucket = some l) (empty : l.buckets = [])
    (most : l.maxBuckets = 10000) {identity : Str × Str} {key : Str} {run : List LimitedCall}
    (own : ∀ q ∈ run, q.identity = identity ↔ bucketKey limit.name q.auth = key)
    (ordered : run.Pairwise (·.time ≤ ·.time))
    (few : (run.map LimitedCall.identity).toFinset.card < 10000) :
    limit.responses identity run =
      List.zipWith limit.respond ((run.filter (·.identity = identity)).map LimitedCall.auth)
        (answers l.capacity l.refill [] ((run.filter (·.identity = identity)).map LimitedCall.time)) := by
  rw [responses_bucket bucket own, answersTo_private empty most _ _ ordered few, List.filter_map,
    List.map_map]
  congr 3
  refine List.filter_congr fun q inside => ?_
  simpa [LimitedCall.acquire] using (own q inside).symm

/-- Where no two of the identities share a key, each is answered as if it were alone. -/
theorem isolates_of_unshifted (bucket : limit.bucket = some l) (empty : l.buckets = [])
    (most : l.maxBuckets = 10000)
    (unshifted : ∀ a ∈ identities, ∀ b ∈ identities, ¬Shifted a b) : limit.Isolates identities := by
  intro run ordered among few identity member
  have own : ∀ q ∈ run, q.identity = identity ↔ bucketKey limit.name q.auth =
      bucketKey limit.name { tenantKey := identity.1, userId := identity.2 } := by
    intro q inside
    rw [bucketKey_eq_iff]
    constructor
    · exact .inl
    · rintro (same | moved | moved)
      · exact same
      · exact absurd moved (unshifted _ (among q inside) _ member)
      · exact absurd moved (unshifted _ member _ (among q inside))
  have fewer : ((run.filter (·.identity = identity)).map LimitedCall.identity).toFinset.card < 10000 := by
    refine (Finset.card_le_card fun k inside => ?_).trans_lt few
    exact List.mem_toFinset.mpr ((List.filter_sublist.map _).subset (List.mem_toFinset.mp inside))
  rw [responses_private bucket empty most own ordered few,
    responses_private bucket empty most (fun q inside => own q (List.mem_of_mem_filter inside))
      (ordered.filter _) fewer]
  simp only [List.filter_filter, Bool.and_self]

/-! ## A shared bucket -/

/-- Acquires at one moment take a token each. -/
theorem available_drained (empty : l.buckets = []) (key : Str) {n : Nat} (enough : n ≤ l.capacity) :
    (l.after (List.replicate n ⟨key, 0⟩)).available key 0 = l.capacity - n := by
  induction n with
  | zero =>
    have fresh : l.after (List.replicate 0 ⟨key, 0⟩) = l := rfl
    rw [fresh, TokenBucketLimiter.available, empty, Nat.cast_zero, sub_zero]
    rfl
  | succ n ih =>
    push_cast at enough ⊢
    have before := ih (by linarith)
    have token : (1 : ℚ) ≤ l.capacity - n := by linarith
    have last : l.after (List.replicate (n + 1) ⟨key, 0⟩) =
        ((l.after (List.replicate n ⟨key, 0⟩)).acquire key 0).2 := by
      rw [List.replicate_succ', TokenBucketLimiter.after, Transducer.run_concat]
      rfl
    rw [last, TokenBucketLimiter.available_acquire, before, if_pos token]
    ring

/-- After a run the dependency has the bucket that its acquires have left. -/
theorem enforceNext_after (bucket : limit.bucket = some l) (run : List LimitedCall) :
    (Transducer.run enforceNext limit run).1 =
      { limit with bucket := some (l.after (run.map (·.acquire limit.name))) } := by
  induction run generalizing limit l with
  | nil =>
    obtain ⟨name, calls, period, _⟩ := limit
    obtain rfl : _ = some l := bucket
    rfl
  | cons q rest ih =>
    have next : (enforceNext limit q).1 = { limit with
        bucket := some (l.acquire (bucketKey limit.name q.auth) q.time).2 } := by
      rw [enforceNext, enforce_bucket bucket]
    rw [Transducer.run, next, ih rfl]
    rfl

/-- The last request is answered from the bucket that the requests of others have left. -/
theorem responses_last (limit : RateLimit) {identity : Str × Str} {front : List LimitedCall}
    (absent : ∀ q ∈ front, q.identity ≠ identity) {last : LimitedCall} (own : last.identity = identity) :
    limit.responses identity (front ++ [last]) =
      [((Transducer.run enforceNext limit front).1.enforce last.auth last.time).1] := by
  induction front generalizing limit with
  | nil =>
    rw [List.nil_append, responses_cons, if_pos own]
    rfl
  | cons q rest ih =>
    rw [List.cons_append, responses_cons, if_neg (absent q (.head _)),
      ih _ fun other member => absent other (.tail _ member)]
    rfl

end Isolation

def callAtZero (identity : Str × Str) : LimitedCall :=
  ⟨{ tenantKey := identity.1, userId := identity.2 }, 0⟩

/-- At one moment one identity uses up its calls, and then another one makes its first. -/
def crowd (calls : Nat) (moved identity : Str × Str) : List LimitedCall :=
  List.replicate calls (callAtZero moved) ++ [callAtZero identity]

section Crowd
variable {limit : RateLimit} {l : TokenBucketLimiter} {identities : Set (Str × Str)} {calls : Nat}
  {moved identity : Str × Str}

theorem mem_crowd {q : LimitedCall} (member : q ∈ crowd calls moved identity) :
    q = callAtZero moved ∨ q = callAtZero identity := by
  rcases List.mem_append.mp member with early | late
  · exact .inl (List.eq_of_mem_replicate early)
  · exact .inr (List.mem_singleton.mp late)

theorem crowd_ordered : (crowd calls moved identity).Pairwise (·.time ≤ ·.time) := by
  refine List.pairwise_of_forall_mem_list fun a first b second => ?_
  obtain rfl | rfl := mem_crowd first <;> obtain rfl | rfl := mem_crowd second <;> exact le_rfl

theorem crowd_few :
    ((crowd calls moved identity).map LimitedCall.identity).toFinset.card < 10000 := by
  have inside : ((crowd calls moved identity).map LimitedCall.identity).toFinset ⊆
      {moved, identity} := by
    intro k member
    obtain ⟨q, visited, rfl⟩ := List.mem_map.mp (List.mem_toFinset.mp member)
    obtain rfl | rfl := mem_crowd visited
    · exact Finset.mem_insert_self _ _
    · exact Finset.mem_insert_of_mem (Finset.mem_singleton_self _)
  exact ((Finset.card_le_card inside).trans Finset.card_le_two).trans_lt (by norm_num)

theorem crowd_alone (shifted : Shifted moved identity) :
    (crowd calls moved identity).filter (·.identity = identity) = [callAtZero identity] := by
  have foreign : (callAtZero moved).identity ≠ identity := shifted_ne shifted
  have own : (callAtZero identity).identity = identity := rfl
  rw [crowd, List.filter_append, List.filter_replicate_of_neg (by simpa using foreign),
    List.filter_cons_of_pos (by simpa using own)]
  rfl

theorem responses_crowd (bucket : limit.bucket = some l) (empty : l.buckets = [])
    (capacity : l.capacity = calls) (shifted : Shifted moved identity) :
    limit.responses identity (crowd calls moved identity) =
      [.error (tooManyRequests limit (1 / l.refill))] := by
  have foreign : ∀ q ∈ List.replicate calls (callAtZero moved), q.identity ≠ identity :=
    fun q inside => (List.eq_of_mem_replicate inside).symm ▸ shifted_ne shifted
  have key : (callAtZero moved).acquire limit.name = (callAtZero identity).acquire limit.name := by
    have same := (bucketKey_eq_iff limit.name (callAtZero moved).auth (callAtZero identity).auth).mpr
      (.inr (.inl shifted))
    rw [LimitedCall.acquire, LimitedCall.acquire, same]
    rfl
  have drained : (l.after (List.replicate calls ((callAtZero identity).acquire limit.name))).available
      ((callAtZero identity).acquire limit.name).key 0 = l.capacity - calls :=
    available_drained empty ((callAtZero identity).acquire limit.name).key capacity.ge
  obtain ⟨_, refill, _⟩ :=
    l.after_rates (List.replicate calls ((callAtZero identity).acquire limit.name))
  rw [capacity, sub_self] at drained
  rw [crowd, responses_last limit foreign rfl, enforceNext_after bucket, List.map_replicate, key,
    enforce_bucket rfl]
  obtain ⟨token, _⟩ | ⟨_, acquired⟩ :=
    (l.after (List.replicate calls ((callAtZero identity).acquire limit.name))).acquire_cases
      ((callAtZero identity).acquire limit.name).key 0
  · exact absurd (drained ▸ token : (1 : ℚ) ≤ 0) (by norm_num)
  · rw [drained, sub_zero, refill] at acquired
    change [limit.respond _ ((l.after _).acquire ((callAtZero identity).acquire limit.name).key 0).1] = _
    rw [acquired]
    rfl

theorem responses_alone (bucket : limit.bucket = some l) (empty : l.buckets = [])
    (capacity : l.capacity = calls) (positive : 0 < calls) :
    limit.responses identity [callAtZero identity] = [.ok (callAtZero identity).auth] := by
  have full : 1 ≤ l.available (bucketKey limit.name (callAtZero identity).auth) 0 := by
    rw [TokenBucketLimiter.available, empty]
    exact capacity ▸ Nat.one_le_cast.mpr positive
  have own : (callAtZero identity).identity = identity := rfl
  rw [responses_cons, if_pos own, enforce_bucket bucket]
  obtain ⟨_, acquired⟩ | ⟨token, _⟩ :=
    l.acquire_cases (bucketKey limit.name (callAtZero identity).auth) 0
  · rw [show (callAtZero identity).time = 0 from rfl, acquired]
    rfl
  · exact absurd full token

/-- Two identities that share a key share its tokens: the one takes them all, and the other
is turned away that would be admitted alone. -/
theorem not_isolates_of_shifted (bucket : limit.bucket = some l) (empty : l.buckets = [])
    (capacity : l.capacity = calls) (positive : 0 < calls) (among : moved ∈ identities)
    (member : identity ∈ identities) (shifted : Shifted moved identity) :
    ¬limit.Isolates identities := by
  intro isolates
  have inside : ∀ q ∈ crowd calls moved identity, q.identity ∈ identities := by
    intro q inside
    obtain rfl | rfl := mem_crowd inside
    · exact among
    · exact member
  have same := isolates _ crowd_ordered inside crowd_few identity member
  rw [crowd_alone shifted, responses_crowd bucket empty capacity shifted,
    responses_alone bucket empty capacity positive] at same
  cases same

end Crowd
end RateLimit

/-- A limit isolates a set of identities exactly when it is disabled or no two of them differ
by where the colon between tenant and user stands. -/
theorem isolates_iff {name : Str} {calls : Int} {period : ℚ} {limit : RateLimit}
    (built : rateLimit name calls period = .ok limit) (identities : Set (Str × Str)) :
    limit.Isolates identities ↔
      calls ≤ 0 ∨ ∀ a ∈ identities, ∀ b ∈ identities, ¬Shifted a b := by
  by_cases disabled : calls ≤ 0
  · have noop := rateLimit_noop disabled built
    refine ⟨fun _ => .inl disabled, fun _ run _ _ _ identity _ => ?_⟩
    rw [RateLimit.responses_noop noop, RateLimit.responses_noop noop, List.filter_filter]
    simp only [Bool.and_self]
  · have positive : 0 < calls := not_le.mp disabled
    obtain ⟨_, l, bucket, capacity, _, most, empty⟩ := rateLimit_fresh positive built
    obtain ⟨n, rfl⟩ := Int.eq_ofNat_of_zero_le positive.le
    constructor
    · intro isolates
      refine .inr fun a among b member shifted => ?_
      exact RateLimit.not_isolates_of_shifted bucket empty (by simpa using capacity)
        (by simpa using positive) among member shifted isolates
    · rintro (noop | unshifted)
      · exact absurd noop disabled
      · exact RateLimit.isolates_of_unshifted bucket empty most unshifted

def oneCallLimit : RateLimit := ⟨messagesLimit, 1, 60, some oneCall⟩

theorem oneCallLimit_built : rateLimit messagesLimit 1 60 = .ok oneCallLimit := by
  simp [rateLimit, TokenBucketLimiter.init, oneCallLimit, oneCall, Except.map]

/-- Two tenants with a user of the same name. -/
def namesakes : Set (Str × Str) := {("a".toList, "u".toList), ("b".toList, "u".toList)}

theorem isolates_iff_namesakes :
    oneCallLimit.Isolates namesakes ↔
      (1 : Int) ≤ 0 ∨ ∀ a ∈ namesakes, ∀ b ∈ namesakes, ¬Shifted a b :=
  isolates_iff oneCallLimit_built namesakes

def colonInTenant : Str × Str := ("a:b".toList, "c".toList)
def colonInUser : Str × Str := ("a".toList, "b:c".toList)

theorem colon_shifted : Shifted colonInTenant colonInUser := ⟨"b".toList, rfl, rfl⟩

/-- The second identity's first request is turned away because of the first identity's. -/
theorem shared_bucket :
    rateLimit messagesLimit 1 60 = .ok oneCallLimit ∧ colonInTenant ≠ colonInUser ∧
      oneCallLimit.responses colonInUser (RateLimit.crowd 1 colonInTenant colonInUser) =
        [.error ⟨"Rate limit exceeded for `messages` (1/60s per user). Retry in ~61s.".toList, 61⟩] ∧
      oneCallLimit.responses colonInUser [RateLimit.callAtZero colonInUser] =
        [.ok { tenantKey := "a".toList, userId := "b:c".toList }] ∧
      ¬oneCallLimit.Isolates Set.univ := by
  refine ⟨oneCallLimit_built, shifted_ne colon_shifted, ?_, ?_, ?_⟩
  · rw [RateLimit.responses_crowd rfl rfl (by simp [oneCall]) colon_shifted]
    decide +kernel
  · exact RateLimit.responses_alone rfl rfl Nat.cast_one.symm one_pos
  · exact RateLimit.not_isolates_of_shifted rfl rfl Nat.cast_one.symm one_pos (Set.mem_univ _)
      (Set.mem_univ _) colon_shifted

end OrchidApi
