import OrchidApi.LimiterInvariant
import OrchidApi.LimitIsolation

/-! The seconds that a limiter tells a rejected key to wait: until then every acquire of the key
is rejected, and from then on the next one is allowed. The dependency rounds them up to its
`Retry-After`, which suffices as long as no other identity has the same key. -/
namespace OrchidApi
open Text

namespace TokenBucketLimiter

/-- The key's bucket has a whole token from the deadline on, and not before. -/
def Owes (l : TokenBucketLimiter) (key : Str) (deadline : ℚ) : Prop :=
  ∃ state, l.buckets.lookup key = some state ∧ state.lastRefill < deadline ∧
    state.tokens = 1 - (deadline - state.lastRefill) * l.refill

section Step
variable {l : TokenBucketLimiter} {key other : Str} {deadline now wait : ℚ}

theorem Owes.available (owes : l.Owes key deadline) (now : ℚ) :
    l.available key now = min l.capacity (1 - (deadline - now) * l.refill) := by
  obtain ⟨state, found, _, tokens⟩ := owes
  have parts : (deadline - now) * l.refill =
      (deadline - state.lastRefill) * l.refill - (now - state.lastRefill) * l.refill := by ring
  rw [TokenBucketLimiter.available, found, parts]
  dsimp only
  rw [tokens]
  congr 1
  ring

/-- A rejection owes the rest of a token at the time it tells. -/
theorem rejected_owes (rejected : (l.acquire key now).1 = (false, wait)) :
    0 < wait ∧ (l.acquire key now).2.Owes key (now + wait) := by
  obtain ⟨_, acquired⟩ | ⟨token, acquired⟩ := l.acquire_cases key now
  · rw [acquired] at rejected
    cases rejected
  · rw [acquired] at rejected ⊢
    obtain rfl : (1 - l.available key now) / l.refill = wait := congrArg Prod.snd rejected
    have positive : 0 < (1 - l.available key now) / l.refill :=
      div_pos (sub_pos.mpr (not_le.mp token)) l.flows
    refine ⟨positive, _, store_lookup_self l key _, lt_add_of_pos_right _ positive, ?_⟩
    have rest : (1 - l.available key now) / l.refill * l.refill = 1 - l.available key now :=
      div_mul_cancel₀ _ l.flows.ne'
    rw [add_sub_cancel_left]
    exact (by linarith : l.available key now = 1 - (1 - l.available key now) / l.refill * l.refill)

theorem Owes.early (owes : l.Owes key deadline) (whole : 1 ≤ l.capacity) (early : now < deadline) :
    (l.acquire key now).1.1 = false ∧ (l.acquire key now).2.Owes key deadline := by
  have missing : 0 < (deadline - now) * l.refill := mul_pos (sub_pos.mpr early) l.flows
  have found : l.available key now = 1 - (deadline - now) * l.refill := by
    rw [owes.available, min_eq_right (by linarith)]
  obtain ⟨token, _⟩ | ⟨_, acquired⟩ := l.acquire_cases key now
  · rw [found] at token
    exact absurd token (by linarith)
  · rw [acquired]
    exact ⟨rfl, _, store_lookup_self l key _, early, found⟩

theorem Owes.late (owes : l.Owes key deadline) (whole : 1 ≤ l.capacity) (late : deadline ≤ now) :
    (l.acquire key now).1.1 = true := by
  have enough : 0 ≤ (now - deadline) * l.refill := mul_nonneg (sub_nonneg.mpr late) l.flows.le
  rw [acquire_allowed_iff, owes.available]
  exact le_min whole (by linarith)

/-- An acquire of another key evicts the bucket or leaves it as it is. -/
theorem acquire_kept (bounded : l.Bounded) (different : other ≠ key) {state : BucketState}
    (kept : (l.acquire other now).2.buckets.lookup key = some state) :
    l.buckets.lookup key = some state := by
  obtain ⟨new, touched⟩ := l.acquire_touch other now
  have member := mem_of_lookup kept
  rw [touched, Lru.touch] at member
  refine Lru.lookup_of_mem bounded.wellFormed ?_
  rcases List.mem_append.mp member with before | last
  · exact (Lru.rest_sublist l.maxBuckets other l.buckets).subset before
  · exact absurd (congrArg Prod.fst (List.mem_singleton.mp last)).symm different

/-- The bucket is gone, or owes the rest of its token as before. -/
def OwesIfKept (l : TokenBucketLimiter) (key : Str) (deadline : ℚ) : Prop :=
  l.buckets.lookup key ≠ none → l.Owes key deadline

theorem OwesIfKept.acquire_other (owes : l.OwesIfKept key deadline) (bounded : l.Bounded)
    (different : other ≠ key) (now : ℚ) : (l.acquire other now).2.OwesIfKept key deadline := by
  intro present
  obtain ⟨state, found⟩ := Option.ne_none_iff_exists'.mp present
  have before := acquire_kept bounded different found
  obtain ⟨same, stands, early, tokens⟩ := owes (by simp [before])
  obtain rfl := Option.some_inj.mp (before.symm.trans stands)
  refine ⟨state, found, early, ?_⟩
  rw [(l.acquire_rates other now).2]
  exact tokens

/-- Waiting until the deadline is enough, also for a bucket that is gone. -/
theorem OwesIfKept.late (owes : l.OwesIfKept key deadline) (whole : 1 ≤ l.capacity)
    (late : deadline ≤ now) : (l.acquire key now).1.1 = true := by
  cases found : l.buckets.lookup key with
  | some state => exact (owes (by simp [found])).late whole late
  | none =>
    rw [acquire_allowed_iff, TokenBucketLimiter.available, found]
    exact whole

end Step

/-! ## Between the rejection and the next acquire after the wait -/

section Run
variable {l : TokenBucketLimiter} {key : Str} {deadline : ℚ}

/-- The key's bucket is in the map after each of the acquires. -/
def Stays (l : TokenBucketLimiter) (key : Str) (acquires : List Acquire) : Prop :=
  ∀ front, front <+: acquires → (l.after front).buckets.lookup key ≠ none

theorem after_cons (l : TokenBucketLimiter) (a : Acquire) (later : List Acquire) :
    l.after (a :: later) = (l.acquire a.key a.time).2.after later := rfl

theorem Stays.tail {a : Acquire} {later : List Acquire} (stays : l.Stays key (a :: later)) :
    (l.acquire a.key a.time).2.Stays key later :=
  fun front ahead => stays (a :: front) (List.cons_prefix_cons.mpr ⟨rfl, ahead⟩)

theorem Owes.after {acquires : List Acquire} (owes : l.Owes key deadline) (bounded : l.Bounded)
    (whole : 1 ≤ l.capacity) (stays : l.Stays key acquires)
    (early : ∀ a ∈ acquires, a.key = key → a.time < deadline) :
    (l.after acquires).Owes key deadline := by
  induction acquires generalizing l with
  | nil => exact owes
  | cons a later ih =>
    have next : (l.acquire a.key a.time).2.Owes key deadline := by
      by_cases own : a.key = key
      · exact own ▸ ((own.symm ▸ owes : l.Owes a.key deadline).early whole (early a (.head _) own)).2
      · have other : l.OwesIfKept key deadline := fun _ => owes
        exact other.acquire_other bounded own a.time
          (stays [a] (List.cons_prefix_cons.mpr ⟨rfl, List.nil_prefix⟩))
    rw [after_cons]
    refine ih next (bounded.acquire a.key a.time) ?_ stays.tail fun b member => early b (.tail _ member)
    rw [(l.acquire_rates a.key a.time).1]
    exact whole

theorem OwesIfKept.after {acquires : List Acquire} (owes : l.OwesIfKept key deadline)
    (bounded : l.Bounded) (foreign : ∀ a ∈ acquires, a.key ≠ key) :
    (l.after acquires).OwesIfKept key deadline := by
  induction acquires generalizing l with
  | nil => exact owes
  | cons a later ih =>
    exact ih (owes.acquire_other bounded (foreign a (.head _)) a.time) (bounded.acquire a.key a.time)
      fun b member => foreign b (.tail _ member)

end Run

/-- With no other acquire of the key, waiting is enough. -/
theorem allowed_after_wait {l : TokenBucketLimiter} {key : Str} {now wait again : ℚ} (bounded : l.Bounded)
    (whole : 1 ≤ l.capacity) (rejected : (l.acquire key now).1 = (false, wait)) {acquires : List Acquire}
    (foreign : ∀ a ∈ acquires, a.key ≠ key) (waited : now + wait ≤ again) :
    (((l.acquire key now).2.after acquires).acquire key again).1.1 = true := by
  have owes : (l.acquire key now).2.OwesIfKept key (now + wait) := fun _ => (rejected_owes rejected).2
  refine (owes.after (bounded.acquire key now) foreign).late ?_ waited
  rw [((l.acquire key now).2.after_rates acquires).1, (l.acquire_rates key now).1]
  exact whole

/-- A rejected key that keeps its bucket is rejected before the wait is over, however often it
asks, and its first acquire afterwards is allowed. -/
def RetryAfterExact : Prop :=
  ∀ (capacity : Int) (refillPerSecond : ℚ) (maxBuckets : Nat) (fresh : TokenBucketLimiter),
    init capacity refillPerSecond maxBuckets = .ok fresh → 1 ≤ maxBuckets →
    ∀ (before between : List Acquire) (key : Str) (now wait again : ℚ),
      (before ++ Acquire.mk key now :: (between ++ [⟨key, again⟩])).Pairwise (·.time ≤ ·.time) →
      ((fresh.after before).acquire key now).1 = (false, wait) →
      ((fresh.after before).acquire key now).2.Stays key between →
      (∀ a ∈ between, a.key = key → a.time < now + wait) →
      0 < wait ∧
        ((fresh.after (before ++ ⟨key, now⟩ :: between)).acquire key again).1.1 =
          decide (now + wait ≤ again)

theorem after_append (l : TokenBucketLimiter) (first second : List Acquire) :
    l.after (first ++ second) = (l.after first).after second := by
  rw [after, Transducer.run_append]
  rfl

theorem whole_token {capacity : Int} {refillPerSecond : ℚ} {maxBuckets : Nat}
    {fresh : TokenBucketLimiter} (built : init capacity refillPerSecond maxBuckets = .ok fresh)
    (acquires : List Acquire) : 1 ≤ (fresh.after acquires).capacity := by
  obtain ⟨positive, same, _⟩ := init_fresh built
  rw [(fresh.after_rates acquires).1, same]
  exact_mod_cast positive

theorem retryAfter_exact : RetryAfterExact := by
  intro capacity refillPerSecond maxBuckets fresh built room before between key now wait again _
    rejected stays early
  obtain ⟨_, _, _, most, empty⟩ := init_fresh built
  have bounded : (fresh.after before).Bounded :=
    (⟨most ▸ room, empty ▸ Lru.wellFormed_nil _⟩ : fresh.Bounded).after before
  obtain ⟨positive, owes⟩ := rejected_owes rejected
  have whole : 1 ≤ ((fresh.after before).acquire key now).2.capacity := by
    rw [((fresh.after before).acquire_rates key now).1]
    exact whole_token built before
  have later := owes.after (bounded.acquire key now) whole stays early
  have same : fresh.after (before ++ ⟨key, now⟩ :: between) =
      ((fresh.after before).acquire key now).2.after between := after_append ..
  refine ⟨positive, ?_⟩
  have enough := whole_token built (before ++ ⟨key, now⟩ :: between)
  rw [same] at enough ⊢
  by_cases waited : now + wait ≤ again
  · simpa [waited] using later.late enough waited
  · simpa [waited] using (later.early enough (not_le.mp waited)).1

end TokenBucketLimiter

/-! ## The dependency -/

namespace RateLimit

/-- The dependency after the requests. -/
def after (limit : RateLimit) (run : List LimitedCall) : RateLimit :=
  (Transducer.run enforceNext limit run).1

/-- A request that was turned away is admitted when it is made again after the `Retry-After`, if
no other request of its identity comes in between. -/
def AdmitsAfterWait (limit : RateLimit) (identities : Set (Str × Str)) : Prop :=
  ∀ (before between : List LimitedCall) (q again : LimitedCall) (turned : TooManyRequests),
    (before ++ q :: (between ++ [again])).Pairwise (·.time ≤ ·.time) →
    (∀ x ∈ before ++ q :: (between ++ [again]), x.identity ∈ identities) →
    again.identity = q.identity → (∀ x ∈ between, x.identity ≠ q.identity) →
    ((limit.after before).enforce q.auth q.time).1 = .error turned →
    q.time + turned.retryAfter ≤ again.time →
    ((limit.after (before ++ q :: between)).enforce again.auth again.time).1 = .ok again.auth

section Wait
variable {limit : RateLimit} {l : TokenBucketLimiter} {identities : Set (Str × Str)}

theorem le_retryAfter (limit : RateLimit) {wait : ℚ} (positive : 0 < wait) :
    wait ≤ (tooManyRequests limit wait).retryAfter := by
  have floor : 0 ≤ ⌊wait⌋ + 1 := by
    have := Int.floor_nonneg.mpr positive.le
    omega
  have above : wait ≤ (⌊wait⌋ + 1 : Int) := by
    push_cast
    exact (Int.lt_floor_add_one wait).le
  have cast : (((⌊wait⌋ + 1).toNat : Int) : ℚ) = (⌊wait⌋ + 1 : Int) := by rw [Int.toNat_of_nonneg floor]
  have most : (⌊wait⌋ + 1).toNat ≤ (tooManyRequests limit wait).retryAfter := le_max_right _ _
  calc wait ≤ ((⌊wait⌋ + 1 : Int) : ℚ) := above
    _ = ((⌊wait⌋ + 1).toNat : ℚ) := by rw [← cast, Int.cast_natCast]
    _ ≤ _ := Nat.cast_le.mpr most

theorem bucketKey_identity (name : Str) {a b : AuthContext} (same : a.identity = b.identity) :
    bucketKey name a = bucketKey name b := (bucketKey_eq_iff name a b).mpr (.inl same)

theorem after_bucket (bucket : limit.bucket = some l) (run : List LimitedCall) :
    limit.after run = { limit with bucket := some (l.after (run.map (·.acquire limit.name))) } :=
  enforceNext_after bucket run

theorem enforce_allowed (bucket : limit.bucket = some l) {auth : AuthContext} {time : ℚ}
    (allowed : (l.acquire (bucketKey limit.name auth) time).1.1 = true) :
    (limit.enforce auth time).1 = .ok auth := by
  rw [enforce_bucket bucket, respond, if_pos allowed]

theorem enforce_rejected (bucket : limit.bucket = some l) {auth : AuthContext} {time : ℚ}
    {turned : TooManyRequests} (rejected : (limit.enforce auth time).1 = .error turned) :
    ∃ wait, (l.acquire (bucketKey limit.name auth) time).1 = (false, wait) ∧
      tooManyRequests limit wait = turned := by
  rw [enforce_bucket bucket, respond] at rejected
  rcases answer : (l.acquire (bucketKey limit.name auth) time).1 with ⟨_ | _, wait⟩
  · rw [answer] at rejected
    exact ⟨wait, rfl, Except.error.inj rejected⟩
  · rw [answer] at rejected
    cases rejected

/-- Without a bucket nothing is turned away. -/
theorem admitsAfterWait_noop (disabled : limit.bucket = none) : limit.AdmitsAfterWait identities := by
  intro before between q again turned _ _ _ _ rejected _
  have kept : (limit.after before).bucket = none := by
    refine @Transducer.run_keeps _ _ _ enforceNext (fun s => s.bucket = none) before ?_ limit disabled
    intro s x _ none_left
    rw [enforceNext, enforce, none_left]
    exact none_left
  rw [enforce, kept] at rejected
  cases rejected

/-- Where no two of the identities share a key, waiting is enough. -/
theorem admitsAfterWait_of_unshifted (bucket : limit.bucket = some l) (bounded : l.Bounded)
    (whole : 1 ≤ l.capacity) (unshifted : ∀ a ∈ identities, ∀ b ∈ identities, ¬Shifted a b) :
    limit.AdmitsAfterWait identities := by
  intro before between q again turned _ among own foreign rejected waited
  have key : bucketKey limit.name again.auth = bucketKey limit.name q.auth := bucketKey_identity _ own
  have others : ∀ a ∈ between.map (·.acquire limit.name), a.key ≠ bucketKey limit.name q.auth := by
    intro a member
    obtain ⟨x, inside, rfl⟩ := List.mem_map.mp member
    have xs : x.identity ∈ identities := among x (by simp [inside])
    have qs : q.identity ∈ identities := among q (by simp)
    intro same
    rcases (bucketKey_eq_iff limit.name x.auth q.auth).mp same with equal | moved | moved
    · exact foreign x inside equal
    · exact unshifted _ xs _ qs moved
    · exact unshifted _ qs _ xs moved
  rw [after_bucket bucket] at rejected
  obtain ⟨wait, answer, rfl⟩ := enforce_rejected rfl rejected
  have advertised := le_retryAfter
    { limit with bucket := some (l.after (before.map (·.acquire limit.name))) }
    (TokenBucketLimiter.rejected_owes answer).1
  have whole : 1 ≤ (l.after (before.map (·.acquire limit.name))).capacity := by
    rw [(l.after_rates _).1]
    exact whole
  have allowed := TokenBucketLimiter.allowed_after_wait (bounded.after _) whole answer others
    ((by linarith : q.time + wait ≤ again.time))
  rw [after_bucket bucket, List.map_append, TokenBucketLimiter.after_append, List.map_cons]
  exact enforce_allowed rfl (key ▸ allowed)

/-- `n` acquires at one moment leave no token of fewer than `n + 1`. -/
theorem drained (key : Str) (time : ℚ) (n : Nat) (fewer : l.available key time < n + 1) :
    (l.after (List.replicate n ⟨key, time⟩)).available key time < 1 := by
  induction n generalizing l with
  | zero =>
    have same : l.after (List.replicate 0 ⟨key, time⟩) = l := rfl
    rw [same]
    simpa using fewer
  | succ n ih =>
    rw [List.replicate_succ, TokenBucketLimiter.after_cons]
    push_cast at fewer
    refine ih ?_
    have positive : (0 : ℚ) ≤ n := Nat.cast_nonneg n
    rw [TokenBucketLimiter.available_acquire]
    split <;> linarith

theorem enforce_drained (bucket : limit.bucket = some l) (auth : AuthContext) {time : ℚ}
    (short : l.available (bucketKey limit.name auth) time < 1) :
    ∃ turned, (limit.enforce auth time).1 = .error turned := by
  obtain ⟨token, _⟩ | ⟨_, acquired⟩ := l.acquire_cases (bucketKey limit.name auth) time
  · exact absurd token (not_le.mpr short)
  · rw [enforce_bucket bucket, acquired]
    exact ⟨_, rfl⟩

def callAt (identity : Str × Str) (time : ℚ) : LimitedCall :=
  ⟨{ tenantKey := identity.1, userId := identity.2 }, time⟩

/-- One identity uses up its calls and asks once more, and before it asks again the other takes
what has flowed in. -/
def turns (calls : Nat) (a b : Str × Str) (later : ℚ) : List LimitedCall :=
  List.replicate calls (callAt a 0) ++
    callAt a 0 :: (List.replicate calls (callAt b later) ++ [callAt a later])

theorem turns_ordered (calls : Nat) (a b : Str × Str) {later : ℚ} (forward : 0 ≤ later) :
    (turns calls a b later).Pairwise (·.time ≤ ·.time) := by
  have early : ∀ x ∈ List.replicate calls (callAt a 0), x.time = 0 :=
    fun x member => (List.eq_of_mem_replicate member).symm ▸ rfl
  have late : ∀ x ∈ List.replicate calls (callAt b later) ++ [callAt a later], x.time = later := by
    intro x member
    rcases List.mem_append.mp member with taken | last
    · exact (List.eq_of_mem_replicate taken).symm ▸ rfl
    · exact (List.mem_singleton.mp last).symm ▸ rfl
  refine List.pairwise_append.mpr ⟨?_, List.pairwise_cons.mpr ⟨?_, ?_⟩, ?_⟩
  · exact List.pairwise_of_forall_mem_list fun x first y second => by rw [early x first, early y second]
  · exact fun x member => forward.trans_eq (late x member).symm
  · exact List.pairwise_of_forall_mem_list fun x first y second => by rw [late x first, late y second]
  · intro x first y second
    rw [early x first]
    rcases List.mem_cons.mp second with rfl | member
    · exact le_rfl
    · exact forward.trans_eq (late y member).symm

theorem mem_turns {calls : Nat} {a b : Str × Str} {later : ℚ} {x : LimitedCall}
    (member : x ∈ turns calls a b later) : x.identity = a ∨ x.identity = b := by
  simp only [turns, List.mem_append, List.mem_cons, List.mem_replicate, List.not_mem_nil, or_false] at member
  rcases member with ⟨_, rfl⟩ | rfl | ⟨_, rfl⟩ | rfl
  · exact .inl rfl
  · exact .inl rfl
  · exact .inr rfl
  · exact .inl rfl

/-- Two identities that share a key: while the one waits, the other takes the tokens. -/
theorem not_admitsAfterWait (bucket : limit.bucket = some l) {calls : Nat}
    (capacity : l.capacity = calls) {a b : Str × Str} (among : a ∈ identities) (member : b ∈ identities)
    (different : b ≠ a)
    (shared : bucketKey limit.name (callAt b 0).auth = bucketKey limit.name (callAt a 0).auth) :
    ¬limit.AdmitsAfterWait identities := by
  intro admits
  have short : ∀ acquires : List Acquire, ∀ key time, (l.after acquires).available key time < calls + 1 := by
    intro acquires key time
    refine (TokenBucketLimiter.available_le_capacity _ key time).trans_lt ?_
    rw [(l.after_rates acquires).1, capacity]
    exact lt_add_one _
  obtain ⟨turned, rejected⟩ : ∃ turned, ((limit.after (List.replicate calls (callAt a 0))).enforce
      (callAt a 0).auth 0).1 = .error turned := by
    rw [after_bucket bucket, List.map_replicate]
    exact enforce_drained rfl _ (drained _ 0 calls (short [] _ _))
  have allowed := admits (List.replicate calls (callAt a 0))
    (List.replicate calls (callAt b turned.retryAfter)) (callAt a 0) (callAt a turned.retryAfter) turned
    (turns_ordered calls a b (Nat.cast_nonneg _))
    (fun x inside => (mem_turns inside).elim (· ▸ among) (· ▸ member)) rfl
    (fun x inside same => different ((List.eq_of_mem_replicate inside ▸ same : (callAt b _).identity = _)))
    rejected (zero_add _).le
  have taken : (callAt b turned.retryAfter).acquire limit.name =
      ⟨bucketKey limit.name (callAt a 0).auth, turned.retryAfter⟩ := by
    rw [← shared]
    rfl
  obtain ⟨again, refused⟩ : ∃ again, ((limit.after (List.replicate calls (callAt a 0) ++ callAt a 0 ::
      List.replicate calls (callAt b turned.retryAfter))).enforce (callAt a 0).auth
        turned.retryAfter).1 = .error again := by
    rw [after_bucket bucket, ← List.singleton_append, ← List.append_assoc, List.map_append,
      TokenBucketLimiter.after_append, List.map_replicate, taken]
    exact enforce_drained rfl _ (drained _ _ calls (short _ _ _))
  cases refused.symm.trans allowed

end Wait
end RateLimit

/-- Retry-After is exact for a key, and enough for an identity of the set, if and only if the limit
is disabled or no two of the identities differ by where the colon between tenant and user stands. -/
theorem retryAfter_iff {name : Str} {calls : Int} {period : ℚ} {limit : RateLimit}
    (built : rateLimit name calls period = .ok limit) (identities : Set (Str × Str)) :
    (TokenBucketLimiter.RetryAfterExact ∧ limit.AdmitsAfterWait identities) ↔
      calls ≤ 0 ∨ ∀ a ∈ identities, ∀ b ∈ identities, ¬Shifted a b := by
  rw [and_iff_right TokenBucketLimiter.retryAfter_exact]
  by_cases disabled : calls ≤ 0
  · refine ⟨fun _ => .inl disabled, fun _ => ?_⟩
    exact RateLimit.admitsAfterWait_noop (rateLimit_noop disabled built)
  · have positive : 0 < calls := not_le.mp disabled
    obtain ⟨_, l, bucket, capacity, _, most, empty⟩ := rateLimit_fresh positive built
    obtain ⟨n, rfl⟩ := Int.eq_ofNat_of_zero_le positive.le
    have bounded : l.Bounded := ⟨by rw [most]; norm_num, empty ▸ Lru.wellFormed_nil _⟩
    have whole : 1 ≤ l.capacity := by
      rw [capacity]
      exact_mod_cast positive
    constructor
    · intro admits
      refine .inr fun a among b member shifted => ?_
      exact RateLimit.not_admitsAfterWait bucket (by simpa using capacity) among member
        (shifted_ne shifted).symm ((bucketKey_eq_iff _ _ _).mpr (.inr (.inr shifted))) admits
    · rintro (noop | unshifted)
      · exact absurd noop disabled
      · exact RateLimit.admitsAfterWait_of_unshifted bucket bounded whole unshifted

theorem retryAfter_iff_namesakes :
    (TokenBucketLimiter.RetryAfterExact ∧ oneCallLimit.AdmitsAfterWait namesakes) ↔
      (1 : Int) ≤ 0 ∨ ∀ a ∈ namesakes, ∀ b ∈ namesakes, ¬Shifted a b :=
  retryAfter_iff oneCallLimit_built namesakes

/-- The first identity is told to wait 61 s, waits, and finds the token taken by the second. -/
theorem waits_in_vain :
    rateLimit messagesLimit 1 60 = .ok oneCallLimit ∧ colonInTenant ≠ colonInUser ∧
      ¬(TokenBucketLimiter.RetryAfterExact ∧ oneCallLimit.AdmitsAfterWait {colonInTenant, colonInUser}) := by
  have capacity : oneCall.capacity = (1 : Nat) := by simp [oneCall]
  have vain : ¬oneCallLimit.AdmitsAfterWait {colonInTenant, colonInUser} :=
    RateLimit.not_admitsAfterWait rfl capacity (.inl rfl) (.inr rfl) (shifted_ne colon_shifted).symm
      ((bucketKey_eq_iff _ _ _).mpr (.inr (.inr colon_shifted)))
  exact ⟨oneCallLimit_built, shifted_ne colon_shifted, fun admits => vain admits.2⟩

end OrchidApi
