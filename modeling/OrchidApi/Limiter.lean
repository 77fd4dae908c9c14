import OrchidApi.Lru
import OrchidApi.RateLimit
import OrchidApi.TokenBucket

/-! One limiter and one key: while the key's bucket is in the map, it answers like an ideal
bucket charged at the times the key was allowed. -/
namespace OrchidApi
open Text TokenBucket

namespace TokenBucketLimiter

/-- The limiter's bucket for the key is the ideal one charged at the logged times. -/
def Tracks (l : TokenBucketLimiter) (key : Str) (log : List ℚ) (clock : ℚ) : Prop :=
  match l.buckets.lookup key with
  | none => log = []
  | some state => state.tokens = level l.capacity l.refill log state.lastRefill ∧
      (∀ a ∈ log, a ≤ state.lastRefill) ∧ state.lastRefill ≤ clock

/-- A request with the key evicts nothing. -/
def Roomy (l : TokenBucketLimiter) (key : Str) : Prop :=
  l.buckets.lookup key = none → l.buckets.length < l.maxBuckets

theorem Tracks.later {l : TokenBucketLimiter} {key : Str} {log : List ℚ} {clock now : ℚ}
    (tracks : l.Tracks key log clock) (later : clock ≤ now) : l.Tracks key log now := by
  unfold Tracks at tracks ⊢
  cases found : l.buckets.lookup key with
  | none => rwa [found] at tracks
  | some state =>
    rw [found] at tracks
    exact ⟨tracks.1, tracks.2.1, tracks.2.2.trans later⟩

theorem available_eq {l : TokenBucketLimiter} {key : Str} {log : List ℚ} {clock now : ℚ}
    (tracks : l.Tracks key log clock) (later : clock ≤ now) :
    l.available key now = level l.capacity l.refill log now := by
  unfold Tracks at tracks
  unfold available
  cases found : l.buckets.lookup key with
  | none =>
    rw [found] at tracks
    rw [tracks]
    rfl
  | some state =>
    rw [found] at tracks
    obtain ⟨tokens, _, past⟩ := tracks
    dsimp only
    rw [tokens, mul_comm, ← level_refill l.flows.le log (past.trans later)]

/-- The buckets are a map in order of last use. -/
theorem store_buckets (l : TokenBucketLimiter) (key : Str) (state : BucketState) :
    (l.store key state).buckets = Lru.touch l.maxBuckets key state l.buckets := by
  simp only [store, others, Lru.touch, Lru.rest]
  cases l.buckets.lookup key <;> rfl

theorem lookup_filter {entries : List (Str × BucketState)} {key other : Str}
    (different : other ≠ key) : (entries.filter (·.1 ≠ key)).lookup other = entries.lookup other := by
  induction entries with
  | nil => rfl
  | cons entry rest ih =>
    obtain ⟨k, state⟩ := entry
    by_cases same : k = key
    · subst same
      have missed : (other == k) = false := beq_eq_false_iff_ne.mpr different
      simpa [List.lookup_cons, missed] using ih
    · have kept : ((k, state) :: rest).filter (fun entry => decide (entry.1 ≠ key)) =
          (k, state) :: rest.filter fun entry => decide (entry.1 ≠ key) := by simp [same]
      rw [kept, List.lookup_cons, List.lookup_cons, ih]

theorem others_lookup (l : TokenBucketLimiter) {key other : Str} (roomy : l.Roomy key)
    (different : other ≠ key) : (l.others key).lookup other = l.buckets.lookup other := by
  unfold others
  cases found : l.buckets.lookup key with
  | none =>
    have fits : l.buckets.length + 1 - l.maxBuckets = 0 := by
      have := roomy found
      omega
    simp [fits]
  | some state => exact lookup_filter different

theorem store_lookup_self (l : TokenBucketLimiter) (key : Str) (state : BucketState) :
    (l.store key state).buckets.lookup key = some state := by
  have missing : (Lru.rest l.maxBuckets key l.buckets).lookup key = none :=
    Lru.lookup_eq_none.mpr (Lru.key_notMem_rest l.maxBuckets key l.buckets)
  simp [store_buckets, Lru.touch, List.lookup_append, missing]

theorem store_lookup (l : TokenBucketLimiter) {key other : Str} (state : BucketState)
    (roomy : l.Roomy key) (different : other ≠ key) :
    (l.store key state).buckets.lookup other = l.buckets.lookup other := by
  have missed : (other == key) = false := beq_eq_false_iff_ne.mpr different
  simp [store, List.lookup_append, others_lookup l roomy different, List.lookup_cons, missed]

/-- Either the key has a token and loses it, or the answer is how long the rest of one takes. -/
theorem acquire_cases (l : TokenBucketLimiter) (key : Str) (now : ℚ) :
    (1 ≤ l.available key now ∧
        l.acquire key now = ((true, 0), l.store key ⟨l.available key now - 1, now⟩)) ∨
      (¬1 ≤ l.available key now ∧ l.acquire key now =
        ((false, (1 - l.available key now) / l.refill), l.store key ⟨l.available key now, now⟩)) := by
  rw [acquire]
  split
  · rename_i token
    exact .inl ⟨token, rfl⟩
  · rename_i token
    exact .inr ⟨token, rfl⟩

theorem acquire_allowed_iff (l : TokenBucketLimiter) (key : Str) (now : ℚ) :
    (l.acquire key now).1.1 = true ↔ 1 ≤ l.available key now := by
  obtain ⟨token, acquired⟩ | ⟨token, acquired⟩ := l.acquire_cases key now
  · simp only [acquired, token]
  · simp only [acquired, token, Bool.false_eq_true]

theorem available_le_capacity (l : TokenBucketLimiter) (key : Str) (now : ℚ) :
    l.available key now ≤ l.capacity := by
  rw [available]
  split
  · exact le_rfl
  · exact min_le_left _ _

/-- At the same moment a second request finds what the first has left. -/
theorem available_acquire (l : TokenBucketLimiter) (key : Str) (now : ℚ) :
    (l.acquire key now).2.available key now =
      if 1 ≤ l.available key now then l.available key now - 1 else l.available key now := by
  have most := l.available_le_capacity key now
  have stored (tokens : ℚ) (fits : tokens ≤ l.capacity) :
      (l.store key ⟨tokens, now⟩).available key now = tokens := by
    rw [available, store_lookup_self]
    dsimp only
    rw [sub_self, zero_mul, add_zero]
    exact min_eq_right fits
  obtain ⟨token, acquired⟩ | ⟨token, acquired⟩ := l.acquire_cases key now
  · rw [acquired, if_pos token, stored _ ((sub_le_self _ zero_le_one).trans most)]
  · rw [acquired, if_neg token, stored _ most]

theorem acquire_store (l : TokenBucketLimiter) (key : Str) (now : ℚ) :
    ∃ state, (l.acquire key now).2 = l.store key state := by
  obtain ⟨_, acquired⟩ | ⟨_, acquired⟩ := l.acquire_cases key now
  · exact ⟨_, by rw [acquired]⟩
  · exact ⟨_, by rw [acquired]⟩

/-- A request with the key gets the answer of the ideal bucket, and charges it when allowed. -/
theorem acquire_self {l : TokenBucketLimiter} {key : Str} {log : List ℚ} {clock now : ℚ}
    (tracks : l.Tracks key log clock) (later : clock ≤ now) (past : ∀ a ∈ log, a ≤ now) :
    (l.acquire key now).1 = answer l.capacity l.refill log now ∧
      (l.acquire key now).2.Tracks key (charge l.capacity l.refill log now) now := by
  have found := available_eq tracks later
  obtain ⟨token, acquired⟩ | ⟨token, acquired⟩ := l.acquire_cases key now
  · rw [found] at token acquired
    rw [acquired, Tracks, store_lookup_self, answer, charge, if_pos token, if_pos token]
    refine ⟨rfl, (level_charge log now).symm, fun a member => ?_, le_rfl⟩
    rcases List.mem_cons.mp member with rfl | earlier
    · exact le_rfl
    · exact past a earlier
  · rw [found] at token acquired
    rw [acquired, Tracks, store_lookup_self, answer, charge, if_neg token, if_neg token]
    exact ⟨rfl, rfl, past, le_rfl⟩

/-- A request with another key leaves the bucket alone. -/
theorem acquire_other {l : TokenBucketLimiter} {key other : Str} {log : List ℚ} {clock now : ℚ}
    (tracks : l.Tracks other log clock) (later : clock ≤ now) (roomy : l.Roomy key)
    (different : other ≠ key) : (l.acquire key now).2.Tracks other log now := by
  obtain ⟨state, stored⟩ := l.acquire_store key now
  have tracks := tracks.later later
  rw [stored, Tracks, store_lookup l state roomy different]
  exact tracks

theorem acquire_buckets (l : TokenBucketLimiter) (key : Str) (now : ℚ) :
    (l.acquire key now).2.maxBuckets = l.maxBuckets ∧
      (l.acquire key now).2.buckets.length ≤ l.buckets.length + 1 := by
  have fewer : (l.others key).length ≤ l.buckets.length := by
    unfold others
    split
    · simp
    · exact List.length_filter_le _ _
  unfold acquire
  split <;> exact ⟨rfl, by simpa [store] using fewer⟩

theorem acquire_rates (l : TokenBucketLimiter) (key : Str) (now : ℚ) :
    (l.acquire key now).2.capacity = l.capacity ∧ (l.acquire key now).2.refill = l.refill := by
  unfold acquire
  split <;> exact ⟨rfl, rfl⟩

end TokenBucketLimiter

theorem TokenBucketLimiter.init_fresh {capacity : Int} {refillPerSecond : ℚ} {maxBuckets : Nat}
    {l : TokenBucketLimiter} (built : init capacity refillPerSecond maxBuckets = .ok l) :
    0 < capacity ∧ l.capacity = capacity ∧ l.refill = refillPerSecond ∧ l.maxBuckets = maxBuckets ∧
      l.buckets = [] := by
  rw [init] at built
  split at built
  · rename_i capable
    split at built
    · obtain rfl := Except.ok.inj built
      exact ⟨capable, rfl, rfl, rfl, rfl⟩
    · cases built
  · cases built

/-- Each call of `rate_limit` builds an empty limiter of its own, or none at all. -/
theorem rateLimit_fresh {name : Str} {calls : Int} {period : ℚ} {limit : RateLimit}
    (positive : 0 < calls) (built : rateLimit name calls period = .ok limit) :
    limit.name = name ∧ ∃ l, limit.bucket = some l ∧ l.capacity = calls ∧
      l.refill = calls / period ∧ l.maxBuckets = 10000 ∧ l.buckets = [] := by
  rw [rateLimit, if_neg (not_le.mpr positive)] at built
  cases made : TokenBucketLimiter.init calls (calls / period) with
  | error raised =>
    rw [made] at built
    cases built
  | ok l =>
    rw [made] at built
    obtain rfl := Except.ok.inj built
    exact ⟨rfl, l, rfl, (TokenBucketLimiter.init_fresh made).2⟩

theorem rateLimit_noop {name : Str} {calls : Int} {period : ℚ} {limit : RateLimit}
    (disabled : calls ≤ 0) (built : rateLimit name calls period = .ok limit) :
    limit.bucket = none := by
  rw [rateLimit, if_pos disabled] at built
  obtain rfl := Except.ok.inj built
  rfl

def oneCall : TokenBucketLimiter :=
  { capacity := 1, refill := 1 / 60, capable := by norm_num, flows := by norm_num }

end OrchidApi
