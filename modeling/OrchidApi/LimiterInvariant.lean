import OrchidApi.LimiterRefinement

/-! What the map of a limiter holds after any acquires: the buckets of the keys used last, in
that order, each as its key's last acquire left it. -/
namespace OrchidApi
open Text

/-! ## The eviction loop -/

namespace TokenBucketLimiter

/-- With room for one bucket the loop ends before the map is empty. -/
theorem popOldest_eq {most : Nat} (room : 0 < most) (entries : List (Str × BucketState)) :
    popOldest most entries = .ok (entries.drop (entries.length + 1 - most)) := by
  induction entries with
  | nil => simp [popOldest, room.ne']
  | cons oldest rest ih =>
    rw [popOldest]
    split
    · rename_i full
      have shift : (oldest :: rest).length + 1 - most = (rest.length + 1 - most) + 1 := by
        rw [List.length_cons]
        omega
      rw [ih, shift, List.drop_succ_cons]
    · rename_i fits
      have none_left : (oldest :: rest).length + 1 - most = 0 := by
        rw [List.length_cons]
        omega
      rw [none_left, List.drop_zero]

end TokenBucketLimiter

/-! ## Recency -/

/-- The keys used, each at its last use: oldest first. -/
def recency (acquires : List Acquire) : List Str := (acquires.map Acquire.key).dedup

def lastAcquire (key : Str) (acquires : List Acquire) : Option ℚ :=
  ((acquires.filter (·.key = key)).getLast?).map Acquire.time

theorem dedup_concat [DecidableEq α] (xs : List α) (x : α) :
    (xs ++ [x]).dedup = xs.dedup.filter (· ≠ x) ++ [x] := by
  induction xs with
  | nil => simp
  | cons y ys ih =>
    rw [List.cons_append, List.dedup_cons, List.dedup_cons, ih]
    by_cases same : y = x
    · subst same
      by_cases again : y ∈ ys <;> simp [again]
    · by_cases again : y ∈ ys <;> simp [again, same]

theorem recency_concat (acquires : List Acquire) (a : Acquire) :
    recency (acquires ++ [a]) = (recency acquires).filter (· ≠ a.key) ++ [a.key] := by
  rw [recency, List.map_append, List.map_singleton, dedup_concat]
  rfl

theorem lastAcquire_self (acquires : List Acquire) (a : Acquire) :
    lastAcquire a.key (acquires ++ [a]) = some a.time := by
  simp [lastAcquire]

theorem lastAcquire_other (acquires : List Acquire) {a : Acquire} {key : Str} (different : a.key ≠ key) :
    lastAcquire key (acquires ++ [a]) = lastAcquire key acquires := by
  simp [lastAcquire, different]

theorem lastAcquire_time {key : Str} {acquires : List Acquire} {time : ℚ}
    (last : lastAcquire key acquires = some time) : ∃ a ∈ acquires, a.time = time := by
  obtain ⟨a, ends, rfl⟩ := Option.map_eq_some_iff.mp last
  exact ⟨a, List.mem_of_mem_filter (List.mem_of_getLast? ends), rfl⟩

/-! ## The invariant -/

namespace TokenBucketLimiter

/-- What the map stands for after the acquires. -/
structure Represents (l : TokenBucketLimiter) (acquires : List Acquire) : Prop where
  bounded : l.buckets.length ≤ l.maxBuckets
  distinct : (l.buckets.map Prod.fst).Nodup
  /-- Any keys that were evicted are those used least recently. -/
  recent : l.buckets.map Prod.fst <:+ recency acquires
  spaced : (l.buckets.map (·.2.lastRefill)).Pairwise (· ≤ ·)
  range : ∀ bucket ∈ l.buckets, 0 ≤ bucket.2.tokens ∧ bucket.2.tokens ≤ l.capacity
  current : ∀ bucket ∈ l.buckets, lastAcquire bucket.1 acquires = some bucket.2.lastRefill

section Step
variable {l : TokenBucketLimiter} {acquires : List Acquire} {a : Acquire}

theorem mem_of_lookup {entries : List (Str × BucketState)} {key : Str} {state : BucketState}
    (found : entries.lookup key = some state) : (key, state) ∈ entries := by
  obtain ⟨front, back, rfl, _⟩ := List.lookup_eq_some_iff.mp found
  exact List.mem_append_right _ (.head _)

theorem rest_keys (most : Nat) (key : Str) (entries : List (Str × BucketState)) :
    (Lru.rest most key entries).map Prod.fst <:+ (entries.map Prod.fst).filter (· ≠ key) := by
  rw [Lru.rest]
  cases found : entries.lookup key with
  | none =>
    have absent := Lru.lookup_eq_none.mp found
    have all : (entries.map Prod.fst).filter (· ≠ key) = entries.map Prod.fst :=
      List.filter_eq_self.mpr fun k member => by
        simpa using fun same : k = key => absent (same ▸ member)
    rw [all]
    exact (List.drop_suffix _ _).map _
  | some state =>
    rw [List.filter_map]
    exact List.suffix_rfl

theorem Represents.available_range (represents : l.Represents acquires) (key : Str) {now : ℚ}
    (later : ∀ b ∈ acquires, b.time ≤ now) :
    0 ≤ l.available key now ∧ l.available key now ≤ l.capacity := by
  refine ⟨?_, l.available_le_capacity key now⟩
  rw [available]
  cases found : l.buckets.lookup key with
  | none => exact l.capable.le
  | some state =>
    have member := mem_of_lookup found
    obtain ⟨b, earlier, time⟩ := lastAcquire_time (represents.current _ member)
    have past : state.lastRefill ≤ now := time ▸ later b earlier
    have gain : 0 ≤ (now - state.lastRefill) * l.refill := mul_nonneg (sub_nonneg.mpr past) l.flows.le
    exact le_min l.capable.le (add_nonneg (represents.range _ member).1 gain)

/-- The new state of the key's own bucket. -/
theorem Represents.acquire_state (represents : l.Represents acquires) (key : Str) {now : ℚ}
    (later : ∀ b ∈ acquires, b.time ≤ now) :
    ∃ tokens, (l.acquire key now).2 = l.store key ⟨tokens, now⟩ ∧ 0 ≤ tokens ∧ tokens ≤ l.capacity := by
  obtain ⟨least, most⟩ := represents.available_range key later
  obtain ⟨token, acquired⟩ | ⟨token, acquired⟩ := l.acquire_cases key now
  · exact ⟨_, by rw [acquired], by linarith, by linarith⟩
  · exact ⟨_, by rw [acquired], least, most⟩

theorem Represents.acquire (represents : l.Represents acquires) (room : 0 < l.maxBuckets)
    (later : ∀ b ∈ acquires, b.time ≤ a.time) :
    (l.acquire a.key a.time).2.Represents (acquires ++ [a]) := by
  obtain ⟨tokens, stored, least, most⟩ := represents.acquire_state a.key later
  have wf := (Lru.WellFormed.mk represents.distinct represents.bounded).touch room a.key
    (⟨tokens, a.time⟩ : BucketState)
  have kept := Lru.rest_sublist l.maxBuckets a.key l.buckets
  have others : ∀ bucket ∈ Lru.rest l.maxBuckets a.key l.buckets,
      bucket ∈ l.buckets ∧ a.key ≠ bucket.1 := by
    intro bucket member
    refine ⟨kept.subset member, fun same => ?_⟩
    have listed := List.mem_map_of_mem (f := Prod.fst) member
    exact Lru.key_notMem_rest l.maxBuckets a.key l.buckets (same ▸ listed)
  have buckets : (l.acquire a.key a.time).2.buckets =
      Lru.rest l.maxBuckets a.key l.buckets ++ [(a.key, ⟨tokens, a.time⟩)] := by
    rw [stored, store_buckets, Lru.touch]
  have capacity := (l.acquire_rates a.key a.time).1
  have most_kept := (l.acquire_buckets a.key a.time).1
  constructor
  · rw [buckets, most_kept]
    exact wf.bounded
  · rw [buckets]
    exact wf.distinct
  · rw [buckets, List.map_append, recency_concat]
    refine List.suffix_append_self_iff.mpr ?_
    exact (rest_keys l.maxBuckets a.key l.buckets).trans (represents.recent.filter _)
  · rw [buckets, List.map_append, List.pairwise_append]
    refine ⟨represents.spaced.sublist (kept.map _), List.pairwise_singleton _ _, ?_⟩
    intro earlier member last final
    obtain ⟨bucket, inside, rfl⟩ := List.mem_map.mp member
    obtain ⟨b, before, time⟩ := lastAcquire_time (represents.current _ (kept.subset inside))
    rw [List.map_singleton, List.mem_singleton] at final
    rw [final, ← time]
    exact later b before
  · rw [buckets, capacity]
    intro bucket member
    rcases List.mem_append.mp member with other | own
    · exact represents.range bucket (kept.subset other)
    · rw [List.mem_singleton.mp own]
      exact ⟨least, most⟩
  · rw [buckets]
    intro bucket member
    rcases List.mem_append.mp member with other | own
    · rw [lastAcquire_other acquires (others bucket other).2]
      exact represents.current bucket (kept.subset other)
    · rw [List.mem_singleton.mp own]
      exact lastAcquire_self acquires a

end Step

theorem after_concat (l : TokenBucketLimiter) (acquires : List Acquire) (a : Acquire) :
    l.after (acquires ++ [a]) = ((l.after acquires).acquire a.key a.time).2 := by
  rw [after, Transducer.run_concat]
  rfl

theorem represents_fresh {l : TokenBucketLimiter} (empty : l.buckets = []) : l.Represents [] := by
  constructor <;> simp [empty, recency]

/-- Every acquire keeps the invariant on a clock that never goes back. -/
theorem represents_after {l : TokenBucketLimiter} (empty : l.buckets = []) (room : 0 < l.maxBuckets)
    (acquires : List Acquire) (ordered : acquires.Pairwise (·.time ≤ ·.time)) :
    (l.after acquires).Represents acquires := by
  induction acquires using List.reverseRecOn with
  | nil => exact represents_fresh empty
  | append_singleton acquires a ih =>
    obtain ⟨ordered, _, later⟩ := List.pairwise_append.mp ordered
    rw [after_concat]
    refine (ih ordered).acquire ?_ fun b member => later b member a (.head _)
    rw [(l.after_rates acquires).2.2]
    exact room

theorem last_key (l : TokenBucketLimiter) (acquires : List Acquire) :
    ∀ a ∈ acquires.getLast?, ((l.after acquires).buckets.map Prod.fst).getLast? = some a.key := by
  intro a last
  obtain ⟨front, rfl⟩ := List.getLast?_eq_some_iff.mp last
  obtain ⟨state, stored⟩ := (l.after front).acquire_store a.key a.time
  rw [after_concat, stored, store, List.map_append, List.map_singleton, List.getLast?_concat]

/-- The loop that makes room for a new key keeps the newest buckets. -/
theorem others_evicted (l : TokenBucketLimiter) (room : 0 < l.maxBuckets) {key : Str}
    (new : l.buckets.lookup key = none) :
    popOldest l.maxBuckets l.buckets = .ok (l.others key) ∧ l.others key <:+ l.buckets := by
  rw [popOldest_eq room, others, new]
  exact ⟨rfl, List.drop_suffix _ _⟩

/-- After any acquires the map represents them, the last key stands at its end, and room for a new
key is made without an error, at the cost of the oldest buckets alone. -/
theorem limiter_represents {capacity : Int} {refillPerSecond : ℚ} {maxBuckets : Nat}
    {fresh : TokenBucketLimiter} (built : init capacity refillPerSecond maxBuckets = .ok fresh)
    (room : 1 ≤ maxBuckets) (acquires : List Acquire) (ordered : acquires.Pairwise (·.time ≤ ·.time)) :
    (fresh.after acquires).Represents acquires ∧
      (∀ a ∈ acquires.getLast?,
        ((fresh.after acquires).buckets.map Prod.fst).getLast? = some a.key) ∧
      ∀ key, (fresh.after acquires).buckets.lookup key = none →
        popOldest maxBuckets (fresh.after acquires).buckets = .ok ((fresh.after acquires).others key) ∧
          (fresh.after acquires).others key <:+ (fresh.after acquires).buckets := by
  obtain ⟨_, _, _, most, empty⟩ := init_fresh built
  have kept : (fresh.after acquires).maxBuckets = maxBuckets := (fresh.after_rates acquires).2.2.trans most
  refine ⟨represents_after empty (most ▸ room) acquires ordered, fresh.last_key acquires, fun key new => ?_⟩
  have evicted := (fresh.after acquires).others_evicted (kept ▸ room) new
  rwa [kept] at evicted

theorem limiter_represents_visits :
    init 1 1 2 = .ok twoBuckets ∧ (twoBuckets.after visits).Represents visits ∧
      recency visits = ["b".toList, "a".toList] :=
  have built : init 1 1 2 = .ok twoBuckets := by simp [init, twoBuckets]
  ⟨built, (limiter_represents built (by decide) visits visits_ordered).1, by decide⟩

end TokenBucketLimiter

end OrchidApi
