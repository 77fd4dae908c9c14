import OrchidApi.Limiter
import OrchidApi.Transducer

/-! Any sequence of acquires of one limiter, against the buckets it stands for. A key keeps
its bucket as long as fewer other keys than the bound come between two of its acquires; then
it is answered as by a bucket of its own, and no window admits more than its quota. -/
namespace OrchidApi
open Text TokenBucket

structure Acquire where
  key : Str
  time : ℚ
  deriving DecidableEq

def Acquire.within (s t : ℚ) (a : Acquire) : Bool := s ≤ a.time ∧ a.time ≤ t

namespace TokenBucketLimiter

/-- Each acquire in turn, with its answer. -/
def acquireNext (l : TokenBucketLimiter) (a : Acquire) :
    TokenBucketLimiter × List (Acquire × Bool × ℚ) :=
  ((l.acquire a.key a.time).2, [(a, (l.acquire a.key a.time).1)])

def answered (l : TokenBucketLimiter) (acquires : List Acquire) : List (Acquire × Bool × ℚ) :=
  (Transducer.run acquireNext l acquires).2

/-- The answers given to the key. -/
def answersTo (l : TokenBucketLimiter) (key : Str) (acquires : List Acquire) : List (Bool × ℚ) :=
  ((l.answered acquires).filter (·.1.key = key)).map Prod.snd

theorem answered_cons (l : TokenBucketLimiter) (a : Acquire) (later : List Acquire) :
    l.answered (a :: later) =
      (a, (l.acquire a.key a.time).1) :: (l.acquire a.key a.time).2.answered later := rfl

theorem answersTo_cons (l : TokenBucketLimiter) (key : Str) (a : Acquire) (later : List Acquire) :
    l.answersTo key (a :: later) =
      if a.key = key then
        (l.acquire a.key a.time).1 :: (l.acquire a.key a.time).2.answersTo key later
      else (l.acquire a.key a.time).2.answersTo key later := by
  simp only [answersTo, answered_cons, List.filter_cons, decide_eq_true_eq]
  split <;> rfl

/-! ## A key among the others -/

theorem acquire_touch (l : TokenBucketLimiter) (key : Str) (now : ℚ) :
    ∃ state, (l.acquire key now).2.buckets = Lru.touch l.maxBuckets key state l.buckets := by
  obtain ⟨state, stored⟩ := l.acquire_store key now
  exact ⟨state, by rw [stored, store_buckets]⟩

/-- The map stays bounded, with one bucket a key. -/
structure Bounded (l : TokenBucketLimiter) : Prop where
  room : 0 < l.maxBuckets
  wellFormed : Lru.WellFormed l.maxBuckets l.buckets

theorem Bounded.acquire {l : TokenBucketLimiter} (bounded : l.Bounded) (key : Str) (now : ℚ) :
    (l.acquire key now).2.Bounded := by
  obtain ⟨state, touched⟩ := l.acquire_touch key now
  have most := (l.acquire_buckets key now).1
  constructor
  · rw [most]
    exact bounded.room
  · rw [most, touched]
    exact bounded.wellFormed.touch bounded.room key state

/-- The bucket that the key left `since` its last acquire is good, if it is there. -/
def Keeps (l : TokenBucketLimiter) (key : Str) (good : BucketState → Prop)
    (since : Option (Finset Str)) : Prop :=
  Lru.Keeps l.maxBuckets key good since l.buckets

theorem Keeps.acquire_other {l : TokenBucketLimiter} {key other : Str} {good : BucketState → Prop}
    {since : Option (Finset Str)} (keeps : l.Keeps key good since) (bounded : l.Bounded)
    (different : other ≠ key) (now : ℚ) :
    (l.acquire other now).2.Keeps key good (since.map (insert other)) := by
  obtain ⟨new, touched⟩ := l.acquire_touch other now
  rw [Keeps, touched, (l.acquire_buckets other now).1]
  exact Lru.Keeps.touch keeps bounded.wellFormed different new

/-! ## The ideal bucket of a key -/

/-- The state of the ideal bucket charged at the logged times. -/
def Charged (l : TokenBucketLimiter) (log : List ℚ) (clock : ℚ) (state : BucketState) : Prop :=
  state.tokens = level l.capacity l.refill log state.lastRefill ∧
    (∀ a ∈ log, a ≤ state.lastRefill) ∧ state.lastRefill ≤ clock

/-- The key has followed its ideal bucket since its first acquire; before it had none. -/
structure Follows (l : TokenBucketLimiter) (key : Str) (log : List ℚ) (clock : ℚ)
    (since : Option (Finset Str)) : Prop where
  bounded : l.Bounded
  keeps : l.Keeps key (l.Charged log clock) since
  unused : since = none → l.buckets.lookup key = none ∧ log = []

section Step
variable {l : TokenBucketLimiter} {key : Str} {log : List ℚ} {clock now : ℚ}
  {since : Option (Finset Str)}

theorem Follows.tracks (follows : l.Follows key log clock since)
    (near : ∀ keys ∈ since, keys.card < l.maxBuckets) : l.Tracks key log clock := by
  cases since with
  | none =>
    obtain ⟨missing, rfl⟩ := follows.unused rfl
    rw [Tracks, missing]
  | some keys =>
    obtain ⟨state, found, charged⟩ :=
      Lru.Keeps.lookup follows.keeps follows.bounded.wellFormed (near keys rfl)
    rw [Tracks, found]
    exact charged

theorem Tracks.past (tracks : l.Tracks key log clock) : ∀ a ∈ log, a ≤ clock := by
  rw [Tracks] at tracks
  split at tracks
  · simp [tracks]
  · exact fun a member => (tracks.2.1 a member).trans tracks.2.2

/-- An acquire of the key is answered by its ideal bucket. -/
theorem Follows.acquire_self (follows : l.Follows key log clock since)
    (near : ∀ keys ∈ since, keys.card < l.maxBuckets) (later : clock ≤ now) :
    (l.acquire key now).1 = answer l.capacity l.refill log now ∧
      (l.acquire key now).2.Follows key (charge l.capacity l.refill log now) now (some ∅) := by
  have tracks := follows.tracks near
  obtain ⟨answered, charged⟩ := TokenBucketLimiter.acquire_self tracks later fun a member =>
    (tracks.past a member).trans later
  refine ⟨answered, follows.bounded.acquire key now, ?_, nofun⟩
  obtain ⟨state, stored⟩ := l.acquire_store key now
  rw [stored, Tracks, store_lookup_self] at charged
  rw [stored, Keeps, store_buckets]
  exact Lru.keeps_touch _ key _ charged

/-- An acquire of another key leaves the bucket alone, or evicts it for want of room. -/
theorem Follows.acquire_other {other : Str} (follows : l.Follows key log clock since)
    (later : clock ≤ now) (different : other ≠ key) :
    (l.acquire other now).2.Follows key log now (since.map (insert other)) := by
  obtain ⟨capacity, refill⟩ := l.acquire_rates other now
  refine ⟨follows.bounded.acquire other now, ?_, fun unused => ?_⟩
  · have keeps : l.Keeps key (l.Charged log now) since := by
      intro keys used few
      obtain ⟨state, holds, tokens, past, recent⟩ := follows.keeps keys used few
      exact ⟨state, holds, tokens, past, recent.trans later⟩
    have same : (l.acquire other now).2.Charged log now = l.Charged log now := by
      funext state
      rw [Charged, Charged, capacity, refill]
    rw [same]
    exact keeps.acquire_other follows.bounded different now
  · obtain ⟨missing, rfl⟩ := follows.unused (Option.map_eq_none_iff.mp unused)
    refine ⟨?_, rfl⟩
    obtain ⟨new, touched⟩ := l.acquire_touch other now
    rw [touched, Lru.lookup_eq_none, Lru.touch, List.map_append]
    intro member
    rcases List.mem_append.mp member with before | last
    · have kept := (Lru.rest_sublist l.maxBuckets other l.buckets).map Prod.fst
      exact Lru.lookup_eq_none.mp missing (kept.subset before)
    · exact different (List.mem_singleton.mp last).symm

end Step

theorem answersTo_follows {l : TokenBucketLimiter} {key : Str} {log : List ℚ} {clock : ℚ}
    {since : Option (Finset Str)} {acquires : List Acquire} (follows : l.Follows key log clock since)
    (owed : Lru.Owed l.maxBuckets key since (acquires.map Acquire.key))
    (ordered : acquires.Pairwise (·.time ≤ ·.time)) (future : ∀ a ∈ acquires, clock ≤ a.time) :
    l.answersTo key acquires = answers l.capacity l.refill log
      ((acquires.filter (·.key = key)).map Acquire.time) := by
  induction acquires generalizing l log clock since with
  | nil => rfl
  | cons a rest ih =>
    obtain ⟨first, ordered⟩ := List.pairwise_cons.mp ordered
    obtain ⟨capacity, refill⟩ := l.acquire_rates a.key a.time
    have most := (l.acquire_buckets a.key a.time).1
    have later := future a (.head _)
    rw [answersTo_cons]
    by_cases mine : a.key = key
    · subst mine
      obtain ⟨answered, follows⟩ := follows.acquire_self owed.now later
      have rest := ih follows (most ▸ owed.self) ordered first
      rw [if_pos rfl, answered, rest, capacity, refill, List.filter_cons_of_pos (by simp)]
      rfl
    · have follows := follows.acquire_other later mine
      have rest := ih follows (most ▸ owed.other mine) ordered first
      rw [if_neg mine, rest, capacity, refill, List.filter_cons_of_neg (by simpa using mine)]

theorem follows_fresh {l : TokenBucketLimiter} (empty : l.buckets = []) (room : 0 < l.maxBuckets)
    (key : Str) (clock : ℚ) : l.Follows key [] clock none where
  bounded := ⟨room, empty ▸ Lru.wellFormed_nil l.maxBuckets⟩
  keeps := nofun
  unused _ := ⟨by rw [empty]; rfl, rfl⟩

theorem exists_before (acquires : List Acquire) : ∃ clock, ∀ a ∈ acquires, clock ≤ a.time := by
  induction acquires with
  | nil => exact ⟨0, by simp⟩
  | cons a rest ih =>
    obtain ⟨clock, before⟩ := ih
    refine ⟨min a.time clock, fun b member => ?_⟩
    rcases List.mem_cons.mp member with rfl | later
    · exact min_le_left _ _
    · exact (min_le_right _ _).trans (before b later)

/-- As long as fewer other keys than the bound come between two acquires of the key, it is
answered as by a private bucket of the same capacity and refill. -/
theorem bounded_refines_private {l : TokenBucketLimiter} (empty : l.buckets = [])
    (room : 0 < l.maxBuckets) {acquires : List Acquire}
    (ordered : acquires.Pairwise (·.time ≤ ·.time)) {key : Str}
    (close : Lru.Close l.maxBuckets key (acquires.map Acquire.key)) :
    l.answersTo key acquires = answers l.capacity l.refill []
      ((acquires.filter (·.key = key)).map Acquire.time) := by
  obtain ⟨clock, future⟩ := exists_before acquires
  exact answersTo_follows (follows_fresh empty room key clock) close.owed ordered future

def twoBuckets : TokenBucketLimiter :=
  { capacity := 1, refill := 1, maxBuckets := 2, capable := one_pos, flows := one_pos }

/-- The second visit of the first key comes too early. -/
def visits : List Acquire :=
  [⟨"a".toList, 0⟩, ⟨"b".toList, 0⟩, ⟨"a".toList, 1 / 2⟩, ⟨"b".toList, 1⟩, ⟨"a".toList, 2⟩]

theorem visits_ordered : visits.Pairwise (·.time ≤ ·.time) := by
  norm_num [visits]

theorem bounded_refines_private_visits :
    twoBuckets.answersTo "a".toList visits =
        answers (1 : ℚ) 1 [] ((visits.filter (·.key = "a".toList)).map Acquire.time) ∧
      twoBuckets.answersTo "a".toList visits = [(true, 0), (false, 1 / 2), (true, 0)] :=
  ⟨bounded_refines_private rfl (by decide) visits_ordered (Lru.close_of_few (by decide)), by decide +kernel⟩

/-! ## Windows -/

/-- How many of the key's acquires in the window were allowed. -/
def allowedWithin (l : TokenBucketLimiter) (key : Str) (s t : ℚ) (acquires : List Acquire) : Nat :=
  (l.answered acquires).countP fun answer =>
    answer.1.key = key ∧ answer.1.within s t ∧ answer.2.1 = true

/-- `count` acquires were allowed from `s` on, and what the bucket has left is no more than
what the quota of the window has. -/
structure Spent (l : TokenBucketLimiter) (key : Str) (s : ℚ) (count : Nat) (clock : ℚ)
    (since : Option (Finset Str)) : Prop where
  bounded : l.Bounded
  keeps : l.Keeps key
    (fun state => count + state.tokens ≤ l.capacity + l.refill * (state.lastRefill - s)) since
  within : count ≤ l.capacity + l.refill * (clock - s)
  unused : since = none → count = 0

section Spent
variable {l : TokenBucketLimiter} {key : Str} {s clock now : ℚ} {count : Nat}
  {since : Option (Finset Str)}

/-- From `s` on there is no more than one full bucket and what flowed in since. -/
theorem Spent.available (spent : l.Spent key s count clock since)
    (near : ∀ keys ∈ since, keys.card < l.maxBuckets) (started : s ≤ now) :
    count + l.available key now ≤ l.capacity + l.refill * (now - s) := by
  have gain : 0 ≤ l.refill * (now - s) := mul_nonneg l.flows.le (sub_nonneg.mpr started)
  cases since with
  | none =>
    have full : l.available key now ≤ l.capacity := by
      rw [TokenBucketLimiter.available]
      split
      · exact le_rfl
      · exact min_le_left _ _
    rw [spent.unused rfl, Nat.cast_zero]
    linarith
  | some keys =>
    obtain ⟨state, found, left⟩ :=
      Lru.Keeps.lookup spent.keeps spent.bounded.wellFormed (near keys rfl)
    have refilled : l.available key now ≤ state.tokens + (now - state.lastRefill) * l.refill := by
      rw [TokenBucketLimiter.available, found]
      exact min_le_right _ _
    have parts : l.refill * (now - s) =
        l.refill * (state.lastRefill - s) + (now - state.lastRefill) * l.refill := by ring
    linarith

theorem Spent.acquire_self (spent : l.Spent key s count clock since)
    (near : ∀ keys ∈ since, keys.card < l.maxBuckets) (started : s ≤ now) (later : clock ≤ now) :
    (l.acquire key now).2.Spent key s (count + (l.acquire key now).1.1.toNat) now (some ∅) := by
  have left := spent.available near started
  have bounded := spent.bounded.acquire key now
  obtain ⟨token, acquired⟩ | ⟨token, acquired⟩ := l.acquire_cases key now
  · rw [acquired] at bounded ⊢
    refine ⟨bounded, ?_, ?_, nofun⟩
    · rw [Keeps, store_buckets]
      refine Lru.keeps_touch _ key _ ?_
      simp only [store, Bool.toNat_true, Nat.cast_add, Nat.cast_one]
      linarith
    · simp only [store, Bool.toNat_true, Nat.cast_add, Nat.cast_one]
      linarith
  · rw [acquired] at bounded ⊢
    refine ⟨bounded, ?_, ?_, nofun⟩
    · rw [Keeps, store_buckets]
      exact Lru.keeps_touch _ key _ left
    · have flow := mul_le_mul_of_nonneg_left (sub_le_sub_right later s) l.flows.le
      simp only [store, Bool.toNat_false, Nat.add_zero]
      linarith [spent.within]

theorem Spent.acquire_other {other : Str} (spent : l.Spent key s count clock since)
    (later : clock ≤ now) (different : other ≠ key) :
    (l.acquire other now).2.Spent key s count now (since.map (insert other)) := by
  obtain ⟨capacity, refill⟩ := l.acquire_rates other now
  have flow := mul_le_mul_of_nonneg_left (sub_le_sub_right later s) l.flows.le
  refine ⟨spent.bounded.acquire other now, ?_, ?_, fun unused => ?_⟩
  · rw [capacity, refill]
    exact spent.keeps.acquire_other spent.bounded different now
  · rw [capacity, refill]
    linarith [spent.within]
  · exact spent.unused (Option.map_eq_none_iff.mp unused)

end Spent

/-- How many of the key's acquires were allowed. -/
def allowedTo (l : TokenBucketLimiter) (key : Str) (acquires : List Acquire) : Nat :=
  (l.answersTo key acquires).countP Prod.fst

theorem allowedTo_spent {l : TokenBucketLimiter} {key : Str} {s t clock : ℚ} {count : Nat}
    {since : Option (Finset Str)} {acquires : List Acquire} (spent : l.Spent key s count clock since)
    (owed : Lru.Owed l.maxBuckets key since (acquires.map Acquire.key))
    (ordered : acquires.Pairwise (·.time ≤ ·.time))
    (during : ∀ a ∈ acquires, s ≤ a.time ∧ clock ≤ a.time ∧ a.time ≤ t) (final : clock ≤ t) :
    (count + l.allowedTo key acquires : ℚ) ≤ l.capacity + l.refill * (t - s) := by
  induction acquires generalizing l count clock since with
  | nil =>
    have flow := mul_le_mul_of_nonneg_left (sub_le_sub_right final s) l.flows.le
    have none_left : l.allowedTo key [] = 0 := rfl
    rw [none_left, Nat.cast_zero]
    linarith [spent.within]
  | cons a rest ih =>
    obtain ⟨first, ordered⟩ := List.pairwise_cons.mp ordered
    obtain ⟨started, later, ended⟩ := during a (.head _)
    obtain ⟨capacity, refill⟩ := l.acquire_rates a.key a.time
    have most := (l.acquire_buckets a.key a.time).1
    have inside : ∀ b ∈ rest, s ≤ b.time ∧ a.time ≤ b.time ∧ b.time ≤ t := fun b member =>
      ⟨(during b (.tail _ member)).1, first b member, (during b (.tail _ member)).2.2⟩
    by_cases mine : a.key = key
    · subst mine
      have spent := spent.acquire_self owed.now started later
      have total := ih spent (most ▸ owed.self) ordered inside ended
      rw [capacity, refill] at total
      have added : l.allowedTo a.key (a :: rest) = (l.acquire a.key a.time).1.1.toNat +
          (l.acquire a.key a.time).2.allowedTo a.key rest := by
        rw [allowedTo, answersTo_cons, if_pos rfl, List.countP_cons, Nat.add_comm]
        cases (l.acquire a.key a.time).1.1 <;> rfl
      rw [added]
      push_cast at total ⊢
      linarith
    · have spent := spent.acquire_other later mine
      have total := ih spent (most ▸ owed.other mine) ordered inside ended
      rw [capacity, refill] at total
      have same : l.allowedTo key (a :: rest) = (l.acquire a.key a.time).2.allowedTo key rest := by
        rw [allowedTo, answersTo_cons, if_neg mine]
        rfl
      rw [same]
      exact total

/-- In a sorted list what comes early stands first. -/
theorem filter_append_filter_not {acquires : List Acquire} (early : Acquire → Bool)
    (ordered : acquires.Pairwise (·.time ≤ ·.time))
    (down : ∀ a b : Acquire, a.time ≤ b.time → early b = true → early a = true) :
    acquires.filter early ++ acquires.filter (fun a => !early a) = acquires := by
  induction acquires with
  | nil => rfl
  | cons a rest ih =>
    obtain ⟨first, ordered⟩ := List.pairwise_cons.mp ordered
    cases begun : early a with
    | true =>
      rw [List.filter_cons_of_pos begun, List.filter_cons_of_neg (by simp [begun]),
        List.cons_append, ih ordered]
    | false =>
      have late : ∀ b ∈ a :: rest, early b = false := by
        intro b member
        rcases List.mem_cons.mp member with rfl | member
        · exact begun
        · by_contra isEarly
          exact Bool.false_ne_true (begun.symm.trans
            (down a b (first b member) (Bool.not_eq_false _ ▸ isEarly)))
      rw [List.filter_eq_nil_iff.mpr fun b member => by simp [late b member],
        List.filter_eq_self.mpr fun b member => by simp [late b member], List.nil_append]

/-- The acquires of a window stand together. -/
theorem window_split {acquires : List Acquire} (ordered : acquires.Pairwise (·.time ≤ ·.time))
    (s t : ℚ) : ∃ before after, acquires = before ++ (acquires.filter (·.within s t) ++ after) ∧
      ∀ a ∈ before ++ after, a.within s t = false := by
  have begun := filter_append_filter_not (fun a => a.time < s) ordered
    fun a b le early => by simpa using le.trans_lt (by simpa using early)
  have ended := filter_append_filter_not (fun a => a.time ≤ t)
    (ordered.filter fun a => !decide (a.time < s))
    fun a b le early => by simpa using le.trans (by simpa using early)
  have inside : (acquires.filter fun a => !decide (a.time < s)).filter (fun a => a.time ≤ t) =
      acquires.filter (·.within s t) := by
    rw [List.filter_filter]
    refine List.filter_congr fun a _ => ?_
    by_cases early : a.time < s <;> simp [Acquire.within, early, not_lt.mp, not_le.mpr]
  rw [inside] at ended
  refine ⟨acquires.filter fun a => a.time < s, (acquires.filter fun a => !decide (a.time < s)).filter
    fun a => !decide (a.time ≤ t), ?_, fun a outside => ?_⟩
  · rw [ended, begun]
  · simp only [List.mem_append, List.mem_filter, Bool.not_eq_true', decide_eq_true_eq,
      decide_eq_false_iff_not] at outside
    rw [Acquire.within, decide_eq_false_iff_not]
    rintro ⟨started, final⟩
    rcases outside with ⟨_, early⟩ | ⟨_, late⟩
    · exact not_le.mpr early started
    · exact late final

/-- The limiter after the acquires. -/
def after (l : TokenBucketLimiter) (acquires : List Acquire) : TokenBucketLimiter :=
  (Transducer.run acquireNext l acquires).1

theorem answered_append (l : TokenBucketLimiter) (first second : List Acquire) :
    l.answered (first ++ second) = l.answered first ++ (l.after first).answered second := by
  rw [answered, Transducer.run_append]
  rfl

theorem answered_fst (l : TokenBucketLimiter) (acquires : List Acquire) :
    ∀ answer ∈ l.answered acquires, answer.1 ∈ acquires := by
  induction acquires generalizing l with
  | nil => simp [answered]
  | cons a rest ih =>
    intro answer member
    rw [answered_cons] at member
    rcases List.mem_cons.mp member with rfl | later
    · exact .head _
    · exact .tail _ (ih _ answer later)

theorem after_rates (l : TokenBucketLimiter) (acquires : List Acquire) :
    (l.after acquires).capacity = l.capacity ∧ (l.after acquires).refill = l.refill ∧
      (l.after acquires).maxBuckets = l.maxBuckets :=
  ⟨Transducer.run_unchanged (fun l a => (l.acquire_rates a.key a.time).1) l acquires,
    Transducer.run_unchanged (fun l a => (l.acquire_rates a.key a.time).2) l acquires,
    Transducer.run_unchanged (fun l a => (l.acquire_buckets a.key a.time).1) l acquires⟩

theorem Bounded.after {l : TokenBucketLimiter} (bounded : l.Bounded) (acquires : List Acquire) :
    (l.after acquires).Bounded :=
  Transducer.run_keeps (fun _ a _ bounded => bounded.acquire a.key a.time) bounded

theorem allowedWithin_outside {l : TokenBucketLimiter} {key : Str} {s t : ℚ}
    {acquires : List Acquire} (outside : ∀ a ∈ acquires, a.within s t = false) :
    l.allowedWithin key s t acquires = 0 := by
  refine List.countP_eq_zero.mpr fun answer member => ?_
  simp [outside answer.1 (l.answered_fst acquires answer member)]

theorem allowedWithin_inside {l : TokenBucketLimiter} {key : Str} {s t : ℚ}
    {acquires : List Acquire} (inside : ∀ a ∈ acquires, a.within s t = true) :
    l.allowedWithin key s t acquires = l.allowedTo key acquires := by
  rw [allowedWithin, allowedTo, answersTo, List.countP_map, List.countP_filter]
  refine List.countP_congr fun answer member => ?_
  simp [inside answer.1 (l.answered_fst acquires answer member), and_comm]

theorem allowedWithin_append (l : TokenBucketLimiter) (key : Str) (s t : ℚ)
    (first second : List Acquire) : l.allowedWithin key s t (first ++ second) =
      l.allowedWithin key s t first + (l.after first).allowedWithin key s t second := by
  rw [allowedWithin, answered_append, List.countP_append]
  rfl

/-- In a window in which fewer other keys than the bound come between two acquires of the key,
no more of its acquires are allowed than the capacity and what flows in. -/
theorem window_bound {l : TokenBucketLimiter} (empty : l.buckets = []) (room : 0 < l.maxBuckets)
    {acquires : List Acquire} (ordered : acquires.Pairwise (·.time ≤ ·.time)) {key : Str} {s width : ℚ}
    (forward : 0 ≤ width) (close : Lru.Close l.maxBuckets key
      ((acquires.filter (·.within s (s + width))).map Acquire.key)) :
    (l.allowedWithin key s (s + width) acquires : ℚ) ≤ l.capacity + l.refill * width := by
  obtain ⟨before, after, split, outside⟩ := window_split ordered s (s + width)
  have inside : ∀ a ∈ acquires.filter (·.within s (s + width)), a.within s (s + width) = true :=
    fun a member => (List.mem_filter.mp member).2
  have ordered := ordered.filter (·.within s (s + width))
  obtain ⟨capacity, refill, most⟩ := l.after_rates before
  have counted : l.allowedWithin key s (s + width) acquires =
      (l.after before).allowedTo key (acquires.filter (·.within s (s + width))) := by
    rw [split, allowedWithin_append, allowedWithin_append,
      allowedWithin_outside fun a member => outside a (List.mem_append_left _ member),
      allowedWithin_outside fun a member => outside a (List.mem_append_right _ member), ← split,
      allowedWithin_inside inside, Nat.zero_add, Nat.add_zero]
  have bounded : l.Bounded := ⟨room, empty ▸ Lru.wellFormed_nil l.maxBuckets⟩
  have spent : (l.after before).Spent key s 0 s none := by
    refine ⟨bounded.after before, nofun, ?_, fun _ => rfl⟩
    simpa using (l.after before).capable.le
  have total := allowedTo_spent spent (most.symm ▸ close.owed) ordered (t := s + width)
    (fun a member => by simpa [Acquire.within] using inside a member) (by linarith)
  rw [capacity, refill, Nat.cast_zero, zero_add, add_sub_cancel_left] at total
  rw [counted]
  exact total

theorem window_bound_visits :
    twoBuckets.allowedWithin "a".toList 0 (0 + 2) visits = 2 ∧
      (twoBuckets.allowedWithin "a".toList 0 (0 + 2) visits : ℚ) ≤ twoBuckets.capacity + 1 * 2 :=
  ⟨by decide +kernel, window_bound rfl (by decide) visits_ordered (by norm_num)
    (Lru.close_of_few (by decide +kernel))⟩

end TokenBucketLimiter
end OrchidApi
