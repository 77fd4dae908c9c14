import OrchidApi.Limiter
import OrchidApi.Transducer

/-! Any interleaving of requests to the two message endpoints, against the one quota that
limits of the same name are meant to share. -/
namespace OrchidApi
open Text TokenBucket

/-! ## The two endpoints -/

/-- The request counts against the bucket key of the identity. -/
def Arrival.charged (auth : AuthContext) (q : Arrival) : Bool :=
  bucketKey messagesLimit q.auth = bucketKey messagesLimit auth

/-- The admissions charged to the identity, newest first. -/
def chargeLog (auth : AuthContext) (admitted : List Arrival) : List ℚ :=
  ((admitted.filter (·.charged auth)).map Arrival.time).reverse

def routeLog (auth : AuthContext) (route : MessageRoute) (admitted : List Arrival) : List ℚ :=
  chargeLog auth (admitted.filter (·.route = route))

theorem chargeLog_concat (auth : AuthContext) (admitted : List Arrival) (q : Arrival) :
    chargeLog auth (admitted ++ [q]) =
      if q.charged auth then q.time :: chargeLog auth admitted else chargeLog auth admitted := by
  cases charged : q.charged auth <;> simp [chargeLog, List.filter_append, charged]

theorem routeLog_concat (auth : AuthContext) (route : MessageRoute) (admitted : List Arrival)
    (q : Arrival) :
    routeLog auth route (admitted ++ [q]) =
      if q.route = route ∧ q.charged auth then q.time :: routeLog auth route admitted
      else routeLog auth route admitted := by
  by_cases here : q.route = route <;>
    simp [routeLog, List.filter_append, here, chargeLog_concat]

theorem routeLog_sublist (auth : AuthContext) (route : MessageRoute) (admitted : List Arrival) :
    (routeLog auth route admitted).Sublist (chargeLog auth admitted) :=
  ((List.filter_sublist.filter _).map _).reverse

/-- Both endpoints run the limit at `calls` per minute, each with its own limiter, whose
bucket for the identity has been charged for the endpoint's own admissions. -/
def Separate (calls : ℚ) (auth : AuthContext) (limits : MessageLimits) (admitted : List Arrival)
    (clock : ℚ) : Prop :=
  ∀ route, (limits.on route).name = messagesLimit ∧ ∃ l, (limits.on route).bucket = some l ∧
    l.capacity = calls ∧ l.refill = calls / 60 ∧
    l.Tracks (bucketKey messagesLimit auth) (routeLog auth route admitted) clock

/-- The request evicts no bucket of its endpoint's limiter. -/
def MessageLimits.Roomy (limits : MessageLimits) (q : Arrival) : Prop :=
  ∀ l, (limits.on q.route).bucket = some l → l.Roomy (bucketKey messagesLimit q.auth)

/-- The tokens that the request finds in the bucket of its own endpoint. -/
def MessageLimits.available (limits : MessageLimits) (auth : AuthContext) (q : Arrival) : ℚ :=
  match (limits.on q.route).bucket with
  | some l => l.available (bucketKey messagesLimit auth) q.time
  | none => 1

@[simp] theorem replace_on (limits : MessageLimits) (limit : RateLimit) (route : MessageRoute) :
    (limits.replace limit route).on route = limit := by cases route <;> rfl

theorem replace_on_other (limits : MessageLimits) (limit : RateLimit) {route other : MessageRoute}
    (different : other ≠ route) : (limits.replace limit route).on other = limits.on other := by
  cases route <;> cases other <;> first | rfl | exact absurd rfl different

/-- Each endpoint starts with an empty limiter of its own. -/
theorem import_fresh {calls : Int} {limits : MessageLimits} (positive : 0 < calls)
    (imported : importLimits calls = .ok limits) (route : MessageRoute) :
    (limits.on route).name = messagesLimit ∧ ∃ l, (limits.on route).bucket = some l ∧
      l.capacity = calls ∧ l.refill = calls / 60 ∧ l.maxBuckets = 10000 ∧ l.buckets = [] := by
  cases built : rateLimit messagesLimit calls 60 with
  | error error => simp [importLimits, built] at imported
  | ok limit =>
    simp only [importLimits, built] at imported
    obtain rfl := Except.ok.inj imported
    cases route <;> exact rateLimit_fresh positive built

theorem import_separate {calls : Int} {limits : MessageLimits} (auth : AuthContext) (clock : ℚ)
    (positive : 0 < calls) (imported : importLimits calls = .ok limits) :
    Separate calls auth limits [] clock := by
  intro route
  obtain ⟨named, l, bucket, capacity, refill, _, empty⟩ := import_fresh positive imported route
  refine ⟨named, l, bucket, capacity, refill, ?_⟩
  rw [TokenBucketLimiter.Tracks, empty]
  rfl

theorem arrive_eq {limits : MessageLimits} {q : Arrival} {l : TokenBucketLimiter}
    (named : (limits.on q.route).name = messagesLimit)
    (bucket : (limits.on q.route).bucket = some l) :
    limits.arrive q = (limits.replace { limits.on q.route with
        bucket := some (l.acquire (bucketKey messagesLimit q.auth) q.time).2 } q.route,
      if (l.acquire (bucketKey messagesLimit q.auth) q.time).1.1 then [q] else []) := by
  simp only [MessageLimits.arrive, RateLimit.enforce, bucket, named]
  congr 1
  cases (l.acquire (bucketKey messagesLimit q.auth) q.time).1.1 <;> rfl

theorem arrive_emits (limits : MessageLimits) (q : Arrival) :
    (limits.arrive q).2 = [q] ∨ (limits.arrive q).2 = [] := by
  rw [MessageLimits.arrive]
  dsimp only
  split
  · exact .inl rfl
  · exact .inr rfl

theorem Separate.later {calls : ℚ} {auth : AuthContext} {limits : MessageLimits}
    {admitted : List Arrival} {clock now : ℚ} (separate : Separate calls auth limits admitted clock)
    (later : clock ≤ now) : Separate calls auth limits admitted now := by
  intro route
  obtain ⟨named, l, bucket, capacity, refill, tracks⟩ := separate route
  exact ⟨named, l, bucket, capacity, refill, tracks.later later⟩

section Step
variable {calls : ℚ} {auth : AuthContext} {limits : MessageLimits} {admitted : List Arrival}
  {clock : ℚ} {q : Arrival}

/-- What happens at one endpoint leaves the other endpoint's bucket as it was. -/
theorem separate_arrive (separate : Separate calls auth limits admitted clock)
    (later : clock ≤ q.time) {l : TokenBucketLimiter}
    (bucket : (limits.on q.route).bucket = some l) {log : List Arrival}
    (elsewhere : ∀ route, route ≠ q.route → routeLog auth route log = routeLog auth route admitted)
    (tracks : (l.acquire (bucketKey messagesLimit q.auth) q.time).2.Tracks
      (bucketKey messagesLimit auth) (routeLog auth q.route log) q.time) :
    Separate calls auth (limits.arrive q).1 log q.time := by
  obtain ⟨named, l', same, capacity, refill, _⟩ := separate q.route
  obtain rfl : l = l' := Option.some.inj (bucket.symm.trans same)
  rw [arrive_eq named bucket]
  intro route
  by_cases here : route = q.route
  · subst here
    obtain ⟨capacities, refills⟩ := l.acquire_rates (bucketKey messagesLimit q.auth) q.time
    rw [replace_on]
    exact ⟨named, _, rfl, capacities.trans capacity, refills.trans refill, tracks⟩
  · obtain ⟨named, other, bucket, capacity, refill, tracks⟩ := separate route
    rw [replace_on_other _ _ here, elsewhere route here]
    exact ⟨named, other, bucket, capacity, refill, tracks.later later⟩

theorem arrive_other (separate : Separate calls auth limits admitted clock)
    (later : clock ≤ q.time) (roomy : limits.Roomy q) (foreign : q.charged auth = false) :
    Separate calls auth (limits.arrive q).1 (admitted ++ (limits.arrive q).2) q.time ∧
      chargeLog auth (admitted ++ (limits.arrive q).2) = chargeLog auth admitted := by
  obtain ⟨named, l, bucket, capacity, refill, tracks⟩ := separate q.route
  have different : bucketKey messagesLimit auth ≠ bucketKey messagesLimit q.auth := by
    intro same
    simp [Arrival.charged, same] at foreign
  have logs : chargeLog auth (admitted ++ (limits.arrive q).2) = chargeLog auth admitted ∧
      ∀ route, routeLog auth route (admitted ++ (limits.arrive q).2) =
        routeLog auth route admitted := by
    rcases arrive_emits limits q with sent | sent
    · rw [sent]
      exact ⟨by simp [chargeLog_concat, foreign], fun route => by simp [routeLog_concat, foreign]⟩
    · simp [sent]
  refine ⟨separate_arrive separate later bucket (fun route _ => logs.2 route) ?_, logs.1⟩
  rw [logs.2]
  exact TokenBucketLimiter.acquire_other tracks later (roomy l bucket) different

/-- A request of the identity is admitted by its endpoint's own bucket. -/
theorem arrive_charged (separate : Separate calls auth limits admitted clock)
    (later : clock ≤ q.time) (past : ∀ a ∈ chargeLog auth admitted, a ≤ q.time)
    (charged : q.charged auth = true) :
    Separate calls auth (limits.arrive q).1 (admitted ++ (limits.arrive q).2) q.time ∧
      limits.available auth q = level calls (calls / 60) (routeLog auth q.route admitted) q.time ∧
      (limits.arrive q).2 = if 1 ≤ limits.available auth q then [q] else [] := by
  obtain ⟨named, l, bucket, rfl, refill, tracks⟩ := separate q.route
  have key : bucketKey messagesLimit q.auth = bucketKey messagesLimit auth := by
    simpa [Arrival.charged] using charged
  have found : limits.available auth q =
      level l.capacity (l.capacity / 60) (routeLog auth q.route admitted) q.time := by
    rw [← refill, ← TokenBucketLimiter.available_eq tracks later]
    simp [MessageLimits.available, bucket]
  obtain ⟨answered, charged_bucket⟩ := TokenBucketLimiter.acquire_self tracks later
    (fun a member => past a ((routeLog_sublist auth q.route admitted).subset member))
  rw [refill, answer, ← found] at answered
  rw [refill, charge, ← found] at charged_bucket
  have emitted : (limits.arrive q).2 = if 1 ≤ limits.available auth q then [q] else [] := by
    rw [arrive_eq named bucket, key, answered]
    by_cases token : 1 ≤ limits.available auth q <;> simp [token]
  refine ⟨separate_arrive separate later bucket (fun route away => ?_) ?_, found, emitted⟩
  · rw [emitted]
    split
    · simp [routeLog_concat, away.symm]
    · simp
  · rw [key, emitted]
    split
    · rename_i token
      simpa [routeLog_concat, charged, token] using charged_bucket
    · rename_i token
      simpa [token] using charged_bucket

end Step

/-! ## Whole runs -/

/-- The limits and the admitted requests after a run. -/
def limitsAfter (limits : MessageLimits) (run : List Arrival) : MessageLimits :=
  (Transducer.run MessageLimits.arrive limits run).1

def admittedIn (limits : MessageLimits) (run : List Arrival) : List Arrival :=
  (Transducer.run MessageLimits.arrive limits run).2

/-- Requests come in the order of the clock, and none evicts a bucket. -/
structure Timely (limits : MessageLimits) (run : List Arrival) : Prop where
  ordered : run.Pairwise (·.time ≤ ·.time)
  roomy : ∀ before q after, run = before ++ q :: after → (limitsAfter limits before).Roomy q

/-- At most `calls` and what a minute's share adds are admitted in every window. -/
def OneQuota (calls : ℚ) (times : List ℚ) : Prop :=
  ∀ s T, 0 ≤ T →
    (times.countP fun a => decide (s ≤ a ∧ a ≤ s + T) : ℚ) ≤ calls + calls * T / 60

/-- The tokens that a bucket has by now which has served just these requests. -/
def tokensLeft (calls : ℚ) (log : List ℚ) (now : ℚ) : ℚ :=
  level calls (calls / 60) (granted calls (calls / 60) log) now

/-- Where a bucket serving the identity's earlier requests to the same endpoint has a token, one
serving those to both endpoints has one too. -/
def NoExtraToken (calls : ℚ) (auth : AuthContext) (run : List Arrival) : Prop :=
  ∀ before q after, run = before ++ q :: after → q.charged auth = true →
    1 ≤ tokensLeft calls (routeLog auth q.route before) q.time →
      1 ≤ tokensLeft calls (chargeLog auth before) q.time

theorem oneQuota_iff (calls : ℚ) (times : List ℚ) :
    OneQuota calls times ↔ WithinQuota calls (calls / 60) times.reverse := by
  unfold OneQuota WithinQuota
  simp only [List.countP_reverse]
  constructor
  · intro quota s t ordered
    have window := quota s (t - s) (by linarith)
    rw [show s + (t - s) = t by ring] at window
    linarith
  · intro quota s T positive
    have window := quota s (s + T) (by linarith)
    linarith

section Run
variable {calls : Int} {auth : AuthContext} {limits : MessageLimits}

theorem limitsAfter_concat (run : List Arrival) (q : Arrival) :
    limitsAfter limits (run ++ [q]) = ((limitsAfter limits run).arrive q).1 := by
  rw [limitsAfter, Transducer.run_concat]
  rfl

theorem admittedIn_concat (run : List Arrival) (q : Arrival) :
    admittedIn limits (run ++ [q]) =
      admittedIn limits run ++ ((limitsAfter limits run).arrive q).2 := by
  rw [admittedIn, Transducer.run_concat]
  rfl

theorem timely_concat {run : List Arrival} {q : Arrival} (timely : Timely limits (run ++ [q])) :
    Timely limits run ∧ (∀ earlier ∈ run, earlier.time ≤ q.time) ∧
      (limitsAfter limits run).Roomy q := by
  obtain ⟨ordered, roomy⟩ := timely
  obtain ⟨earlier, _, past⟩ := List.pairwise_append.mp ordered
  obtain ⟨before, last⟩ := (Transducer.forall_place_concat run q).mp roomy
  exact ⟨⟨earlier, before⟩, fun e member => past e member q (by simp), last⟩

theorem chargeLog_sorted (auth : AuthContext) {run : List Arrival}
    (ordered : run.Pairwise (·.time ≤ ·.time)) : (chargeLog auth run).Pairwise (· ≥ ·) := by
  rw [chargeLog, List.pairwise_reverse, List.pairwise_map]
  exact ordered.filter _

theorem admittedIn_sublist (run : List Arrival) : (admittedIn limits run).Sublist run := by
  refine Transducer.run_sublist (fun limits q => ?_) limits run
  simp only [MessageLimits.arrive]
  split <;> simp

theorem charged_past {run : List Arrival} {now : ℚ} (past : ∀ e ∈ run, e.time ≤ now) :
    ∀ a ∈ chargeLog auth (admittedIn limits run), a ≤ now := by
  intro a member
  simp only [chargeLog, List.mem_reverse, List.mem_map, List.mem_filter] at member
  obtain ⟨q, ⟨inside, _⟩, rfl⟩ := member
  exact past q ((admittedIn_sublist run).subset inside)

theorem separate_run (positive : 0 < calls) (imported : importLimits calls = .ok limits)
    (run : List Arrival) (timely : Timely limits run) {now : ℚ} (past : ∀ e ∈ run, e.time ≤ now) :
    Separate calls auth (limitsAfter limits run) (admittedIn limits run) now := by
  induction run using List.reverseRecOn generalizing now with
  | nil => exact import_separate auth now positive imported
  | append_singleton run q ih =>
    obtain ⟨timely, earlier, roomy⟩ := timely_concat timely
    have before := ih timely earlier
    rw [limitsAfter_concat, admittedIn_concat]
    refine Separate.later ?_ (past q (by simp))
    cases charged : q.charged auth with
    | false => exact (arrive_other before le_rfl roomy charged).1
    | true => exact (arrive_charged before le_rfl (charged_past earlier) charged).1

/-- Each endpoint admits of its own requests what one bucket grants to them. -/
theorem granted_routeLog (positive : 0 < calls) (imported : importLimits calls = .ok limits)
    (run : List Arrival) (timely : Timely limits run) (route : MessageRoute) :
    granted (calls : ℚ) (calls / 60) (routeLog auth route run) =
      routeLog auth route (admittedIn limits run) := by
  induction run using List.reverseRecOn with
  | nil => rfl
  | append_singleton run q ih =>
    obtain ⟨timely, earlier, roomy⟩ := timely_concat timely
    have same := ih timely
    have separate : Separate calls auth (limitsAfter limits run) (admittedIn limits run) q.time :=
      separate_run positive imported run timely earlier
    rw [admittedIn_concat, routeLog_concat]
    cases charged : q.charged auth with
    | false =>
      rw [if_neg (by simp), same]
      rcases arrive_emits (limitsAfter limits run) q with sent | sent
      · rw [sent, routeLog_concat, if_neg (by simp [charged])]
      · rw [sent, List.append_nil]
    | true =>
      obtain ⟨_, found, emitted⟩ :=
        arrive_charged separate le_rfl (charged_past earlier) charged
      rw [emitted]
      by_cases here : q.route = route
      · subst here
        rw [if_pos ⟨rfl, rfl⟩, granted, same, ← found]
        split
        · rw [routeLog_concat, if_pos ⟨rfl, charged⟩]
        · rw [List.append_nil]
      · rw [if_neg fun own => here own.1, same]
        split
        · rw [routeLog_concat, if_neg fun own => here own.1]
        · rw [List.append_nil]

/-- As long as no extra token is found the admissions are those of the shared bucket. -/
theorem admissions_conform_iff (positive : 0 < calls) (imported : importLimits calls = .ok limits)
    (run : List Arrival) (timely : Timely limits run) :
    (NoExtraToken calls auth run ↔
        Conforms (calls : ℚ) (calls / 60) (chargeLog auth (admittedIn limits run))) ∧
      (NoExtraToken calls auth run →
        granted (calls : ℚ) (calls / 60) (chargeLog auth run) =
          chargeLog auth (admittedIn limits run)) := by
  have rate : (0 : ℚ) ≤ calls / 60 := by
    have : (0 : ℚ) < calls := Int.cast_pos.mpr positive
    positivity
  induction run using List.reverseRecOn with
  | nil => exact ⟨by simp [NoExtraToken, admittedIn, chargeLog, Conforms], fun _ => rfl⟩
  | append_singleton run q ih =>
    obtain ⟨timely, earlier, roomy⟩ := timely_concat timely
    obtain ⟨conform, same⟩ := ih timely
    have separate : Separate calls auth (limitsAfter limits run) (admittedIn limits run) q.time :=
      separate_run positive imported run timely earlier
    have last : NoExtraToken calls auth (run ++ [q]) ↔ NoExtraToken calls auth run ∧
        (q.charged auth = true → 1 ≤ tokensLeft calls (routeLog auth q.route run) q.time →
          1 ≤ tokensLeft calls (chargeLog auth run) q.time) :=
      Transducer.forall_place_concat run q
    rw [last, admittedIn_concat, chargeLog_concat]
    cases charged : q.charged auth with
    | false =>
      rw [(arrive_other separate le_rfl roomy charged).2]
      simpa using ⟨conform, same⟩
    | true =>
      obtain ⟨_, found, emitted⟩ :=
        arrive_charged separate le_rfl (charged_past earlier) charged
      have own : tokensLeft calls (routeLog auth q.route run) q.time =
          (limitsAfter limits run).available auth q := by
        rw [tokensLeft, granted_routeLog positive imported run timely, found]
      have less : level (calls : ℚ) (calls / 60) (chargeLog auth (admittedIn limits run)) q.time ≤
          (limitsAfter limits run).available auth q := by
        rw [found]
        exact level_sublist rate (routeLog_sublist auth q.route _)
          (chargeLog_sorted auth (timely.ordered.sublist (admittedIn_sublist run)))
          (charged_past earlier)
      rw [emitted, own]
      by_cases token : 1 ≤ (limitsAfter limits run).available auth q
      · simp only [token, ↓reduceIte, chargeLog_concat, charged, granted, Conforms, true_imp_iff, tokensLeft]
        constructor
        · constructor
          · rintro ⟨ordinary, shared⟩
            exact ⟨same ordinary ▸ shared, conform.mp ordinary⟩
          · rintro ⟨shared, conforms⟩
            have ordinary := conform.mpr conforms
            exact ⟨ordinary, (same ordinary).symm ▸ shared⟩
        · rintro ⟨ordinary, shared⟩
          rw [if_pos shared, same ordinary]
      · -- A bucket that shares its tokens with the other endpoint refuses as well.
        have refused : ¬1 ≤ level (calls : ℚ) (calls / 60)
            (chargeLog auth (admittedIn limits run)) q.time := fun shared => token (shared.trans less)
        simp only [token, ↓reduceIte, List.append_nil, granted, false_imp_iff, implies_true, and_true]
        refine ⟨conform, fun ordinary => ?_⟩
        rw [same ordinary, if_neg refused]

/-- The two endpoints together keep to the one quota exactly in the runs in which no
request finds a token that the shared bucket would not have. -/
theorem one_quota_iff (positive : 0 < calls) (imported : importLimits calls = .ok limits)
    (auth : AuthContext) (run : List Arrival) (timely : Timely limits run) :
    OneQuota calls (((admittedIn limits run).filter (·.charged auth)).map Arrival.time) ↔
      NoExtraToken calls auth run := by
  have capable : (0 : ℚ) < calls := Int.cast_pos.mpr positive
  rw [oneQuota_iff, (admissions_conform_iff positive imported run timely).1,
    conforms_iff_within (by positivity) capable.le
      (chargeLog_sorted auth (timely.ordered.sublist (admittedIn_sublist run)))]
  rfl

/-- A user of one endpoint only never finds an extra token. -/
theorem noExtraToken_of_one_route (calls : ℚ) (auth : AuthContext) (run : List Arrival) (route : MessageRoute)
    (alone : ∀ q ∈ run, q.charged auth = true → q.route = route) : NoExtraToken calls auth run := by
  rintro before q after rfl charged token
  have whole : routeLog auth q.route before = chargeLog auth before := by
    rw [routeLog, chargeLog, chargeLog, List.filter_filter]
    congr 2
    refine List.filter_congr fun p member => ?_
    cases own : p.charged auth with
    | false => rfl
    | true => simp [alone p (by simp [member]) own, alone q (by simp) charged]
  exact whole ▸ token

/-- Each request adds at most one bucket to its endpoint's map. -/
theorem buckets_bound (positive : 0 < calls) (imported : importLimits calls = .ok limits)
    (run : List Arrival) :
    ∀ route l, ((limitsAfter limits run).on route).bucket = some l →
      l.maxBuckets = 10000 ∧ l.buckets.length ≤ run.length := by
  induction run using List.reverseRecOn with
  | nil =>
    intro route l bucket
    obtain ⟨_, fresh, found, _, _, most, empty⟩ := import_fresh positive imported route
    obtain rfl : fresh = l := Option.some.inj (found.symm.trans bucket)
    exact ⟨most, by simp [empty]⟩
  | append_singleton run q ih =>
    intro route l bucket
    rw [limitsAfter_concat] at bucket
    by_cases here : route = q.route
    · subst here
      simp only [MessageLimits.arrive, replace_on, RateLimit.enforce] at bucket
      cases before : ((limitsAfter limits run).on q.route).bucket with
      | none => simp [before] at bucket
      | some old =>
        obtain ⟨most, few⟩ := ih q.route old before
        obtain ⟨same, grown⟩ := old.acquire_buckets (bucketKey
          ((limitsAfter limits run).on q.route).name q.auth) q.time
        simp only [before, Option.some.injEq] at bucket
        rw [List.length_append, List.length_singleton, ← bucket]
        exact ⟨same.trans most, by omega⟩
    · rw [MessageLimits.arrive, replace_on_other _ _ here] at bucket
      obtain ⟨most, few⟩ := ih route l bucket
      exact ⟨most, few.trans (by simp)⟩

/-- No run of ten thousand requests evicts a bucket. -/
theorem timely_of_short (positive : 0 < calls) (imported : importLimits calls = .ok limits) {run : List Arrival}
    (ordered : run.Pairwise (·.time ≤ ·.time)) (short : run.length ≤ 10000) : Timely limits run := by
  refine ⟨ordered, fun before q after split l bucket _ => ?_⟩
  obtain ⟨most, few⟩ := buckets_bound positive imported before q.route l bucket
  have longer : before.length < run.length := by simp [split]
  omega

end Run

/-- One request to each endpoint at the same moment. -/
def bothAtOnce : List Arrival := [
  ⟨.messages, { tenantKey := "t".toList, userId := "u".toList }, 0⟩,
  ⟨.stream, { tenantKey := "t".toList, userId := "u".toList }, 0⟩]

def oneCallLimits : MessageLimits :=
  ⟨⟨messagesLimit, 1, 60, some oneCall⟩, ⟨messagesLimit, 1, 60, some oneCall⟩⟩

theorem oneCallLimits_imported : importLimits 1 = .ok oneCallLimits := by
  simp [importLimits, rateLimit, TokenBucketLimiter.init, oneCallLimits, oneCall, Except.map]

theorem one_quota_iff_sample :
    OneQuota (1 : Int) (((admittedIn oneCallLimits bothAtOnce).filter
        (·.charged { tenantKey := "t".toList, userId := "u".toList })).map Arrival.time) ↔
      NoExtraToken (1 : Int) { tenantKey := "t".toList, userId := "u".toList } bothAtOnce :=
  one_quota_iff (by decide) oneCallLimits_imported _ bothAtOnce
    (timely_of_short (by decide) oneCallLimits_imported (by simp [bothAtOnce]) (by simp [bothAtOnce]))

/-- With a quota of one call a minute both requests are admitted within the same second. -/
theorem two_quotas :
    importLimits 1 = .ok oneCallLimits ∧ Timely oneCallLimits bothAtOnce ∧
      (∀ q ∈ bothAtOnce, q.auth = { tenantKey := "t".toList, userId := "u".toList }) ∧
      (admittedIn oneCallLimits bothAtOnce).map Arrival.time = [0, 0] ∧
      ¬OneQuota (1 : Int) ((admittedIn oneCallLimits bothAtOnce).map Arrival.time) := by
  have times : (admittedIn oneCallLimits bothAtOnce).map Arrival.time = [0, 0] := by decide
  have timely : Timely oneCallLimits bothAtOnce :=
    timely_of_short (by decide) oneCallLimits_imported (by simp [bothAtOnce]) (by simp [bothAtOnce])
  refine ⟨oneCallLimits_imported, timely, ?_, times, ?_⟩
  · simp [bothAtOnce]
  · rw [times]
    intro quota
    have window := quota 0 0 le_rfl
    norm_num at window

end OrchidApi
