import OrchidApi.Events

/-! `routers/_visibility.py`: the gates in front of the run and signal endpoints. Which run a
caller may see is decided outside, by `run_is_visible`. -/
namespace OrchidApi
open Text Async

def runNotFound : Exn := .http 404 "run not found".toList
def signalNotFound : Exn := .http 404 "signal not found".toList
def adminNotFound : Exn := .http 404 "not found".toList

def AuthContext.isAdmin (auth : AuthContext) : Bool := auth.roles.contains "admin".toList

/-- The `identity_claim` fallback: the user of record, else the user in the claim. -/
def Signal.names (signal : Signal) (auth : AuthContext) : Bool :=
  match signal.identityClaim.lookup "mode".toList with
  | some (.str mode) =>
    if mode = "act_as_user".toList ∨ mode = "addressed_to_user".toList then
      match signal.userId, signal.identityClaim.lookup "user_id".toList with
      | some (c :: rest), _ => c :: rest = auth.userId
      | _, some (.str user) => user = auth.userId
      | _, _ => false
    else false
  | _ => false

section Gates
variable (runIsVisible : JobRun → AuthContext → Bool)

def requireVisibleRun (runId : Str) (auth : AuthContext) : EventsHandler JobRun :=
  match Uuid.parse runId with
  | none => Events.raise runNotFound
  | some rid => do
    match ← Events.getRun rid with
    | none => Events.raise runNotFound
    | some run => if runIsVisible run auth then pure run else Events.raise runNotFound

def requireVisibleSignal (signalId : Str) (auth : AuthContext) : EventsHandler Signal :=
  match Uuid.parse signalId with
  | none => Events.raise signalNotFound
  | some sid => do
    match ← Events.getSignal sid with
    | none => Events.raise signalNotFound
    | some signal =>
      if signal.tenantKey ≠ auth.tenantKey then Events.raise signalNotFound
      else if auth.isAdmin then pure signal
      else do
        let runs ← Events.listRuns { limit := 200 }
        let matching := runs.filter (·.spec.signalId = sid)
        if matching ≠ [] ∧ matching.any (runIsVisible · auth) then pure signal
        else if signal.names auth then pure signal
        else Events.raise signalNotFound

end Gates

/-! ## Runs -/

namespace EventsWorld
variable (runIsVisible : JobRun → AuthContext → Bool)

/-- The run that the id addresses, if the caller may see it. -/
def visibleRun (w : EventsWorld) (auth : AuthContext) (runId : Str) : Option JobRun :=
  ((Uuid.parse runId).bind w.run).filter (runIsVisible · auth)

/-- The gate only reads, and has one answer for all it does not let through. -/
theorem serve_requireVisibleRun (b : EventsBackend) (w : EventsWorld) (runId : Str)
    (auth : AuthContext) :
    serveEvents b (requireVisibleRun runIsVisible runId auth) w =
      (match w.visibleRun runIsVisible auth runId with
        | some run => .ok run
        | none => .error runNotFound, w) := by
  rw [requireVisibleRun, visibleRun]
  cases Uuid.parse runId with
  | none => rfl
  | some rid =>
    rw [Option.bind_some]
    refine (serveEvents_bind_ok (serveEvents_await (.getRun rid))).trans ?_
    cases w.run rid with
    | none => rfl
    | some run =>
      cases visible : runIsVisible run auth <;> simp [visible, Option.filter]

/-! ## Signals -/

def addressedSignal (w : EventsWorld) (signalId : Str) : Option Signal :=
  (Uuid.parse signalId).bind w.signal

/-- Some run that the signal triggered is visible to the caller. -/
def ShowsRun (w : EventsWorld) (signal : Signal) (auth : AuthContext) : Prop :=
  ∃ run ∈ w.runs, run.spec.signalId = signal.signalId ∧ runIsVisible run auth = true

/-- The documented rule: in the caller's tenant, to admins, to whoever sees one of the runs,
and as long as there is no run to the user whom the identity claim names. -/
def SignalVisible (w : EventsWorld) (signal : Signal) (auth : AuthContext) : Prop :=
  signal.tenantKey = auth.tenantKey ∧ (auth.isAdmin = true ∨ w.ShowsRun runIsVisible signal auth ∨
    (∀ run ∈ w.runs, run.spec.signalId ≠ signal.signalId) ∧ signal.names auth = true)

/-- What the rule says about a request for the signal, whatever the id. -/
def SignalRule (w : EventsWorld) (signalId : Str) (auth : AuthContext)
    (outcome : Except Exn Signal) : Prop :=
  (∀ signal ∈ w.addressedSignal signalId, w.SignalVisible runIsVisible signal auth →
      outcome = .ok signal) ∧
    ((∀ signal ∈ w.addressedSignal signalId, ¬w.SignalVisible runIsVisible signal auth) →
      outcome = .error signalNotFound)

/-- The gate looks at the first two hundred runs of any signal. -/
def FirstShow (w : EventsWorld) (signal : Signal) (auth : AuthContext) : Prop :=
  ∃ run ∈ w.runs.take 200, run.spec.signalId = signal.signalId ∧ runIsVisible run auth = true

/-- Where the gate follows the rule. -/
def SignalCovered (w : EventsWorld) (signal : Signal) (auth : AuthContext) : Prop :=
  signal.tenantKey ≠ auth.tenantKey ∨ auth.isAdmin = true ∨
    if signal.names auth then
      w.ShowsRun runIsVisible signal auth ∨ ∀ run ∈ w.runs, run.spec.signalId ≠ signal.signalId
    else w.ShowsRun runIsVisible signal auth → w.FirstShow runIsVisible signal auth

instance (w : EventsWorld) (signal : Signal) (auth : AuthContext) :
    Decidable (w.FirstShow runIsVisible signal auth) :=
  inferInstanceAs (Decidable (∃ run ∈ w.runs.take 200, _))

theorem listRuns_all (w : EventsWorld) (limit : Nat) : w.listRuns { limit } = w.runs.take limit := by
  simp [listRuns, matchingRuns, RunQuery.Matches]

theorem serve_requireVisibleSignal (b : EventsBackend) (w : EventsWorld) (signalId : Str)
    (auth : AuthContext) :
    serveEvents b (requireVisibleSignal runIsVisible signalId auth) w =
      (match w.addressedSignal signalId with
        | some signal =>
          if signal.tenantKey = auth.tenantKey ∧ (auth.isAdmin = true ∨
              w.FirstShow runIsVisible signal auth ∨ signal.names auth = true) then .ok signal
          else .error signalNotFound
        | none => .error signalNotFound, w) := by
  rw [requireVisibleSignal, addressedSignal]
  cases Uuid.parse signalId with
  | none => rfl
  | some sid =>
    rw [Option.bind_some]
    refine (serveEvents_bind_ok (serveEvents_await (.getSignal sid))).trans ?_
    cases found : w.signal sid with
    | none => rfl
    | some signal =>
      have same : signal.signalId = sid := by
        simpa using List.find?_some found
      by_cases tenant : signal.tenantKey = auth.tenantKey
      · by_cases admin : auth.isAdmin = true
        · simp [tenant, admin]
        · simp only [tenant, ne_eq, not_true_eq_false, ↓reduceIte, admin, Bool.false_eq_true,
            false_or, true_and]
          refine (serveEvents_bind_ok (serveEvents_await (.listRuns { limit := 200 }))).trans ?_
          have shown : ((w.listRuns { limit := 200 }).filter (·.spec.signalId = sid) ≠ [] ∧
              ((w.listRuns { limit := 200 }).filter (·.spec.signalId = sid)).any
                (runIsVisible · auth) = true) ↔ w.FirstShow runIsVisible signal auth := by
            rw [listRuns_all, FirstShow, same]
            constructor
            · rintro ⟨_, visible⟩
              simpa [and_assoc] using visible
            · rintro ⟨run, member, triggered, visible⟩
              have inside : run ∈ (w.runs.take 200).filter (·.spec.signalId = sid) := by
                simp [member, triggered]
              exact ⟨List.ne_nil_of_mem inside, List.any_eq_true.mpr ⟨run, inside, visible⟩⟩
          by_cases first : w.FirstShow runIsVisible signal auth
          · rw [if_pos (shown.mpr first)]
            simp [first]
          · rw [if_neg fun found => first (shown.mp found)]
            by_cases named : signal.names auth = true <;> simp [first, named]
      · simp [tenant]

theorem FirstShow.shows {runIsVisible : JobRun → AuthContext → Bool} {w : EventsWorld}
    {signal : Signal} {auth : AuthContext} (first : w.FirstShow runIsVisible signal auth) :
    w.ShowsRun runIsVisible signal auth := by
  obtain ⟨run, member, found⟩ := first
  exact ⟨run, List.mem_of_mem_take member, found⟩

/-- What the gate decides is what the rule decides. -/
theorem rule_iff_same (signal : Signal) {admits visible : Prop} [Decidable admits] :
    ((visible → (if admits then .ok signal else .error signalNotFound : Except Exn Signal) =
          .ok signal) ∧
        (¬visible → (if admits then .ok signal else .error signalNotFound : Except Exn Signal) =
          .error signalNotFound)) ↔ (visible ↔ admits) := by
  by_cases admitted : admits
  · simp [admitted]
  · simp [admitted]

/-- The gate follows the rule of visibility exactly where the first two hundred runs decide
it and the identity claim is not needed, or only in the absence of runs. -/
theorem signal_rule_iff (b : EventsBackend) (w : EventsWorld) (signalId : Str) (auth : AuthContext) :
    w.SignalRule runIsVisible signalId auth
        (serveEvents b (requireVisibleSignal runIsVisible signalId auth) w).1 ↔
      ∀ signal ∈ w.addressedSignal signalId, w.SignalCovered runIsVisible signal auth := by
  rw [serve_requireVisibleSignal, SignalRule]
  cases w.addressedSignal signalId with
  | none => simp
  | some signal =>
    simp only [Option.mem_some_iff, forall_eq', rule_iff_same, SignalVisible, SignalCovered]
    by_cases tenant : signal.tenantKey = auth.tenantKey
    · by_cases admin : auth.isAdmin = true
      · simp [admin]
      · have first : w.FirstShow runIsVisible signal auth → w.ShowsRun runIsVisible signal auth :=
          FirstShow.shows
        by_cases named : signal.names auth = true
        · simp [tenant, admin, named]
        · simp only [tenant, admin, named, Bool.false_eq_true, true_and, false_or, or_false, and_false,
            ne_eq, not_true_eq_false, ↓reduceIte]
          exact ⟨fun same => same.mp, fun covered => ⟨covered, first⟩⟩
    · simp [tenant]

end EventsWorld

/-! A signal for the caller whose only run is visible to someone else. -/

def visibleToActor (run : JobRun) (auth : AuthContext) : Bool :=
  run.spec.visibilityUserId = some auth.userId

def firstId : Str := "00000000-0000-0000-0000-000000000001".toList

def claimedSignal : Signal :=
  { signalId := ⟨1⟩, tenantKey := "t-1".toList, userId := some "u-7".toList
    identityClaim := [("mode".toList, Json.text "act_as_user")] }

def hiddenRun : JobRun :=
  { runId := ⟨2⟩, status := .succeeded, queuedAt := "2026-01-01T00:00:00+00:00".toList
    spec := { triggerId := "t1".toList, signalId := ⟨1⟩, agentName := "agent".toList
              visibility := "actor".toList, visibilityUserId := some "u-8".toList } }

def claimant : AuthContext := { tenantKey := "t-1".toList, userId := "u-7".toList }

def ranElsewhere : EventsWorld := { runs := [hiddenRun], signals := [claimedSignal] }

/-- The run does not exist for the caller, yet the signal is not hidden. -/
theorem claimed_signal_shown :
    (serveEvents {} (requireVisibleSignal visibleToActor firstId claimant) ranElsewhere).1 =
        .ok claimedSignal ∧
      ¬ranElsewhere.SignalRule visibleToActor firstId claimant
        (serveEvents {} (requireVisibleSignal visibleToActor firstId claimant) ranElsewhere).1 := by
  have shown : (serveEvents {} (requireVisibleSignal visibleToActor firstId claimant) ranElsewhere).1 =
      .ok claimedSignal := rfl
  refine ⟨shown, fun rule => ?_⟩
  have refused := rule.2 fun signal addressed visible => ?_
  · rw [shown] at refused
    cases refused
  · obtain rfl : claimedSignal = signal := Option.some.inj addressed
    obtain ⟨_, admin | ⟨run, member, _, seen⟩ | ⟨unused, _⟩⟩ := visible
    · exact absurd admin (by decide)
    · obtain rfl := List.mem_singleton.mp member
      exact absurd seen (by decide)
    · exact unused hiddenRun (List.mem_singleton_self _) rfl

end OrchidApi
