import OrchidApi.RunRoutes

/-! `GET /jobs/{trigger_id}/runs` of `routers/jobs.py`: what the listing of a trigger's runs
tells about those that the caller may not see. -/
namespace OrchidApi
open Text Async

def triggerNotFound : Exn := .http 404 "trigger not found".toList

/-- `_run_to_dict` of the jobs router, without the visible user and the result. -/
def triggerRunToDict (run : JobRun) : Json.Dict :=
  [("run_id".toList, .str run.runId.text), ("trigger_id".toList, .str run.spec.triggerId),
    ("signal_id".toList, .str run.spec.signalId.text), ("agent_name".toList, .str run.spec.agentName),
    ("attempt_number".toList, .num run.attemptNumber), ("status".toList, .str run.status.value),
    ("visibility".toList, .str run.spec.visibility), ("queued_at".toList, .str run.queuedAt),
    ("started_at".toList, optionalText run.startedAt),
    ("finished_at".toList, optionalText run.finishedAt), ("error".toList, optionalText run.error)]

def itemsBody (runs : List JobRun) : Json.Dict :=
  [("items".toList, .arr (runs.map fun run => .obj (triggerRunToDict run)))]

section Listing
variable (runIsVisible : JobRun → AuthContext → Bool)

/-- `registered` is the trigger registry. -/
def listRunsForTrigger (registered : Str → Bool) (triggerId : Str) (status : Option Str)
    (limit : Nat) (auth : AuthContext) : EventsHandler Json.Dict :=
  if registered triggerId = false then Events.raise triggerNotFound
  else do
    let rows ← Events.listRuns { triggerId := some triggerId, status, limit }
    let visible := rows.filter (runIsVisible · auth)
    if visible.isEmpty ∧ rows.isEmpty = false ∧ auth.isAdmin = false then
      Events.raise triggerNotFound
    else pure (itemsBody visible)

namespace EventsWorld

/-- The trigger's runs of the requested status. -/
def triggerRuns (w : EventsWorld) (triggerId : Str) (status : Option Str) : List JobRun :=
  w.runs.filter fun run => RunQuery.Matches { triggerId := some triggerId, status, limit := 0 } run

/-- All the trigger's runs that the caller may see, in the order of the store. -/
def visibleRuns (w : EventsWorld) (auth : AuthContext) (triggerId : Str) : List JobRun :=
  w.runs.filter fun run => run.spec.triggerId = triggerId ∧ runIsVisible run auth = true

/-- How many runs the caller may see among the first ones with the status. -/
def shownWithin (w : EventsWorld) (auth : AuthContext) (triggerId : Str) (status : Option Str)
    (limit : Nat) : Nat :=
  ((w.triggerRuns triggerId status).take limit).countP (runIsVisible · auth)

end EventsWorld

/-! ## The response -/

/-- The first runs that pass a test are the first of those that pass it. -/
theorem filter_take {α : Type} (test : α → Bool) (xs : List α) (limit : Nat) :
    (xs.take limit).filter test = (xs.filter test).take ((xs.take limit).countP test) := by
  have whole : xs.filter test = (xs.take limit).filter test ++ (xs.drop limit).filter test := by
    rw [← List.filter_append, List.take_append_drop]
  rw [whole, List.countP_eq_length_filter, List.take_left]

variable {runIsVisible} {registered : Str → Bool} {triggerId : Str} {status : Option Str}
  {limit : Nat} {auth : AuthContext} {b : EventsBackend} {w w' : EventsWorld}

/-- The visible runs with the status, from the visible runs alone. -/
theorem triggerRuns_visible (w : EventsWorld) :
    (w.triggerRuns triggerId status).filter (runIsVisible · auth) =
      (w.visibleRuns runIsVisible auth triggerId).filter fun run =>
        ∀ wanted ∈ status, run.status.value = wanted := by
  rw [EventsWorld.triggerRuns, EventsWorld.visibleRuns, List.filter_filter, List.filter_filter]
  refine List.filter_congr fun run _ => ?_
  by_cases visible : runIsVisible run auth = true <;>
    simp [RunQuery.Matches, visible, Bool.and_comm, eq_comm]

/-- The items are the first of the visible runs with the status, as many as are within the
limit when hidden runs count. -/
theorem serve_listRunsForTrigger (known : registered triggerId = true)
    (plain : auth.isAdmin = false) (positive : 0 < limit) :
    (serveEvents b (listRunsForTrigger runIsVisible registered triggerId status limit auth) w).1 =
      if w.shownWithin runIsVisible auth triggerId status limit = 0 ∧
          w.triggerRuns triggerId status ≠ [] then .error triggerNotFound
      else .ok (itemsBody (((w.visibleRuns runIsVisible auth triggerId).filter fun run =>
        ∀ wanted ∈ status, run.status.value = wanted).take
          (w.shownWithin runIsVisible auth triggerId status limit))) := by
  have listed : w.listRuns { triggerId := some triggerId, status, limit } =
      (w.triggerRuns triggerId status).take limit := by
    simp [EventsWorld.listRuns, EventsWorld.matchingRuns, EventsWorld.triggerRuns, RunQuery.Matches]
  have shown : ((w.triggerRuns triggerId status).take limit).filter (runIsVisible · auth) =
      ((w.visibleRuns runIsVisible auth triggerId).filter fun run =>
        ∀ wanted ∈ status, run.status.value = wanted).take
          (w.shownWithin runIsVisible auth triggerId status limit) := by
    rw [filter_take, triggerRuns_visible]
    rfl
  have counted : (((w.triggerRuns triggerId status).take limit).filter (runIsVisible · auth)).isEmpty =
      true ↔ w.shownWithin runIsVisible auth triggerId status limit = 0 := by
    rw [EventsWorld.shownWithin, List.countP_eq_length_filter, List.isEmpty_iff,
      List.length_eq_zero_iff]
  have present : ((w.triggerRuns triggerId status).take limit).isEmpty = false ↔
      w.triggerRuns triggerId status ≠ [] := by
    rw [List.isEmpty_eq_false_iff, ne_eq, List.take_eq_nil_iff, not_or]
    exact ⟨And.right, fun some => ⟨positive.ne', some⟩⟩
  rw [listRunsForTrigger, if_neg (by simp [known])]
  refine (congrArg Prod.fst (serveEvents_bind_ok (serveEvents_await (.listRuns
    { triggerId := some triggerId, status, limit })))).trans ?_
  dsimp only
  rw [listed]
  simp only [counted, present, plain, and_true]
  rw [← shown]
  split <;> rfl

/-- The one answer to a caller who can see none of the trigger's runs. -/
def ListingHides (runIsVisible : JobRun → AuthContext → Bool) (auth : AuthContext) (triggerId : Str)
    (w : EventsWorld) (outcome outcome' : Except Exn Json.Dict) : Prop :=
  outcome' = outcome ∧ (w.visibleRuns runIsVisible auth triggerId = [] →
    outcome = .error triggerNotFound ∧ outcome' = .error triggerNotFound)

/-- The stores show equally many runs within the limit; where they show none both have a run
of the requested status or neither; and both have one where the caller can see no run at all. -/
structure ListingAlike (runIsVisible : JobRun → AuthContext → Bool) (auth : AuthContext)
    (triggerId : Str) (status : Option Str) (limit : Nat) (w w' : EventsWorld) : Prop where
  shown : w'.shownWithin runIsVisible auth triggerId status limit =
    w.shownWithin runIsVisible auth triggerId status limit
  none_shown : w.shownWithin runIsVisible auth triggerId status limit = 0 →
    (w'.triggerRuns triggerId status ≠ [] ↔ w.triggerRuns triggerId status ≠ [])
  none_visible : w.visibleRuns runIsVisible auth triggerId = [] →
    w.triggerRuns triggerId status ≠ [] ∧ w'.triggerRuns triggerId status ≠ []

/-- No more runs are shown than are visible. -/
theorem EventsWorld.shownWithin_le (w : EventsWorld) (runIsVisible : JobRun → AuthContext → Bool)
    (auth : AuthContext) (triggerId : Str) (status : Option Str) (limit : Nat) :
    w.shownWithin runIsVisible auth triggerId status limit ≤
      ((w.visibleRuns runIsVisible auth triggerId).filter fun run =>
        ∀ wanted ∈ status, run.status.value = wanted).length := by
  rw [← triggerRuns_visible, EventsWorld.shownWithin, ← List.countP_eq_length_filter]
  exact (List.take_sublist _ _).countP_le

theorem itemsBody_length {runs runs' : List JobRun} (same : itemsBody runs' = itemsBody runs) :
    runs'.length = runs.length := by
  have items := congrArg (fun body : Json.Dict => body.lookup "items".toList) same
  simp only [itemsBody, List.lookup_cons_self, Option.some.injEq, Json.Value.arr.injEq] at items
  simpa using congrArg List.length items

theorem of_refused {refuses : Prop} [Decidable refuses] {body : Json.Dict}
    (refused : (if refuses then .error triggerNotFound else .ok body : Except Exn Json.Dict) =
      .error triggerNotFound) : refuses := by
  by_contra listed
  rw [if_neg listed] at refused
  cases refused

/-- The answers to two listings of the same visible runs. -/
theorem listed_eq_iff {runs : List JobRun} {shown shown' : Nat} (most : shown ≤ runs.length)
    (most' : shown' ≤ runs.length) {present present' : Prop} [Decidable present] [Decidable present'] :
    (if shown' = 0 ∧ present' then .error triggerNotFound else .ok (itemsBody (runs.take shown')) :
          Except Exn Json.Dict) =
        (if shown = 0 ∧ present then .error triggerNotFound else .ok (itemsBody (runs.take shown))) ↔
      shown' = shown ∧ (shown = 0 → (present' ↔ present)) := by
  constructor
  · intro same
    by_cases refused : shown' = 0 ∧ present'
    · by_cases refuses : shown = 0 ∧ present
      · exact ⟨refused.1.trans refuses.1.symm, fun _ => iff_of_true refused.2 refuses.2⟩
      · rw [if_pos refused, if_neg refuses] at same
        cases same
    · by_cases refuses : shown = 0 ∧ present
      · rw [if_neg refused, if_pos refuses] at same
        cases same
      · rw [if_neg refused, if_neg refuses] at same
        have counts := itemsBody_length (Except.ok.inj same)
        rw [List.length_take, List.length_take, min_eq_left most, min_eq_left most'] at counts
        refine ⟨counts, fun nothing => iff_of_false (fun has => refused ⟨?_, has⟩) fun has =>
          refuses ⟨nothing, has⟩⟩
        rw [counts, nothing]
  · rintro ⟨rfl, alike⟩
    by_cases nothing : shown' = 0
    · simp only [nothing, true_and, alike nothing]
    · simp only [nothing, false_and]

/-- The listing hides what the caller may not see exactly when the stores are alike in how
many runs they show, and in whether they have any. -/
theorem listing_hides_iff (known : registered triggerId = true) (plain : auth.isAdmin = false)
    (positive : 0 < limit)
    (agree : w'.visibleRuns runIsVisible auth triggerId = w.visibleRuns runIsVisible auth triggerId) :
    ListingHides runIsVisible auth triggerId w
        (serveEvents b (listRunsForTrigger runIsVisible registered triggerId status limit auth) w).1
        (serveEvents b (listRunsForTrigger runIsVisible registered triggerId status limit auth) w').1 ↔
      ListingAlike runIsVisible auth triggerId status limit w w' := by
  have most := w.shownWithin_le runIsVisible auth triggerId status limit
  have most' := w'.shownWithin_le runIsVisible auth triggerId status limit
  rw [agree] at most'
  rw [ListingHides, serve_listRunsForTrigger known plain positive,
    serve_listRunsForTrigger known plain positive, agree, listed_eq_iff most most']
  constructor
  · rintro ⟨⟨shown, alike⟩, hidden⟩
    refine ⟨shown, alike, fun empty => ?_⟩
    obtain ⟨refused, refused'⟩ := hidden empty
    exact ⟨(of_refused refused).2, (of_refused refused').2⟩
  · rintro ⟨shown, alike, hidden⟩
    refine ⟨⟨shown, alike⟩, fun empty => ?_⟩
    rw [empty] at most most'
    obtain ⟨present, present'⟩ := hidden empty
    have nothing := Nat.le_zero.mp most
    have nothing' := Nat.le_zero.mp most'
    exact ⟨if_pos ⟨nothing, present⟩, if_pos ⟨nothing', present'⟩⟩

end Listing

/-! The caller sees no run of the trigger: in one store there is none, in the other a hidden one. -/

def anyTrigger (_ : Str) : Bool := true

theorem listing_hides_iff_hidden :
    ListingHides visibleToActor claimant "t1".toList { runs := [hiddenRun] }
        (serveEvents {} (listRunsForTrigger visibleToActor anyTrigger "t1".toList none 50 claimant)
          { runs := [hiddenRun] }).1
        (serveEvents {} (listRunsForTrigger visibleToActor anyTrigger "t1".toList none 50 claimant) {}).1 ↔
      ListingAlike visibleToActor claimant "t1".toList none 50 { runs := [hiddenRun] } {} :=
  listing_hides_iff rfl (by decide) (by decide) rfl

/-- Without a run the answer is an empty list, with a hidden one it is the 404. -/
theorem listing_reveals :
    claimant.isAdmin = false ∧ anyTrigger "t1".toList = true ∧
      EventsWorld.visibleRuns visibleToActor { runs := [hiddenRun] } claimant "t1".toList =
        EventsWorld.visibleRuns visibleToActor {} claimant "t1".toList ∧
      (serveEvents {} (listRunsForTrigger visibleToActor anyTrigger "t1".toList none 50 claimant) {}).1 =
        .ok (itemsBody []) ∧
      (serveEvents {} (listRunsForTrigger visibleToActor anyTrigger "t1".toList none 50 claimant)
        { runs := [hiddenRun] }).1 = .error triggerNotFound :=
  ⟨by decide, rfl, rfl, rfl, rfl⟩

end OrchidApi
