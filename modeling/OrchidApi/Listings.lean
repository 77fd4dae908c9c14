import OrchidApi.IsoTime
import OrchidApi.TriggerRuns

/-! The listings of `routers/runs.py`, `routers/jobs.py` and `routers/signals.py`: each asks a
store for a limited number of rows and filters what it gets once more. -/
namespace OrchidApi
open Text Async

/-! ## A filter after the cut -/

/-- Where a filter behind the limit does no harm: it drops none of the rows before the cut, or
would drop all the rows behind it. -/
def CutSafe {α : Type} (test : α → Bool) (rows : List α) (limit : Nat) : Prop :=
  (∀ row ∈ rows.take limit, test row = true) ∨ ∀ row ∈ rows.drop limit, test row = false

section Cut
variable {α : Type} {test : α → Bool} {rows : List α} {limit : Nat}

theorem countP_take_drop (test : α → Bool) (rows : List α) (limit : Nat) :
    rows.countP test = (rows.take limit).countP test + (rows.drop limit).countP test := by
  rw [← List.countP_append, List.take_append_drop]

/-- Then and only then are there as many rows as there should be. -/
theorem cutSafe_iff_count : CutSafe test rows limit ↔
    (rows.take limit).countP test = min limit (rows.countP test) := by
  have split := countP_take_drop test rows limit
  have most : (rows.take limit).countP test ≤ (rows.take limit).length := List.countP_le_length
  have within : (rows.take limit).length ≤ limit := List.length_take_le limit rows
  constructor
  · rintro (all | none)
    · have full : (rows.take limit).countP test = (rows.take limit).length := List.countP_eq_length.mpr all
      rcases Nat.le_total limit rows.length with long | short
      · rw [List.length_take, min_eq_left long] at full
        omega
      · have nothing : (rows.drop limit).countP test = 0 := by
          rw [List.drop_eq_nil_of_le short]
          rfl
        omega
    · have nothing : (rows.drop limit).countP test = 0 :=
        List.countP_eq_zero.mpr fun row member => by simp [none row member]
      omega
  · intro count
    by_cases full : (rows.take limit).countP test = (rows.take limit).length
    · exact .inl (List.countP_eq_length.mp full)
    · have nothing : (rows.drop limit).countP test = 0 := by omega
      exact .inr fun row member => Bool.eq_false_iff.mpr (List.countP_eq_zero.mp nothing row member)

theorem filter_take_of_cutSafe (safe : CutSafe test rows limit) :
    (rows.take limit).filter test = (rows.filter test).take limit := by
  rw [filter_take, cutSafe_iff_count.mp safe, List.countP_eq_length_filter, ← List.take_eq_take_min]

end Cut

/-! ## Bodies -/

/-- `{"items": [...]}` -/
def itemList (items : List Json.Dict) : Json.Dict := [("items".toList, .arr (items.map .obj))]

theorem itemList_length {items items' : List Json.Dict} (same : itemList items = itemList items') :
    items.length = items'.length := by
  simp only [itemList, List.cons.injEq, Prod.mk.injEq, Json.Value.arr.injEq, true_and, and_true] at same
  simpa using congrArg List.length same

theorem itemsBody_eq (runs : List JobRun) : itemsBody runs = itemList (runs.map triggerRunToDict) := by
  simp [itemsBody, itemList]

/-- The rows that pass the test before the cut are the first ones that pass it, or too few. -/
theorem itemList_cut_iff {α : Type} {test : α → Bool} {rows : List α} {limit : Nat} (render : α → Json.Dict) :
    itemList (((rows.take limit).filter test).map render) =
      itemList (((rows.filter test).map render).take limit) ↔ CutSafe test rows limit := by
  constructor
  · intro same
    have lengths := itemList_length same
    rw [List.length_map, List.length_take, List.length_map, ← List.countP_eq_length_filter,
      ← List.countP_eq_length_filter] at lengths
    exact cutSafe_iff_count.mpr lengths
  · intro safe
    rw [filter_take_of_cutSafe safe, List.map_take]

/-- `_signal_to_dict` -/
def signalToDict (signal : Signal) : Json.Dict :=
  [("signal_id".toList, .str signal.signalId.text), ("type".toList, .str signal.type),
    ("source".toList, .str signal.source), ("payload".toList, .obj signal.payload),
    ("tenant_key".toList, .str signal.tenantKey), ("user_id".toList, optionalText signal.userId),
    ("correlation_id".toList, optionalText signal.correlationId),
    ("dedupe_key".toList, optionalText signal.dedupeKey),
    ("identity_claim".toList, .obj signal.identityClaim),
    ("chat_binding".toList, (signal.chatBinding.map Json.Value.obj).getD .null),
    ("occurred_at".toList, .str signal.occurredAt), ("persisted_at".toList, .str signal.persistedAt),
    ("relay_status".toList, .str signal.relayStatus)]

/-! ## The endpoints -/

section Endpoints
variable (fromIsoformat : Str → Option Datetime) (isPrintable : Char → Bool)

/-- `_parse_iso` -/
def parseIso : Option Str → Except Exn (Option Str)
  | none => .ok none
  | some value =>
    match Datetime.parseAware fromIsoformat value with
    | some parsed => .ok (some parsed.isoformat)
    | none => .error (.http 400 ("invalid 'since' timestamp: ".toList ++ reprStr isPrintable value))

variable (runIsVisible : JobRun → AuthContext → Bool) (registered : Str → Bool)

def listRuns (status triggerId since : Option Str) (limit : Nat) (auth : AuthContext) :
    EventsHandler Json.Dict :=
  match parseIso fromIsoformat isPrintable since with
  | .error error => Events.raise error
  | .ok since => do
    let rows ← Events.listRuns { triggerId, status, since, limit }
    pure (itemList ((rows.filter (runIsVisible · auth)).map (runToDict · false)))

/-- `source` is not a filter of the store. -/
def ofSource (source : Option Str) (signal : Signal) : Bool := source.all (signal.source = ·)

def listSignals (type source since : Option Str) (limit : Nat) (auth : AuthContext) :
    EventsHandler Json.Dict :=
  if auth.isAdmin = false then Events.raise adminNotFound
  else match parseIso fromIsoformat isPrintable since with
  | .error error => Events.raise error
  | .ok since => do
    let rows ← Events.listSignals { type, tenantKey := auth.tenantKey, since, limit }
    pure (itemList ((rows.filter (ofSource source)).map signalToDict))

/-- A listing, by its filters. -/
inductive ListRequest where
  | runs (status triggerId since : Option Str)
  | triggerRuns (triggerId : Str) (status : Option Str)
  | signals (type source since : Option Str)

namespace ListRequest

def handle (limit : Nat) (auth : AuthContext) : ListRequest → EventsHandler Json.Dict
  | runs status triggerId since =>
    listRuns fromIsoformat isPrintable runIsVisible status triggerId since limit auth
  | triggerRuns triggerId status =>
    listRunsForTrigger runIsVisible registered triggerId status limit auth
  | signals type source since =>
    listSignals fromIsoformat isPrintable type source since limit auth

def since : ListRequest → Option Str
  | runs _ _ since | signals _ _ since => since
  | triggerRuns _ _ => none

/-- The request gets past the checks in front of the listing. -/
structure Accepted (request : ListRequest) (auth : AuthContext) (parsed : Option Str) : Prop where
  since : parseIso fromIsoformat isPrintable request.since = .ok parsed
  admin : ∀ type source since, request = .signals type source since → auth.isAdmin = true
  trigger : ∀ id status, request = .triggerRuns id status → registered id = true

/-- All rows of the store that match the filters and are visible to the caller. -/
def wanted (w : EventsWorld) (auth : AuthContext) (parsed : Option Str) :
    ListRequest → List Json.Dict
  | runs status triggerId _ =>
    ((w.matchingRuns { triggerId, status, since := parsed, limit := 0 }).filter
      (runIsVisible · auth)).map (runToDict · false)
  | triggerRuns triggerId status =>
    ((w.matchingRuns { triggerId := some triggerId, status, limit := 0 }).filter
      (runIsVisible · auth)).map triggerRunToDict
  | signals type source _ =>
    ((w.matchingSignals { type, tenantKey := auth.tenantKey, since := parsed, limit := 0 }).filter
      (ofSource source)).map signalToDict

/-- The answer has exactly the first of the wanted rows. -/
def Exact (w : EventsWorld) (auth : AuthContext) (parsed : Option Str) (limit : Nat)
    (request : ListRequest) (outcome : Except Exn Json.Dict) : Prop :=
  outcome = .ok (itemList ((request.wanted runIsVisible w auth parsed).take limit))

/-- The listing of a trigger is there: the caller is an admin, or sees one of the rows before the
cut, or there are none. -/
def TriggerShown (w : EventsWorld) (auth : AuthContext) (limit : Nat) (triggerId : Str)
    (status : Option Str) : Prop :=
  auth.isAdmin = true ∨
    (w.matchingRuns { triggerId := some triggerId, status, limit := 0 }).take limit = [] ∨
    ∃ row ∈ (w.matchingRuns { triggerId := some triggerId, status, limit := 0 }).take limit,
      runIsVisible row auth = true

/-- The rows that the store's own filters match are not cut before the second filter bites, and a
trigger's listing is not denied. -/
def Uncut (w : EventsWorld) (auth : AuthContext) (parsed : Option Str) (limit : Nat) :
    ListRequest → Prop
  | runs status triggerId _ =>
    CutSafe (runIsVisible · auth)
      (w.matchingRuns { triggerId, status, since := parsed, limit := 0 }) limit
  | triggerRuns triggerId status =>
    CutSafe (runIsVisible · auth)
        (w.matchingRuns { triggerId := some triggerId, status, limit := 0 }) limit ∧
      TriggerShown runIsVisible w auth limit triggerId status
  | signals type source _ =>
    CutSafe (ofSource source)
      (w.matchingSignals { type, tenantKey := auth.tenantKey, since := parsed, limit := 0 }) limit

end ListRequest

/-! ## What the listings answer -/

variable {fromIsoformat isPrintable runIsVisible registered}
variable {w : EventsWorld} {auth : AuthContext} {parsed : Option Str} {limit : Nat} {b : EventsBackend}

theorem exact_ok_iff {request : ListRequest} {body : Json.Dict} :
    request.Exact runIsVisible w auth parsed limit (.ok body) ↔
      body = itemList ((request.wanted runIsVisible w auth parsed).take limit) := by
  rw [ListRequest.Exact, Except.ok.injEq]

theorem not_exact_error {request : ListRequest} {error : Exn} :
    ¬request.Exact runIsVisible w auth parsed limit (.error error) := by
  simp [ListRequest.Exact]

theorem exact_runs_iff {status triggerId since : Option Str}
    (parses : parseIso fromIsoformat isPrintable since = .ok parsed) :
    ListRequest.Exact runIsVisible w auth parsed limit (.runs status triggerId since)
        (serveEvents b (listRuns fromIsoformat isPrintable runIsVisible status triggerId since
          limit auth) w).1 ↔
      ListRequest.Uncut runIsVisible w auth parsed limit (.runs status triggerId since) := by
  generalize rows : w.matchingRuns { triggerId, status, since := parsed, limit := 0 } = matching
  have answer : (serveEvents b (listRuns fromIsoformat isPrintable runIsVisible status triggerId
      since limit auth) w).1 =
      .ok (itemList (((matching.take limit).filter (runIsVisible · auth)).map (runToDict · false))) := by
    rw [listRuns, parses, ← rows]
    exact congrArg Prod.fst (serveEvents_bind_ok (serveEvents_await (.listRuns _)))
  rw [answer, exact_ok_iff, ListRequest.wanted, ListRequest.Uncut, rows]
  exact itemList_cut_iff _

theorem exact_signals_iff {type source since : Option Str} (admin : auth.isAdmin = true)
    (parses : parseIso fromIsoformat isPrintable since = .ok parsed) :
    ListRequest.Exact runIsVisible w auth parsed limit (.signals type source since)
        (serveEvents b (listSignals fromIsoformat isPrintable type source since limit auth) w).1 ↔
      ListRequest.Uncut runIsVisible w auth parsed limit (.signals type source since) := by
  generalize rows : w.matchingSignals
    { type, tenantKey := auth.tenantKey, since := parsed, limit := 0 } = matching
  have answer : (serveEvents b (listSignals fromIsoformat isPrintable type source since limit
      auth) w).1 = .ok (itemList (((matching.take limit).filter (ofSource source)).map signalToDict)) := by
    rw [listSignals, if_neg (by simp [admin]), parses, ← rows]
    exact congrArg Prod.fst (serveEvents_bind_ok (serveEvents_await (.listSignals _)))
  rw [answer, exact_ok_iff, ListRequest.wanted, ListRequest.Uncut, rows]
  exact itemList_cut_iff _

/-- A trigger is denied to who is no admin and sees none of the rows before the cut. -/
theorem triggerShown_iff {triggerId : Str} {status : Option Str} {matching : List JobRun}
    (rows : w.matchingRuns { triggerId := some triggerId, status, limit := 0 } = matching) :
    ListRequest.TriggerShown runIsVisible w auth limit triggerId status ↔
      ¬(((matching.take limit).filter (runIsVisible · auth)).isEmpty ∧
        (matching.take limit).isEmpty = false ∧ auth.isAdmin = false) := by
  rw [ListRequest.TriggerShown, rows, List.isEmpty_iff, List.filter_eq_nil_iff, List.isEmpty_eq_false_iff,
    ← Bool.not_eq_true]
  constructor
  · rintro (admin | none | ⟨row, member, visible⟩) ⟨hidden, some, plain⟩
    · exact plain admin
    · exact some none
    · exact hidden row member visible
  · intro shown
    by_contra denied
    obtain ⟨plain, some, hidden⟩ : ¬auth.isAdmin = true ∧ matching.take limit ≠ [] ∧
        ¬∃ row ∈ matching.take limit, runIsVisible row auth = true := by
      simpa only [not_or] using denied
    exact shown ⟨fun row member visible => hidden ⟨row, member, visible⟩, some, plain⟩

theorem exact_triggerRuns_iff {triggerId : Str} {status : Option Str}
    (known : registered triggerId = true) :
    ListRequest.Exact runIsVisible w auth none limit (.triggerRuns triggerId status)
        (serveEvents b (listRunsForTrigger runIsVisible registered triggerId status limit auth) w).1 ↔
      ListRequest.Uncut runIsVisible w auth none limit (.triggerRuns triggerId status) := by
  generalize rows : w.matchingRuns { triggerId := some triggerId, status, limit := 0 } = matching
  have answer : (serveEvents b (listRunsForTrigger runIsVisible registered triggerId status limit
      auth) w).1 = if ((matching.take limit).filter (runIsVisible · auth)).isEmpty ∧
        (matching.take limit).isEmpty = false ∧ auth.isAdmin = false then .error triggerNotFound
      else .ok (itemsBody ((matching.take limit).filter (runIsVisible · auth))) := by
    have listed : w.listRuns { triggerId := some triggerId, status, limit } = matching.take limit := by
      rw [← rows]
      rfl
    rw [listRunsForTrigger, if_neg (by simp [known])]
    refine (congrArg Prod.fst (serveEvents_bind_ok (serveEvents_await (.listRuns _)))).trans ?_
    rw [listed]
    dsimp only
    split <;> rfl
  rw [answer, ListRequest.Uncut, rows, triggerShown_iff rows]
  split
  · rename_i denied
    exact iff_of_false not_exact_error fun uncut => uncut.2 denied
  · rename_i shown
    rw [exact_ok_iff, itemsBody_eq, ListRequest.wanted, rows, and_iff_left shown]
    exact itemList_cut_iff _

/-- A listing has exactly the first rows that match the filters and are visible, if and only if
the store's limit does not cut them off, and a trigger is not denied. -/
theorem listing_exact_iff {request : ListRequest}
    (accepted : request.Accepted fromIsoformat isPrintable registered auth parsed) :
    request.Exact runIsVisible w auth parsed limit
        (serveEvents b (request.handle fromIsoformat isPrintable runIsVisible registered limit
          auth) w).1 ↔
      request.Uncut runIsVisible w auth parsed limit := by
  cases request with
  | runs status triggerId since => exact exact_runs_iff accepted.since
  | signals type source since => exact exact_signals_iff (accepted.admin _ _ _ rfl) accepted.since
  | triggerRuns triggerId status =>
    obtain rfl : none = parsed := Except.ok.inj accepted.since
    exact exact_triggerRuns_iff (accepted.trigger _ _ rfl)

end Endpoints

/-! The caller's own run comes second, after one that is hidden from the caller. -/

def ownRun : JobRun :=
  { hiddenRun with runId := ⟨3⟩, spec := { hiddenRun.spec with visibilityUserId := some "u-7".toList } }

def hiddenFirst : EventsWorld := { runs := [hiddenRun, ownRun] }

def noIso (_ : Str) : Option Datetime := none

theorem listing_exact_iff_own :
    ListRequest.Exact visibleToActor hiddenFirst claimant none 50 (.runs none none none)
        (serveEvents {} (ListRequest.handle noIso Char.isAlphanum visibleToActor anyTrigger 50
          claimant (.runs none none none)) hiddenFirst).1 ↔
      ListRequest.Uncut visibleToActor hiddenFirst claimant none 50 (.runs none none none) :=
  @listing_exact_iff noIso Char.isAlphanum visibleToActor anyTrigger hiddenFirst claimant none 50 {}
    (.runs none none none) ⟨rfl, by simp, by simp⟩

/-- With a limit of one the own run is not listed. -/
theorem own_run_cut :
    ListRequest.wanted visibleToActor hiddenFirst claimant none (.runs none none none) =
        [runToDict ownRun false] ∧
      (serveEvents {} (ListRequest.handle noIso Char.isAlphanum visibleToActor anyTrigger 1
        claimant (.runs none none none)) hiddenFirst).1 = .ok (itemList []) ∧
      ¬ListRequest.Exact visibleToActor hiddenFirst claimant none 1 (.runs none none none)
        (serveEvents {} (ListRequest.handle noIso Char.isAlphanum visibleToActor anyTrigger 1
          claimant (.runs none none none)) hiddenFirst).1 := by
  have wanted : ListRequest.wanted visibleToActor hiddenFirst claimant none (.runs none none none) =
      [runToDict ownRun false] := rfl
  have empty : (serveEvents {} (ListRequest.handle noIso Char.isAlphanum visibleToActor anyTrigger 1
      claimant (.runs none none none)) hiddenFirst).1 = .ok (itemList []) := rfl
  refine ⟨wanted, empty, fun exact => ?_⟩
  rw [empty, exact_ok_iff, wanted] at exact
  exact absurd (itemList_length exact) (by decide)

end OrchidApi
