import OrchidApi.AsyncPool
import OrchidApi.RunRoutes

/-! Cancel requests and a processor that ends runs, interleaved at their awaits over one job
store. Each reads a row and later writes the whole row back. -/
namespace OrchidApi
open Text Async

/-! ## The processor -/

inductive Verdict where
  | succeeded (result : Json.Value)
  | failed (error : Str)

def JobRun.finish (run : JobRun) (now : Str) : Verdict → JobRun
  | .succeeded result =>
    { run with status := .succeeded, finishedAt := some now, result := some result }
  | .failed error => { run with status := .failed, finishedAt := some now, error := some error }

/-- The processor ends a run that has not ended. -/
def endRun (run : JobRun) (verdict : Verdict) : EventsHandler Unit :=
  if run.status.isTerminal then pure ()
  else do
    let now ← Events.now
    Events.updateRun (run.finish now verdict)

def processRun (id : Uuid) (verdict : Verdict) : EventsHandler Unit := do
  match ← Events.getRun id with
  | none => pure ()
  | some run => endRun run verdict

/-! ## Interleavings -/

inductive RunWorker where
  | cancel (runId : Str) (auth : AuthContext)
  | process (id : Uuid) (verdict : Verdict)

def RunWorker.work (runIsVisible : JobRun → AuthContext → Bool) :
    RunWorker → EventsHandler (Option RunResponse)
  | .cancel runId auth => do
    let response ← RunRequest.handle runIsVisible true ⟨.cancel, runId, auth⟩
    pure (some response)
  | .process id verdict => do
    processRun id verdict
    pure none

/-- A worker keeps the row that it fetched. -/
def fetchedRun (known : Option JobRun) : (c : EventsCall) → EventsApi.Answer c → Option JobRun
  | .getRun _, .ok found => found
  | _, _ => known

/-- Each call is answered at once by the stores; the clock may show any time. -/
def runSystem (runIsVisible : JobRun → AuthContext → Bool) :
    System EventsApi RunWorker (Option JobRun) (Option RunResponse) EventsWorld where
  start := RunWorker.work runIsVisible
  fresh := none
  learn _ := fetchedRun
  serves _ w c answer w' := ∃ b, eventsServer b c w = (answer, w')

theorem runSystem_serves (runIsVisible : JobRun → AuthContext → Bool) (b : EventsBackend)
    (worker : RunWorker) (w : EventsWorld) (c : EventsCall) :
    (runSystem runIsVisible).serves worker w c (eventsServer b c w).1 (eventsServer b c w).2 := ⟨b, rfl⟩

/-- A worker writes only over a row that had not ended when it was fetched. -/
def WritesFetched (known : Option JobRun) : EventsCall → Prop
  | .updateRun run => ∃ row, known = some row ∧ row.runId = run.runId ∧ row.status.isTerminal = false
  | .rewrite _ => False
  | _ => True

/-- The run has not ended since the worker fetched it. -/
def Undisturbed (w : EventsWorld) (_ : RunWorker) (known : Option JobRun) : EventsCall → Prop
  | .updateRun run => ∀ row, w.run run.runId = some row → row.status.isTerminal = true →
      known = some row
  | _ => True

section Guarded
variable {runIsVisible : JobRun → AuthContext → Bool}

theorem guarded_cancelRun (run : JobRun) :
    (RunRoutes.cancelRun run).Guarded WritesFetched fetchedRun (fun _ _ => True) (some run) := by
  rw [RunRoutes.cancelRun]
  cases terminal : run.status.isTerminal with
  | true => exact trivial
  | false =>
    refine ⟨trivial, fun now => ?_⟩
    rcases now with error | now
    · exact trivial
    · refine ⟨⟨run, rfl, rfl, terminal⟩, fun updated => ?_⟩
      rcases updated with error | updated <;> exact trivial

theorem finish_runId (run : JobRun) (now : Str) (verdict : Verdict) :
    (run.finish now verdict).runId = run.runId := by cases verdict <;> rfl

theorem guarded_endRun (run : JobRun) (verdict : Verdict) :
    (endRun run verdict).Guarded WritesFetched fetchedRun (fun _ _ => True) (some run) := by
  rw [endRun]
  cases terminal : run.status.isTerminal with
  | true => exact trivial
  | false =>
    refine ⟨trivial, fun now => ?_⟩
    rcases now with error | now
    · exact trivial
    · refine ⟨⟨run, rfl, (finish_runId run now verdict).symm, terminal⟩, fun updated => ?_⟩
      rcases updated with error | updated <;> exact trivial

/-- The cancel's gate lets through the row that it fetched. -/
theorem guarded_requireVisibleRun (runId : Str) (auth : AuthContext) :
    (requireVisibleRun runIsVisible runId auth).Guarded WritesFetched fetchedRun
      (fun known outcome => ∀ run, outcome = .ok run → known = some run) none := by
  rw [requireVisibleRun]
  cases Uuid.parse runId with
  | none =>
    intro run raised
    cases raised
  | some id =>
    refine ⟨trivial, fun found => ?_⟩
    rcases found with error | _ | run
    · intro run raised
      cases raised
    · intro run raised
      cases raised
    · change (if runIsVisible run auth then pure run else Events.raise runNotFound :
        EventsHandler JobRun).Guarded _ _ _ (some run)
      split
      · exact fun _ same => congrArg some (Except.ok.inj same)
      · intro run raised
        cases raised

theorem guarded_processRun (id : Uuid) (verdict : Verdict) :
    (processRun id verdict).Guarded WritesFetched fetchedRun (fun _ _ => True) none := by
  refine ⟨trivial, fun found => ?_⟩
  rcases found with error | _ | run
  · exact trivial
  · exact trivial
  · exact guarded_endRun run verdict

theorem guarded_work (worker : RunWorker) :
    (worker.work runIsVisible).Guarded WritesFetched fetchedRun (fun _ _ => True) none := by
  cases worker with
  | cancel runId auth =>
    have handled : (RunRequest.handle runIsVisible true ⟨.cancel, runId, auth⟩).Guarded WritesFetched
        fetchedRun (fun _ _ => True) none :=
      Prog.guarded_bind (guarded_requireVisibleRun runId auth)
        (fun known run fetched => fetched run rfl ▸ guarded_cancelRun run) fun _ _ _ => trivial
    exact Prog.guarded_bind handled (fun _ _ _ => trivial) fun _ _ _ => trivial
  | process id verdict =>
    exact Prog.guarded_bind (guarded_processRun id verdict) (fun _ _ _ => trivial) fun _ _ _ => trivial

theorem run_discipline (runIsVisible : JobRun → AuthContext → Bool) :
    Discipline (runSystem runIsVisible) (fun _ => WritesFetched) (fun _ _ _ => True)
      (fun _ => True) (fun _ _ _ => True) where
  starts := guarded_work
  means_fresh _ _ := trivial
  keeps _ _ _ _ := trivial
  stable _ _ _ _ _ _ _ := trivial
  learns _ _ _ _ := trivial

end Guarded

/-! ## Terminal runs -/

/-- Of the workers' calls only an update writes runs. -/
theorem eventsServer_runs (b : EventsBackend) {known : Option JobRun} {c : EventsCall} (w : EventsWorld)
    (allowed : WritesFetched known c) (reads : ∀ run, c ≠ .updateRun run) :
    (eventsServer b c w).2.runs = w.runs := by
  cases c with
  | updateRun run => exact absurd rfl (reads run)
  | rewrite change => exact allowed.elim
  | _ => rfl

/-- The rows of the tasks about to write had not ended when they were fetched. -/
abbrev RunsInOrder (runIsVisible : JobRun → AuthContext → Bool)
    (pool : Pool EventsApi RunWorker (Option JobRun) (Option RunResponse) EventsWorld) : Prop :=
  InOrder (runSystem runIsVisible) (fun _ => WritesFetched) (fun _ _ _ => True) (fun _ => True)
    (fun _ _ _ => True) pool

section Step
variable {runIsVisible : JobRun → AuthContext → Bool}
  {pool pool' : Pool EventsApi RunWorker (Option JobRun) (Option RunResponse) EventsWorld}

/-- A write of a worker that was not overtaken by an end is not over an ended run. -/
theorem terminal_step (order : RunsInOrder runIsVisible pool)
    (step : StepWhen (runSystem runIsVisible) Undisturbed pool pool') {id : Uuid} {row : JobRun}
    (terminal : row.status.isTerminal = true) (stored : pool.world.run id = some row) :
    pool'.world.run id = some row := by
  cases step with
  | spawn pool owner => exact stored
  | @advance world world' before after owner c next known answer served fits =>
    obtain ⟨_, allowed, _⟩ := order.moving
    obtain ⟨b, served⟩ := served
    obtain rfl : (eventsServer b c world).2 = world' := congrArg Prod.snd served
    by_cases writes : ∃ run, c = .updateRun run
    · obtain ⟨run, rfl⟩ := writes
      obtain ⟨fetched, rfl, _, active⟩ := allowed
      change (world.updateRun run).run id = some row
      rw [EventsWorld.run_updateRun]
      by_cases here : id = run.runId
      · subst here
        obtain rfl : fetched = row := Option.some.inj (fits row stored terminal)
        rw [active] at terminal
        contradiction
      · rw [if_neg here]
        exact stored
    · change ((eventsServer b c world).2.runs.find? _) = some row
      rw [eventsServer_runs b world allowed fun run same => writes ⟨run, same⟩]
      exact stored

/-- As long as no run ends between a worker's fetch and its write, a run that has ended stays as
it is. -/
theorem terminal_stays {w : EventsWorld} (reached : Reaches (runSystem runIsVisible) ⟨w, []⟩ pool)
    (onward : ReachesWhen (runSystem runIsVisible) Undisturbed pool pool') {id : Uuid} {row : JobRun}
    (stored : pool.world.run id = some row) (terminal : row.status.isTerminal = true) :
    pool'.world.run id = some row := by
  have start : RunsInOrder runIsVisible ⟨w, []⟩ :=
    ⟨trivial, fun task none => absurd none List.not_mem_nil⟩
  have order := inOrder_reaches (run_discipline runIsVisible) start reached
  exact (ReachesWhen.keeps (fun world => world.run id = some row)
    (fun order step => inOrder_step (run_discipline runIsVisible) order step.step)
    (fun order step stored => terminal_step order step terminal stored) order onward stored).2

end Step

/-! The processor ends a run between the two accesses of a cancel. -/

def activeRun : JobRun :=
  { runId := ⟨2⟩, status := .running, queuedAt := "2026-01-01T00:00:00+00:00".toList
    spec := { triggerId := "t1".toList, signalId := ⟨1⟩, agentName := "agent".toList
              visibility := "actor".toList, visibilityUserId := some "u-7".toList } }

def overlapping : List RunWorker :=
  [.cancel secondId claimant, .process ⟨2⟩ (.succeeded (Json.text "done"))]

def atNoon : EventsBackend := { clock := "2026-01-01T12:00:00+00:00".toList }

def overlap (schedule : List Nat) :
    Pool EventsApi RunWorker (Option JobRun) (Option RunResponse) EventsWorld :=
  Pool.turns (runSystem visibleToActor) (fun _ => eventsServer atNoon) { runs := [activeRun] } overlapping
    schedule

theorem overlap_reached (schedule : List Nat) :
    Reaches (runSystem visibleToActor) ⟨{ runs := [activeRun] }, []⟩ (overlap schedule) :=
  reaches_turns (runSystem_serves visibleToActor atNoon) _ overlapping schedule

/-- A cancel that comes after the end reads the ended row and leaves it. -/
theorem late_cancel :
    ReachesWhen (runSystem visibleToActor) Undisturbed (overlap [1, 1, 1]) (overlap [1, 1, 1, 0]) := by
  have read : (runSystem visibleToActor).serves (.cancel secondId claimant) (overlap [1, 1, 1]).world
      (.getRun ⟨2⟩) (.ok (some (activeRun.finish atNoon.clock (.succeeded (Json.text "done")))))
      (overlap [1, 1, 1]).world := ⟨atNoon, rfl⟩
  exact .single (@StepWhen.advance EventsApi RunWorker (Option JobRun) (Option RunResponse) _
    (runSystem visibleToActor) Undisturbed _ _ [] (overlap [1, 1, 1]).tasks.tail
    (.cancel secondId claimant) (.getRun ⟨2⟩) _ none _ read trivial)

theorem terminal_stays_late :
    (overlap [1, 1, 1, 0]).world.run ⟨2⟩ =
      some (activeRun.finish atNoon.clock (.succeeded (Json.text "done"))) :=
  terminal_stays (overlap_reached [1, 1, 1]) late_cancel rfl rfl

/-- The run has succeeded with its result, and is cancelled without it afterwards. -/
theorem succeeded_then_cancelled :
    Reaches (runSystem visibleToActor) ⟨{ runs := [activeRun] }, []⟩ (overlap [0, 1, 1, 1]) ∧
      Reaches (runSystem visibleToActor) (overlap [0, 1, 1, 1]) (overlap [0, 1, 1, 1, 0, 0]) ∧
      (overlap [0, 1, 1, 1]).world.run ⟨2⟩ =
        some (activeRun.finish atNoon.clock (.succeeded (Json.text "done"))) ∧
      (overlap [0, 1, 1, 1, 0, 0]).world.run ⟨2⟩ =
        some (RunRoutes.cancelled activeRun atNoon.clock) ∧
      (activeRun.finish atNoon.clock (.succeeded (Json.text "done"))).status.isTerminal = true ∧
      (RunRoutes.cancelled activeRun atNoon.clock).status = .cancelled ∧
      (RunRoutes.cancelled activeRun atNoon.clock).result = none := by
  refine ⟨overlap_reached _, ?_, rfl, rfl, rfl, rfl, rfl⟩
  exact reaches_schedule (runSystem_serves visibleToActor atNoon) (overlap [0, 1, 1, 1]) [0, 0]

end OrchidApi
