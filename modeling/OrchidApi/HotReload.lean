import Mathlib.Algebra.Order.Group.Defs
import Mathlib.Algebra.Order.Ring.Rat
import Mathlib.Data.List.Basic
import Mathlib.Tactic.Linarith
import OrchidApi.Effects
import OrchidApi.Transducer

/-! `middleware.py` with the wiring of `main.py` and `lifecycle.py`: from the import of the app
module to requests that reload the configuration, interleaved at their awaits. -/
namespace OrchidApi
open Text

/-! ## A throttle -/

namespace Throttle
variable {α : Type} [AddCommGroup α] [LinearOrder α]

/-- The arrivals that come at least an interval after the last one that did. -/
def due (interval : α) : α → List (α × Nat) → List (α × Nat)
  | _, [] => []
  | last, (now, i) :: rest =>
    if interval ≤ now - last then (now, i) :: due interval now rest else due interval last rest

def lastDue (interval : α) : α → List (α × Nat) → α
  | last, [] => last
  | last, (now, _) :: rest => lastDue interval (if interval ≤ now - last then now else last) rest

variable {interval : α}

theorem due_concat (last now : α) (i : Nat) (arrivals : List (α × Nat)) :
    due interval last (arrivals ++ [(now, i)]) = due interval last arrivals ++
      if interval ≤ now - lastDue interval last arrivals then [(now, i)] else [] := by
  induction arrivals generalizing last with
  | nil => rfl
  | cons arrival rest ih =>
    simp only [List.cons_append, due, lastDue]
    split
    · rw [ih, List.cons_append]
    · rw [ih]

theorem lastDue_concat (last now : α) (i : Nat) (arrivals : List (α × Nat)) :
    lastDue interval last (arrivals ++ [(now, i)]) =
      if interval ≤ now - lastDue interval last arrivals then now
      else lastDue interval last arrivals := by
  induction arrivals generalizing last with
  | nil => rfl
  | cons arrival rest ih => exact ih _

/-- Nothing is due when all arrivals are early. -/
theorem due_eq_nil_iff (last : α) (arrivals : List (α × Nat)) :
    due interval last arrivals = [] ↔ ∀ arrival ∈ arrivals, arrival.1 - last < interval := by
  induction arrivals generalizing last with
  | nil => simp [due]
  | cons arrival rest ih =>
    obtain ⟨now, i⟩ := arrival
    rw [due]
    split
    · rename_i passed
      simp [passed.not_gt]
    · rename_i early
      simp [ih, not_le.mp early]

variable [IsOrderedAddMonoid α]

/-- All that is due comes an interval after the last check. -/
theorem due_after (positive : 0 < interval) (last : α) (arrivals : List (α × Nat)) :
    ∀ arrival ∈ due interval last arrivals, last + interval ≤ arrival.1 := by
  induction arrivals generalizing last with
  | nil => simp [due]
  | cons arrival rest ih =>
    obtain ⟨now, i⟩ := arrival
    rw [due]
    split
    · rename_i passed
      have reached : last + interval ≤ now := by
        rw [add_comm]
        exact le_sub_iff_add_le.mp passed
      intro arrival member
      rcases List.mem_cons.mp member with rfl | later
      · exact reached
      · have step := ih now arrival later
        exact (reached.trans (le_add_of_nonneg_right positive.le)).trans step
    · exact ih last

/-- No two of them come less than an interval apart. -/
theorem due_spaced (positive : 0 < interval) (last : α) (arrivals : List (α × Nat)) :
    (due interval last arrivals).Pairwise fun a b => a.1 + interval ≤ b.1 := by
  induction arrivals generalizing last with
  | nil => exact .nil
  | cons arrival rest ih =>
    obtain ⟨now, i⟩ := arrival
    rw [due]
    split
    · exact (ih now).cons (due_after positive now rest)
    · exact ih last

end Throttle

/-! ## The middleware and its wiring -/

/-- `ConfigReloadMiddleware`, which holds on to the instance that it was given. -/
structure ReloadMiddleware where
  orchidRef : Option Nat
  intervalS : ℚ
  lastCheck : ℚ := 0

/-- `dispatch` up to its first await: the instance whose `reload_config` is then awaited. -/
def ReloadMiddleware.dispatch (m : ReloadMiddleware) (now : ℚ) : ReloadMiddleware × Option Nat :=
  match m.orchidRef with
  | none => (m, none)
  | some orchid =>
    if m.intervalS ≤ 0 then (m, none)
    else if now - m.lastCheck ≥ m.intervalS then ({ m with lastCheck := now }, some orchid)
    else (m, none)

/-- The process: `app_ctx.orchid`, the middleware of the app, when the requests arrived, and
which of them await a reload. -/
structure ReloadApp where
  orchid : Option Nat := none
  middleware : Option ReloadMiddleware := none
  arrivals : List ℚ := []
  reloading : List Nat := []

inductive ReloadEvent where
  | importMain (interval : ℚ)
  | setupOrchid (orchid : Nat)
  | arrive (now : ℚ)
  | reloadEnds (request : Nat) (outcome : Except Exn Unit)

structure ReloadCall where
  time : ℚ
  request : Nat
  orchid : Nat
  deriving DecidableEq

inductive ReloadEffect where
  | reload (call : ReloadCall)
  | callNext (request : Nat)

namespace ReloadApp

/-- A failed reload is passed over, unless it was not an `Exception`. -/
def afterReload (request : Nat) : Except Exn Unit → List ReloadEffect
  | .ok _ => [.callNext request]
  | .error error => if error.isException then [.callNext request] else []

def step (app : ReloadApp) : ReloadEvent → ReloadApp × List ReloadEffect
  | .importMain interval =>
    ({ app with middleware := if interval > 0 then some ⟨app.orchid, interval, 0⟩ else none }, [])
  | .setupOrchid orchid => ({ app with orchid := some orchid }, [])
  | .arrive now =>
    let request := app.arrivals.length
    let arrived := { app with arrivals := app.arrivals ++ [now] }
    match app.middleware with
    | none => (arrived, [.callNext request])
    | some m =>
      match m.dispatch now with
      | (m, none) => ({ arrived with middleware := some m }, [.callNext request])
      | (m, some orchid) =>
        ({ arrived with middleware := some m, reloading := app.reloading ++ [request] },
          [.reload ⟨now, request, orchid⟩])
  | .reloadEnds request outcome =>
    if request ∈ app.reloading then
      ({ app with reloading := app.reloading.filter (· ≠ request) }, afterReload request outcome)
    else (app, [])

/-- Import of the app module with `app_ctx.orchid` as given, `setup_orchid`, then the requests. -/
def serve (preset : Option Nat) (interval : ℚ) (orchid : Nat) (events : List ReloadEvent) :
    ReloadApp × List ReloadEffect :=
  Transducer.run step { orchid := preset } (.importMain interval :: .setupOrchid orchid :: events)

end ReloadApp

/-- What requests do: they arrive, and their reloads end, well or with an `Exception`. -/
def ReloadEvent.OfRequest : ReloadEvent → Prop
  | .arrive _ => True
  | .reloadEnds _ outcome => ∀ error, outcome = .error error → error.isException = true
  | _ => False

def arrivalTimes (events : List ReloadEvent) : List ℚ :=
  events.filterMap fun
    | .arrive now => some now
    | _ => none

def reloads (effects : List ReloadEffect) : List ReloadCall :=
  effects.filterMap fun
    | .reload call => some call
    | _ => none

def forwards (effects : List ReloadEffect) : List Nat :=
  effects.filterMap fun
    | .callNext request => some request
    | _ => none

/-- The requests that should reload, with the instance they should reload. -/
def wantedReloads (interval : ℚ) (orchid : Nat) (times : List ℚ) : List ReloadCall :=
  (Throttle.due interval 0 times.zipIdx).map fun arrival => ⟨arrival.1, arrival.2, orchid⟩

/-- Just the requests that are due reload, each the current instance, no two less than the
interval apart; and every request is forwarded once, or will be when its reload ends. -/
structure HotReload (interval : ℚ) (orchid : Nat) (times : List ℚ)
    (ended : ReloadApp × List ReloadEffect) : Prop where
  current : ended.1.orchid = some orchid
  due : reloads ended.2 = wantedReloads interval orchid times
  spaced : (reloads ended.2).Pairwise fun a b => a.time + interval ≤ b.time
  forwarded : ∀ request, (forwards ended.2).count request =
    if request < times.length ∧ request ∉ ended.1.reloading then 1 else 0

/-! ## Every run -/

@[simp] theorem forwards_append (first second : List ReloadEffect) :
    forwards (first ++ second) = forwards first ++ forwards second := by simp [forwards]

@[simp] theorem reloads_append (first second : List ReloadEffect) :
    reloads (first ++ second) = reloads first ++ reloads second := by simp [reloads]

/-- When the middleware last checked: never, without an instance. -/
def lastChecked (interval : ℚ) (times : List ℚ) : Option Nat → ℚ
  | none => 0
  | some _ => Throttle.lastDue interval 0 times.zipIdx

/-- The reloads of a middleware that holds on to the given reference. -/
def madeReloads (interval : ℚ) (times : List ℚ) : Option Nat → List ReloadCall
  | none => []
  | some held => wantedReloads interval held times

theorem lastDue_zipIdx (interval : ℚ) (times : List ℚ) (held : Nat) :
    Throttle.lastDue interval 0 times.zipIdx = lastChecked interval times (some held) := rfl

theorem wantedReloads_concat (interval : ℚ) (held : Nat) (times : List ℚ) (now : ℚ) :
    wantedReloads interval held (times ++ [now]) = wantedReloads interval held times ++
      if interval ≤ now - lastChecked interval times (some held) then [⟨now, times.length, held⟩]
      else [] := by
  rw [wantedReloads, List.zipIdx_append, Nat.zero_add, List.zipIdx_singleton, Throttle.due_concat,
    List.map_append, lastDue_zipIdx interval times held]
  by_cases passed : interval ≤ now - lastChecked interval times (some held)
  · rw [if_pos passed, if_pos passed]
    rfl
  · rw [if_neg passed, if_neg passed]
    rfl

theorem lastChecked_concat (interval : ℚ) (held : Nat) (times : List ℚ) (now : ℚ) :
    lastChecked interval (times ++ [now]) (some held) =
      if interval ≤ now - lastChecked interval times (some held) then now
      else lastChecked interval times (some held) := by
  rw [lastChecked, List.zipIdx_append, Nat.zero_add, List.zipIdx_singleton, Throttle.lastDue_concat,
    lastDue_zipIdx interval times held]

/-- What every run keeps, whatever the middleware holds on to. -/
structure ReloadInvariant (preset : Option Nat) (interval : ℚ) (orchid : Nat) (times : List ℚ)
    (ended : ReloadApp × List ReloadEffect) : Prop where
  current : ended.1.orchid = some orchid
  arrivals : ended.1.arrivals = times
  middleware : ended.1.middleware = some ⟨preset, interval, lastChecked interval times preset⟩
  made : reloads ended.2 = madeReloads interval times preset
  known : ∀ request ∈ ended.1.reloading, request < times.length
  forwarded : ∀ request, (forwards ended.2).count request =
    if request < times.length ∧ request ∉ ended.1.reloading then 1 else 0

section Run
variable {preset : Option Nat} {interval : ℚ} {orchid : Nat} {times : List ℚ} {app : ReloadApp}
  {effects : List ReloadEffect}

/-- A request that does not reload is forwarded at once. -/
theorem invariant_passes (invariant : ReloadInvariant preset interval orchid times (app, effects))
    (now : ℚ) (idle : lastChecked interval (times ++ [now]) preset = lastChecked interval times preset)
    (none : madeReloads interval (times ++ [now]) preset = madeReloads interval times preset) :
    ReloadInvariant preset interval orchid (times ++ [now])
      ({ app with arrivals := app.arrivals ++ [now] }, effects ++ [.callNext times.length]) := by
  obtain ⟨current, arrivals, middleware, made, known, forwarded⟩ := invariant
  refine ⟨current, congrArg (· ++ [now]) arrivals, idle ▸ middleware, ?_, ?_, fun request => ?_⟩
  · rw [none, ← made]
    simp [reloads]
  · intro request member
    have earlier := known request member
    rw [List.length_append]
    exact Nat.lt_add_right _ earlier
  · have before := forwarded request
    have last : times.length ∉ app.reloading := fun member => absurd (known _ member) (lt_irrefl _)
    simp only [forwards_append, List.count_append, before, List.length_append, List.length_singleton]
    simp only [forwards, List.filterMap_cons, List.filterMap_nil, List.count_singleton, beq_iff_eq]
    by_cases here : times.length = request
    · subst here
      simp [last]
    · have within : request < times.length + 1 ↔ request < times.length := by omega
      simp [here, within]

/-- One that reloads waits for the end of the reload. -/
theorem invariant_reloads {held : Nat}
    (invariant : ReloadInvariant (some held) interval orchid times (app, effects)) {now : ℚ}
    (passed : interval ≤ now - lastChecked interval times (some held)) :
    ReloadInvariant (some held) interval orchid (times ++ [now])
      ({ app with arrivals := app.arrivals ++ [now]
                  middleware := some ⟨some held, interval, now⟩
                  reloading := app.reloading ++ [times.length] },
        effects ++ [.reload ⟨now, times.length, held⟩]) := by
  obtain ⟨current, arrivals, middleware, made, known, forwarded⟩ := invariant
  refine ⟨current, congrArg (· ++ [now]) arrivals, ?_, ?_, ?_, fun request => ?_⟩
  · rw [lastChecked_concat, if_pos passed]
  · simp only [madeReloads] at made ⊢
    rw [wantedReloads_concat, if_pos passed, ← made]
    simp [reloads]
  · intro request member
    rw [List.length_append, List.length_singleton]
    rcases List.mem_append.mp member with old | new
    · exact Nat.lt_succ_of_lt (known request old)
    · rw [List.mem_singleton.mp new]
      exact Nat.lt_succ_self _
  · have before := forwarded request
    simp only [forwards_append, List.count_append, before, List.length_append, List.length_singleton,
      List.mem_append, List.mem_singleton]
    by_cases here : request = times.length
    · subst here
      simp [forwards]
    · have within : request < times.length + 1 ↔ request < times.length := by omega
      simp [forwards, here, within]

/-- The end of a reload forwards the request that waited for it. -/
theorem invariant_ends (invariant : ReloadInvariant preset interval orchid times (app, effects))
    {request : Nat} (waiting : request ∈ app.reloading) :
    ReloadInvariant preset interval orchid times
      ({ app with reloading := app.reloading.filter (· ≠ request) }, effects ++ [.callNext request]) := by
  obtain ⟨current, arrivals, middleware, made, known, forwarded⟩ := invariant
  refine ⟨current, arrivals, middleware, ?_, ?_, fun other => ?_⟩
  · rw [← made]
    simp [reloads]
  · exact fun other member => known other (List.mem_of_mem_filter member)
  · have before := forwarded other
    have within := known request waiting
    simp only [forwards_append, List.count_append, before]
    simp only [forwards, List.filterMap_cons, List.filterMap_nil, List.count_singleton, beq_iff_eq,
      List.mem_filter, decide_eq_true_eq]
    by_cases here : request = other
    · subst here
      simp [waiting, within]
    · simp [here, Ne.symm here]

theorem invariant_step (positive : 0 < interval)
    (invariant : ReloadInvariant preset interval orchid times (app, effects)) (e : ReloadEvent)
    (requests : e.OfRequest) :
    ReloadInvariant preset interval orchid (times ++ arrivalTimes [e])
      ((app.step e).1, effects ++ (app.step e).2) := by
  cases e with
  | importMain | setupOrchid => exact requests.elim
  | arrive now =>
    have index : app.arrivals.length = times.length := congrArg List.length invariant.arrivals
    have wired : app.middleware = some ⟨preset, interval, lastChecked interval times preset⟩ :=
      invariant.middleware
    change ReloadInvariant preset interval orchid (times ++ [now]) _
    simp only [ReloadApp.step, wired, ReloadMiddleware.dispatch, index]
    cases preset with
    | none =>
      have same := invariant_passes invariant now rfl rfl
      exact ⟨same.current, same.arrivals, rfl, same.made, same.known, same.forwarded⟩
    | some held =>
      simp only [if_neg positive.not_ge, ge_iff_le]
      by_cases passed : interval ≤ now - lastChecked interval times (some held)
      · rw [if_pos passed]
        exact invariant_reloads invariant passed
      · rw [if_neg passed]
        have same := invariant_passes invariant now
          (by rw [lastChecked_concat, if_neg passed])
          (by simp only [madeReloads, wantedReloads_concat, if_neg passed, List.append_nil])
        refine ⟨same.current, same.arrivals, ?_, same.made, same.known, same.forwarded⟩
        rw [lastChecked_concat, if_neg passed]
  | reloadEnds request outcome =>
    rw [show arrivalTimes [ReloadEvent.reloadEnds request outcome] = [] from rfl, List.append_nil]
    simp only [ReloadApp.step]
    split
    · rename_i waiting
      have forwards : ReloadApp.afterReload request outcome = [.callNext request] := by
        cases outcome with
        | ok value => rfl
        | error error => exact if_pos (requests error rfl)
      rw [forwards]
      exact invariant_ends invariant waiting
    · rw [List.append_nil]
      exact invariant

theorem invariant_start (positive : 0 < interval) :
    ReloadInvariant preset interval orchid [] (ReloadApp.serve preset interval orchid []) := by
  have wired : ReloadApp.serve preset interval orchid [] =
      ({ orchid := some orchid, middleware := some ⟨preset, interval, 0⟩ }, []) := by
    simp [ReloadApp.serve, Transducer.run, ReloadApp.step, positive]
  rw [wired]
  refine ⟨rfl, rfl, ?_, ?_, by simp, by simp [forwards]⟩
  · cases preset <;> rfl
  · cases preset <;> rfl

theorem invariant_serve (positive : 0 < interval) (events : List ReloadEvent)
    (requests : ∀ e ∈ events, e.OfRequest) :
    ReloadInvariant preset interval orchid (arrivalTimes events)
      (ReloadApp.serve preset interval orchid events) := by
  induction events using List.reverseRecOn with
  | nil => exact invariant_start positive
  | append_singleton events e ih =>
    have earlier := ih fun d member => requests d (List.mem_append_left _ member)
    have run : ReloadApp.serve preset interval orchid (events ++ [e]) =
        (((ReloadApp.serve preset interval orchid events).1.step e).1,
          (ReloadApp.serve preset interval orchid events).2 ++
            ((ReloadApp.serve preset interval orchid events).1.step e).2) :=
      Transducer.run_concat ReloadApp.step _ (.importMain interval :: .setupOrchid orchid :: events) e
    rw [run, show arrivalTimes (events ++ [e]) = arrivalTimes events ++ arrivalTimes [e] from
      List.filterMap_append]
    exact invariant_step positive earlier e (requests e (by simp))

/-- Nothing is due as long as all requests are early. -/
theorem wantedReloads_eq_nil_iff (interval : ℚ) (held : Nat) (times : List ℚ) :
    wantedReloads interval held times = [] ↔ ∀ now ∈ times, now < interval := by
  rw [wantedReloads, List.map_eq_nil_iff, Throttle.due_eq_nil_iff]
  constructor
  · intro early now member
    obtain ⟨i, within, rfl⟩ := List.getElem_of_mem member
    simpa using early (times[i], i) (List.mk_mem_zipIdx_iff_getElem?.mpr (List.getElem?_eq_getElem within))
  · rintro early ⟨now, i⟩ member
    simpa using early now (List.mem_of_getElem? (List.mk_mem_zipIdx_iff_getElem?.mp member))

theorem madeReloads_eq_iff :
    madeReloads interval times preset = wantedReloads interval orchid times ↔
      preset = some orchid ∨ ∀ now ∈ times, now < interval := by
  rw [← wantedReloads_eq_nil_iff interval orchid times]
  cases preset with
  | none => exact ⟨fun none => .inr none.symm, fun early => (early.resolve_left nofun).symm⟩
  | some held =>
    by_cases same : held = orchid
    · simp [same, madeReloads]
    · simp only [madeReloads, Option.some.injEq, same, false_or, wantedReloads]
      constructor
      · intro alike
        cases calls : Throttle.due interval 0 times.zipIdx with
        | nil => rfl
        | cons arrival rest => simp [calls, same] at alike
      · intro none
        simp [List.map_eq_nil_iff.mp none]

theorem madeReloads_spaced (positive : 0 < interval) :
    (madeReloads interval times preset).Pairwise fun a b => a.time + interval ≤ b.time := by
  cases preset with
  | none => exact .nil
  | some held => exact List.pairwise_map.mpr (Throttle.due_spaced positive 0 times.zipIdx)

/-- Requests hot-reload the live instance as they should, exactly when the instance was there
before the app module was imported, or none of them comes late enough to reload. -/
theorem hot_reload_iff (positive : 0 < interval) (events : List ReloadEvent)
    (requests : ∀ e ∈ events, e.OfRequest) :
    HotReload interval orchid (arrivalTimes events) (ReloadApp.serve preset interval orchid events) ↔
      preset = some orchid ∨ ∀ now ∈ arrivalTimes events, now < interval := by
  have invariant := @invariant_serve preset interval orchid positive events requests
  rw [← madeReloads_eq_iff]
  constructor
  · exact fun reload => invariant.made.symm.trans reload.due
  · exact fun same => ⟨invariant.current, invariant.made.trans same,
      invariant.made ▸ madeReloads_spaced positive, invariant.forwarded⟩

end Run

/-! Two requests, the first of which comes long after the import. -/

def lateRequests : List ReloadEvent := [.arrive 100, .reloadEnds 0 (.error .other), .arrive 110]

theorem hot_reload_iff_late :
    HotReload 30 7 (arrivalTimes lateRequests) (ReloadApp.serve (some 7) 30 7 lateRequests) ↔
      some 7 = some 7 ∨ ∀ now ∈ arrivalTimes lateRequests, now < 30 := by
  refine hot_reload_iff (by norm_num) lateRequests ?_
  intro e member
  simp only [lateRequests, List.mem_cons, List.not_mem_nil, or_false] at member
  rcases member with rfl | rfl | rfl
  · trivial
  · rintro error ⟨⟩
    rfl
  · trivial

/-- The module is imported before the instance is there, and nothing is ever reloaded. -/
theorem nothing_reloaded :
    reloads (ReloadApp.serve none 30 7 lateRequests).2 = [] ∧
      wantedReloads 30 7 (arrivalTimes lateRequests) = [⟨100, 0, 7⟩] ∧
      ¬HotReload 30 7 (arrivalTimes lateRequests) (ReloadApp.serve none 30 7 lateRequests) := by
  have none : reloads (ReloadApp.serve none 30 7 lateRequests).2 = [] := by
    simp [ReloadApp.serve, lateRequests, Transducer.run, ReloadApp.step, ReloadMiddleware.dispatch, reloads]
  have wanted : wantedReloads 30 7 (arrivalTimes lateRequests) = [⟨100, 0, 7⟩] := by
    have times : arrivalTimes lateRequests = [100, 110] := rfl
    rw [times]
    norm_num [wantedReloads, Throttle.due]
  refine ⟨none, wanted, fun reload => ?_⟩
  have due := reload.due
  rw [none, wanted] at due
  cases due

end OrchidApi
