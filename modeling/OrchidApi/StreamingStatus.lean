import OrchidApi.StreamingAnswer

/-! The status frames of the agents: each agent starts once and finishes at most once after
that, and `done` lists just the agents and the results that were reported. -/
namespace OrchidApi
open Text

/-- A text of the payload, as the client reads it. -/
def Frame.field (key : String) (f : Frame) : Option Str :=
  match f.payload.lookup key.toList with
  | some (.str s) => some s
  | _ => none

/-- What a frame reports of the agent, if it is a status frame for it. -/
def Frame.status (agent : Str) (f : Frame) : Option Str :=
  if f.hasType "status" ∧ f.field "agent" = some agent then f.field "status" else none

def statuses (agent : Str) (frames : List Frame) : List Str := frames.filterMap (Frame.status agent)

def startedText : Str := "started".toList
def doneText : Str := "done".toList

section Status
variable {agent : Str}

theorem status_of_fields {f : Frame} {other text : Str} (typed : f.hasType "status" = true)
    (named : f.field "agent" = some other) (reported : f.field "status" = some text) :
    f.status agent = if other = agent then some text else none := by
  rw [Frame.status, typed, named, reported]
  simp only [Option.some.injEq, true_and]

@[simp] theorem status_started (other : Str) :
    (Frame.started other).status agent = if other = agent then some startedText else none :=
  status_of_fields rfl rfl rfl

@[simp] theorem status_finished (other text : Str) :
    (Frame.finished other text).status agent = if other = agent then some doneText else none :=
  status_of_fields rfl rfl rfl

theorem field_finished (other text : Str) : (Frame.finished other text).field "preview" = some text := by
  simp [Frame.field, Frame.payload, List.lookup_cons]

theorem status_other {f : Frame} (typed : f.hasType "status" = false) : f.status agent = none := by
  simp [Frame.status, typed]

@[simp] theorem status_buffered (token : BufferedToken) : (Frame.buffered token).status agent = none := by
  obtain ⟨kind, content⟩ := token
  cases kind <;> exact status_other (by simp [TokenKind.name])

@[simp] theorem statuses_append (first second : List Frame) :
    statuses agent (first ++ second) = statuses agent first ++ statuses agent second := by
  simp [statuses]

theorem status_lifecycle {event : LifecycleEvent} (documented : event.Documented) :
    (Frame.lifecycle event).status agent = none :=
  status_other (hasType_lifecycle event "status" documented (by decide))

end Status

theorem maybeEmitAgentDone_spec {settings : Settings} {msg : Message} {agentName : Str}
    {results : List (Str × Str)} {reply : Str} {f : Frame}
    (finished : maybeEmitAgentDone settings msg agentName results = some (reply, f)) :
    agentName ∉ results.map Prod.fst ∧ f = .finished agentName (preview reply) := by
  unfold maybeEmitAgentDone at finished
  split at finished
  · contradiction
  · rename_i absent
    constructor
    · intro known
      obtain ⟨entry, member, rfl⟩ := List.mem_map.mp known
      have none := List.lookup_eq_none_iff.mp (Option.not_isSome_iff_eq_none.mp absent)
      simpa using none entry member
    · dsimp only at finished
      repeat' split at finished
      all_goals first | contradiction | (cases finished; rfl)

/-! ## The loop -/

/-- What a run of the loop has reported of an agent. -/
def StreamState.reported (s : StreamState) (agent : Str) : List Str :=
  (if s.seenAgents.contains agent then [startedText] else []) ++
    if (s.agentResults.map Prod.fst).contains agent then [doneText] else []

/-- The tables of the loop agree with the frames sent so far. -/
structure StatusLedger (s : StreamState) (sent : List Frame) : Prop where
  agents : s.seenAgents.Nodup
  keys : (s.agentResults.map Prod.fst).Nodup
  known : ∀ agent ∈ s.agentResults.map Prod.fst, agent ∈ s.seenAgents
  statuses : ∀ agent, statuses agent sent = s.reported agent
  previews : ∀ agent, ∀ f ∈ sent, f.status agent = some doneText →
    ∃ reply, (agent, reply) ∈ s.agentResults ∧ f.field "preview" = some (preview reply)

namespace StatusLedger
variable {s : StreamState} {sent frames : List Frame}

/-- Frames of other types leave the tables in agreement. -/
theorem quiet (ledger : StatusLedger s sent) (none : ∀ f ∈ frames, ∀ agent, f.status agent = none) :
    StatusLedger s (sent ++ frames) := by
  refine ⟨ledger.agents, ledger.keys, ledger.known, fun agent => ?_, fun agent f member ended => ?_⟩
  · have silent : OrchidApi.statuses agent frames = [] :=
      List.filterMap_eq_nil_iff.mpr fun f member => none f member agent
    rw [statuses_append, silent, List.append_nil]
    exact ledger.statuses agent
  · rcases List.mem_append.mp member with old | new
    · exact ledger.previews agent f old ended
    · simp [none f new agent] at ended

/-- A turn that leaves the tables alone and sends nothing but buffered tokens. -/
theorem passes (ledger : StatusLedger s sent) {t : StreamState} (agents : t.seenAgents = s.seenAgents)
    (results : t.agentResults = s.agentResults) (tokens : List BufferedToken) :
    StatusLedger t (sent ++ tokens.map .buffered) := by
  have same : StatusLedger s (sent ++ tokens.map .buffered) := ledger.quiet (by simp)
  obtain ⟨_, _, _, _, _, _⟩ := t
  obtain rfl := agents
  obtain rfl := results
  exact ⟨same.agents, same.keys, same.known, same.statuses, same.previews⟩

theorem start (ledger : StatusLedger s sent) (agentName : Str) :
    StatusLedger { s with seenAgents := s.seenAgents.insert agentName }
      (sent ++ if s.seenAgents.contains agentName then [] else [.started agentName]) := by
  by_cases seen : agentName ∈ s.seenAgents
  · simpa [seen, List.insert_of_mem] using ledger
  · rw [List.insert_of_not_mem seen, if_neg (by simpa using seen)]
    refine ⟨ledger.agents.cons seen, ledger.keys, fun agent member => ?_, fun agent => ?_,
      fun agent f member ended => ?_⟩
    · exact List.mem_cons_of_mem _ (ledger.known agent member)
    · rw [statuses_append, ledger.statuses]
      by_cases same : agentName = agent
      · subst same
        have fresh : agentName ∉ s.agentResults.map Prod.fst := fun done => seen (ledger.known _ done)
        simp only [StreamState.reported, List.contains_iff_mem, seen, fresh, OrchidApi.statuses, List.filterMap_cons,
          status_started, List.filterMap_nil, List.mem_cons, true_or, ↓reduceIte]
        rfl
      · simp [StreamState.reported, OrchidApi.statuses, same, Ne.symm same]
    · rcases List.mem_append.mp member with old | new
      · exact ledger.previews agent f old ended
      · rw [List.mem_singleton.mp new, status_started] at ended
        split at ended
        · exact absurd (Option.some.inj ended) (by decide)
        · contradiction

theorem finish (ledger : StatusLedger s sent) {agentName reply : Str}
    (seen : agentName ∈ s.seenAgents) (fresh : agentName ∉ s.agentResults.map Prod.fst) :
    StatusLedger { s with agentResults := s.agentResults ++ [(agentName, reply)] }
      (sent ++ [.finished agentName (preview reply)]) := by
  refine ⟨ledger.agents, ?_, ?_, fun agent => ?_, fun agent f member ended => ?_⟩
  · rw [List.map_append, List.nodup_append]
    refine ⟨ledger.keys, by simp, ?_⟩
    rintro agent old _ new rfl
    obtain rfl := List.mem_singleton.mp new
    exact fresh old
  · intro agent member
    rw [List.map_append] at member
    rcases List.mem_append.mp member with old | new
    · exact ledger.known agent old
    · rw [List.mem_singleton.mp new]
      exact seen
  · rw [statuses_append, ledger.statuses]
    by_cases same : agentName = agent
    · subst same
      simp only [StreamState.reported, List.contains_iff_mem, seen, fresh, OrchidApi.statuses, List.filterMap_cons,
        status_finished, List.filterMap_nil, List.map_append, List.map_cons, List.map_nil,
        List.mem_append, List.mem_singleton, or_true, ↓reduceIte]
      rfl
    · have keys : agent ∈ (s.agentResults ++ [(agentName, reply)]).map Prod.fst ↔
          agent ∈ s.agentResults.map Prod.fst := by
        rw [List.map_append, List.mem_append]
        exact or_iff_left fun new => same (List.mem_singleton.mp new).symm
      simp only [StreamState.reported, List.contains_iff_mem, OrchidApi.statuses, keys, List.filterMap_cons,
        status_finished, same, ↓reduceIte, List.filterMap_nil, List.append_nil]
  · rcases List.mem_append.mp member with old | new
    · obtain ⟨earlier, stored, shown⟩ := ledger.previews agent f old ended
      exact ⟨earlier, List.mem_append_left _ stored, shown⟩
    · obtain rfl := List.mem_singleton.mp new
      obtain rfl : agentName = agent := by simpa using ended
      exact ⟨reply, List.mem_append_right _ (List.mem_singleton_self _), field_finished _ _⟩

end StatusLedger

theorem onAgent_statuses (settings : Settings) (s : StreamState) (msg : Message) (agentName : Str)
    {sent : List Frame} (ledger : StatusLedger s sent) :
    StatusLedger (onAgent settings s msg agentName).1
      (sent ++ (onAgent settings s msg agentName).2) := by
  -- The handoff, then the start of a new agent, then the end of one that has replied.
  have handed : StatusLedger ((s.withBuffer s.buffer.discardAsHandoff.1).emit
      s.buffer.discardAsHandoff.2.toList).1 (sent ++ ((s.withBuffer s.buffer.discardAsHandoff.1).emit
      s.buffer.discardAsHandoff.2.toList).2) := ledger.passes (by rfl) (by rfl) _
  have started := handed.start agentName
  simp only [onAgent]
  rw [← List.append_assoc, ← List.append_assoc]
  cases finished : maybeEmitAgentDone settings msg agentName s.agentResults with
  | none =>
    simp only [Option.map_none, Option.toList_none, List.append_nil]
    exact ⟨started.agents, started.keys, started.known, started.statuses, started.previews⟩
  | some done =>
    obtain ⟨fresh, shown⟩ := maybeEmitAgentDone_spec finished
    have ended := @StatusLedger.finish _ _ started agentName done.1 List.mem_insert_self fresh
    simp only [Option.map_some, Option.toList_some, shown]
    exact ⟨ended.agents, ended.keys, ended.known, ended.statuses, ended.previews⟩

theorem onEvent_statuses (settings : Settings) (s : StreamState) (e : GraphEvent) {sent : List Frame}
    (documented : e.Documented) (ledger : StatusLedger s sent) :
    StatusLedger (onEvent settings s e).1 (sent ++ (onEvent settings s e).2) := by
  generalize result : onEvent settings s e = r
  have step := result ▸ turn settings s e
  cases step with
  | values payload => exact ledger.passes (by rfl) (by rfl) []
  | appended e content taken => exact ledger.passes (by rfl) (by rfl) []
  | skipped => simpa using ledger
  | lifecycle msg node event known =>
    refine ledger.quiet fun f member agent => ?_
    rw [List.mem_singleton.mp member]
    exact status_lifecycle (documented event known)
  | agent msg node => exact onAgent_statuses settings s msg _ ledger
  | inlined e content => exact ledger.passes (by rfl) (by rfl) _

/-- At the end of the loop the tables agree with the frames of the loop. -/
theorem loopState_statuses (settings : Settings) (events : List GraphEvent)
    (documented : ∀ e ∈ events, e.Documented) :
    StatusLedger (loopState settings events) (loopFrames settings events) := by
  have start : StatusLedger {} [] :=
    ⟨.nil, .nil, by simp, fun agent => by simp [statuses, StreamState.reported], by simp⟩
  refine @Transducer.run_history _ _ _ (onEvent settings)
    (fun frames t => StatusLedger t frames) events ?_ [] {} start
  exact fun frames t e member ledger => onEvent_statuses settings t e (documented e member) ledger

/-! ## The finished stream -/

/-- The status frames of one stream beside its `done` frame. -/
structure StatusProtocol (sent : List Frame) (d : Done) : Prop where
  last : sent.getLast? = some (.done d)
  ordered : ∀ agent, statuses agent sent <+: [startedText, doneText]
  started : ∀ agent, startedText ∈ statuses agent sent ↔ agent ∈ d.agentsUsed
  sorted : d.agentsUsed.Pairwise (· < ·)
  finished : ∀ agent, doneText ∈ statuses agent sent ↔ agent ∈ d.agentResults.map Prod.fst
  keyed : (d.agentResults.map Prod.fst).Nodup
  known : d.agentResults.map Prod.fst ⊆ d.agentsUsed
  previews : ∀ agent, ∀ f ∈ sent, f.status agent = some doneText →
    ∃ reply, (agent, reply) ∈ d.agentResults ∧
      f.field "preview" = some (if reply.length ≤ 200 then reply else reply.take 200 ++ "…".toList)

theorem preview_eq (reply : Str) :
    preview reply = if reply.length ≤ 200 then reply else reply.take 200 ++ "…".toList := by
  unfold preview
  split <;> split <;> first | rfl | omega

theorem agentsUsed_sorted {s : StreamState} (distinct : s.seenAgents.Nodup) :
    s.agentsUsed.Pairwise (· < ·) := by
  have ordered : s.agentsUsed.Pairwise (· ≤ ·) := List.pairwise_insertionSort _ _
  have unique : s.agentsUsed.Nodup := (List.perm_insertionSort _ _).nodup_iff.mpr distinct
  exact (ordered.and unique).imp fun both => lt_of_le_of_ne both.1 both.2

theorem mem_agentsUsed {s : StreamState} {agent : Str} :
    agent ∈ s.agentsUsed ↔ agent ∈ s.seenAgents := List.mem_insertionSort _

/-- The exits leave both tables alone. -/
theorem exitState_tables (s : StreamState) (ending : Option Exn) :
    (exitState s ending).seenAgents = s.seenAgents ∧
      (exitState s ending).agentResults = s.agentResults := by
  cases ending with
  | some error => exact ⟨rfl, rfl⟩
  | none =>
    simp only [exitState, fallback]
    repeat' split
    all_goals exact ⟨rfl, rfl⟩

theorem exitFrames_statuses (settings : Settings) (run : GraphRun) (agent : Str) :
    ∀ f ∈ exitFrames settings (loopState settings run.events) run.ending,
      f.status agent = none := by
  intro f member
  rcases exit_cases settings run with ⟨_, frames⟩ | ⟨_, _, message, frames⟩
  · rw [frames] at member
    obtain ⟨content, _, rfl⟩ := List.mem_map.mp member
    exact status_buffered _
  · rw [frames] at member
    rw [List.mem_singleton.mp member]
    exact status_other (by simp)

theorem reported_prefix (s : StreamState) (agent : Str)
    (known : ∀ agent ∈ s.agentResults.map Prod.fst, agent ∈ s.seenAgents) :
    s.reported agent <+: [startedText, doneText] := by
  simp only [StreamState.reported, List.contains_iff_mem]
  by_cases seen : agent ∈ s.seenAgents
  · rw [if_pos seen]
    split <;> simp
  · have pending : agent ∉ s.agentResults.map Prod.fst := fun done => seen (known agent done)
    simp only [seen, pending, ↓reduceIte, List.append_nil, List.nil_prefix]

theorem started_mem_reported (s : StreamState) (agent : Str) :
    startedText ∈ s.reported agent ↔ agent ∈ s.seenAgents := by
  have apart : startedText ≠ doneText := by decide
  simp only [StreamState.reported, List.contains_iff_mem]
  split <;> split <;> simp_all

theorem done_mem_reported (s : StreamState) (agent : Str) :
    doneText ∈ s.reported agent ↔ agent ∈ s.agentResults.map Prod.fst := by
  have apart : doneText ≠ startedText := by decide
  simp only [StreamState.reported, List.contains_iff_mem]
  split <;> split <;> simp_all

/-- Each agent starts at most once and finishes at most once after that, and `done` tells the same. -/
theorem status_protocol (b : Backend) (w : World) (settings : Settings) (chatId : Str)
    (prepared : PreparedState) (caught : Caught b.run.ending)
    (documented : ∀ e ∈ b.run.events, e.Documented) :
    ∃ sent d, (serve b (streamSupervisorTokens settings chatId prepared) w).2.frames =
      w.frames ++ sent ∧ StatusProtocol sent d := by
  refine ⟨streamFrames settings prepared b.run,
    exitDone prepared (loopState settings b.run.events) b.run.ending, ?_, ?_⟩
  · rw [serve_stream caught]
    simp
  · have ledger : StatusLedger (loopState settings b.run.events)
        (streamFrames settings prepared b.run) := by
      refine (loopState_statuses settings b.run.events documented).quiet fun f member agent => ?_
      rcases List.mem_append.mp member with exit | done
      · exact exitFrames_statuses settings b.run agent f exit
      · rw [List.mem_singleton.mp done]
        exact status_other (by simp)
    obtain ⟨agents, results⟩ := exitState_tables (loopState settings b.run.events) b.run.ending
    have kept : (exitDone prepared (loopState settings b.run.events) b.run.ending).agentResults =
        (loopState settings b.run.events).agentResults := results
    have used : ∀ agent, agent ∈ (exitDone prepared (loopState settings b.run.events)
        b.run.ending).agentsUsed ↔ agent ∈ (loopState settings b.run.events).seenAgents := fun agent =>
      mem_agentsUsed.trans (agents ▸ Iff.rfl)
    refine ⟨by simp [streamFrames, ← List.append_assoc], fun agent => ?_, fun agent => ?_, ?_,
      fun agent => ?_, ?_, fun agent member => ?_, fun agent f member ended => ?_⟩
    · exact ledger.statuses agent ▸ reported_prefix _ agent ledger.known
    · rw [ledger.statuses, started_mem_reported, used]
    · exact agentsUsed_sorted (agents ▸ ledger.agents)
    · rw [ledger.statuses, done_mem_reported]
      rw [kept]
    · rw [kept]
      exact ledger.keys
    · rw [kept] at member
      exact (used agent).mpr (ledger.known agent member)
    · obtain ⟨reply, stored, shown⟩ := ledger.previews agent f member ended
      rw [preview_eq] at shown
      exact ⟨reply, kept ▸ stored, shown⟩

/-- Two agents, of which the cook replies at length and then again. -/
def reporting : List GraphEvent :=
  let long := List.replicate 120 'z' ++ ' ' :: List.replicate 120 'z'
  [.message { content := some long } "cook_agent".toList,
    .message { content := some long, toolCalls := true } "menu_agent".toList,
    .message { content := some long } "cook_agent".toList]

theorem status_protocol_sample :
    ∃ sent d, (serve { run := ⟨reporting, some .timeout⟩ } (streamSupervisorTokens {} "c".toList
        samplePrepared) ⟨{}, []⟩).2.frames = [] ++ sent ∧ StatusProtocol sent d := by
  refine status_protocol { run := ⟨reporting, some .timeout⟩ } ⟨{}, []⟩ {} "c".toList
    samplePrepared (by simp [Caught, Exn.isException]) ?_
  intro e member
  simp only [reporting, List.mem_cons, List.not_mem_nil, or_false] at member
  rcases member with rfl | rfl | rfl <;> simp [GraphEvent.Documented]

example : statuses "cook".toList (loopFrames {} reporting) = [startedText, doneText] ∧
    statuses "menu".toList (loopFrames {} reporting) = [startedText] := by decide +kernel

end OrchidApi
