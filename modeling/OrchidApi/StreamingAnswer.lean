import OrchidApi.StreamingTurn

/-! The answer of a stream: what is sent as tokens, what `done` announces and what is
stored agree, and every token has a supervisor message as its origin. -/
namespace OrchidApi
open Text

/-! ## Invariants of the loop -/

structure StreamState.Invariant (s : StreamState) : Prop where
  fresh : s.buffer.Fresh
  spoken : ∀ chunk ∈ s.buffer.chunks, chunk ≠ []
  direct : ∀ text ∈ s.directFinal, text ≠ []

theorem initial_invariant : ({} : StreamState).Invariant :=
  ⟨by simp [SupervisorTokenBuffer.Fresh], by simp, by simp⟩

theorem cleared_invariant {s t : StreamState} (invariant : s.Invariant)
    (cleared : t.buffer.chunks = []) (direct : t.directFinal = s.directFinal) : t.Invariant :=
  ⟨t.buffer.fresh_of_empty cleared, by simp [cleared], direct ▸ invariant.direct⟩

theorem answer_nonempty {payload : Values} {text : Str} (found : payload.answer? = some text) :
    text ≠ [] := by
  have := (Option.filter_eq_some_iff.mp found).2
  intro empty
  simp [empty] at this

theorem supervisorText_nonempty {e : GraphEvent} {text : Str}
    (found : e.supervisorText = some text) : text ≠ [] := by
  cases e with
  | values payload => simp [GraphEvent.supervisorText] at found
  | message msg node =>
    simp only [GraphEvent.supervisorText] at found
    split at found
    · have := (Option.filter_eq_some_iff.mp found).2
      intro empty
      simp [empty] at this
    · contradiction

theorem accepted_iff {s : StreamState} {e : GraphEvent} {content : Str} :
    accepted s e = some content ↔
      e.supervisorText = some content ∧ s.takes e.hasToolCalls content = true :=
  Option.filter_eq_some_iff

theorem accepted_fresh {s : StreamState} {e : GraphEvent} {content : Str}
    (taken : accepted s e = some content) : s.buffer.alreadyEmitted content = false := by
  have guards := (accepted_iff.mp taken).2
  simp only [StreamState.takes, Bool.and_eq_true, Bool.not_eq_true'] at guards
  exact guards.1.2

theorem onEvent_invariant (settings : Settings) (s : StreamState) (e : GraphEvent)
    (invariant : s.Invariant) : (onEvent settings s e).1.Invariant := by
  generalize result : onEvent settings s e = r
  have step := result ▸ turn settings s e
  cases step with
  | values payload =>
    refine ⟨invariant.fresh, invariant.spoken, fun text member => ?_⟩
    cases found : payload.answer? with
    | none => exact invariant.direct text (by simpa [found] using member)
    | some answer =>
      have : answer = text := by simpa [found] using member
      exact this ▸ answer_nonempty found
  | lifecycle | skipped => exact invariant
  | agent msg node => exact cleared_invariant invariant (s.buffer.discardAsHandoff_chunks) rfl
  | inlined e content =>
    exact cleared_invariant invariant (s.buffer.recordInlineHandoff_chunks content) rfl
  | appended e content taken =>
    refine ⟨s.buffer.append_fresh content invariant.fresh (accepted_fresh taken), ?_,
      invariant.direct⟩
    intro chunk member
    rcases List.mem_append.mp member with held | last
    · exact invariant.spoken chunk held
    · exact List.mem_singleton.mp last ▸ supervisorText_nonempty (accepted_iff.mp taken).1

theorem drive_invariant (settings : Settings) (s : StreamState) (events : List GraphEvent)
    (invariant : s.Invariant) : (drive settings s events).1.Invariant :=
  Transducer.run_keeps (fun t e _ => onEvent_invariant settings t e) invariant

theorem loopState_invariant (settings : Settings) (events : List GraphEvent) :
    (loopState settings events).Invariant := drive_invariant settings {} events initial_invariant

/-- The non-empty final responses of the values stream, in order. -/
def answers (events : List GraphEvent) : List Str :=
  events.filterMap fun e => e.value?.bind Values.answer?

theorem onEvent_directFinal (settings : Settings) (s : StreamState) (e : GraphEvent) :
    (onEvent settings s e).1.directFinal = (e.value?.bind Values.answer?).or s.directFinal := by
  cases e with
  | values payload => rfl
  | message msg node =>
    generalize result : onEvent settings s (.message msg node) = r
    have step := result ▸ turn settings s (.message msg node)
    cases step <;> rfl

theorem drive_directFinal (settings : Settings) (s : StreamState) (events : List GraphEvent) :
    (drive settings s events).1.directFinal = (answers events).getLast?.or s.directFinal := by
  induction events generalizing s with
  | nil => rfl
  | cons e rest ih =>
    have step : (drive settings s (e :: rest)).1 = (drive settings (onEvent settings s e).1 rest).1 := rfl
    rw [step, ih, onEvent_directFinal, answers, answers, List.filterMap_cons]
    cases found : e.value?.bind Values.answer? with
    | none => simp
    | some text =>
      cases h : (rest.filterMap fun e => e.value?.bind Values.answer?).getLast? with
      | none => simp [List.getLast?_eq_none_iff.mp h]
      | some last => simp [List.getLast?_cons, h]

/-! ## Frames of the loop -/

/-- The frames that report progress, never part of the answer. -/
def Frame.Progress : Frame → Prop
  | .lifecycle event => event.Documented
  | .buffered token => token.kind = .handoff
  | .started _ | .finished _ _ => True
  | .error _ | .done _ => False

def GraphEvent.Documented : GraphEvent → Prop
  | .message msg _ => ∀ event ∈ msg.event, event.Documented
  | .values _ => True

theorem emit_handoff_progress (s : StreamState) (t : Option BufferedToken)
    (handoff : ∀ token, t = some token → token.kind = .handoff) :
    ∀ f ∈ (s.emit t.toList).2, f.Progress := by
  cases t with
  | none => simp [StreamState.emit]
  | some token => simpa [StreamState.emit, Frame.Progress] using handoff token rfl

theorem maybeEmitAgentDone_progress (settings : Settings) (msg : Message) (agent : Str)
    (results : List (Str × Str)) (reply : Str) (f : Frame)
    (sent : maybeEmitAgentDone settings msg agent results = some (reply, f)) : f.Progress := by
  unfold maybeEmitAgentDone at sent
  dsimp only at sent
  repeat' split at sent
  all_goals first | contradiction | (cases sent; trivial)

theorem onEvent_progress (settings : Settings) (s : StreamState) (e : GraphEvent)
    (documented : e.Documented) : ∀ f ∈ (onEvent settings s e).2, f.Progress := by
  generalize result : onEvent settings s e = r
  have step := result ▸ turn settings s e
  cases step with
  | values | skipped | appended => simp
  | lifecycle msg node event known => simpa [Frame.Progress] using documented event known
  | inlined e content =>
    exact emit_handoff_progress _ _ fun token => s.buffer.recordInlineHandoff_kind content token
  | agent msg node =>
    intro f member
    simp only [onAgent, List.mem_append, Option.mem_toList, Option.map_eq_some_iff] at member
    rcases member with (handoff | started) | ⟨⟨reply, _⟩, sent, rfl⟩
    · exact emit_handoff_progress _ _ (fun token => s.buffer.discardAsHandoff_kind token) f handoff
    · split at started
      · contradiction
      · rw [List.mem_singleton.mp started]; trivial
    · exact maybeEmitAgentDone_progress _ _ _ _ _ _ sent

theorem drive_progress (settings : Settings) (s : StreamState) (events : List GraphEvent)
    (documented : ∀ e ∈ events, e.Documented) : ∀ f ∈ (drive settings s events).2, f.Progress :=
  Transducer.run_outputs (fun t e member => onEvent_progress settings t e (documented e member)) s

/-- Progress frames have none of the types a client reads the answer from. -/
theorem progress_hasType {f : Frame} (progress : f.Progress) :
    f.hasType "token" = false ∧ f.hasType "done" = false ∧ f.hasType "error" = false := by
  cases f with
  | lifecycle event =>
    exact ⟨hasType_lifecycle event _ progress (by decide),
      hasType_lifecycle event _ progress (by decide), hasType_lifecycle event _ progress (by decide)⟩
  | buffered token =>
    have kind : token.kind = .handoff := progress
    simp [kind, TokenKind.name]
  | started | finished => simp
  | error | done => exact progress.elim

theorem tokenContents_progress {frames : List Frame} (progress : ∀ f ∈ frames, f.Progress) :
    tokenContents frames = [] := by
  have none : frames.filter (Frame.hasType "token") = [] :=
    List.filter_eq_nil_iff.mpr fun f member => by simp [(progress_hasType (progress f member)).1]
  simp [tokenContents, none]

theorem filter_progress {frames : List Frame} (progress : ∀ f ∈ frames, f.Progress) :
    frames.filter (Frame.hasType "done") = [] ∧ frames.filter (Frame.hasType "error") = [] :=
  ⟨List.filter_eq_nil_iff.mpr fun f member => by simp [(progress_hasType (progress f member)).2.1],
    List.filter_eq_nil_iff.mpr fun f member => by simp [(progress_hasType (progress f member)).2.2]⟩

/-! ## The flush and the fallback -/

/-- The tokens of a normally ended run: the buffer, else the last final response. -/
def StreamState.answerTokens (s : StreamState) : List Str :=
  if s.buffer.chunks = [] then s.directFinal.toList else s.buffer.chunks

@[simp] theorem tokenContents_tokens (contents : List Str) :
    tokenContents (contents.map fun content => .buffered ⟨.token, content⟩) = contents := by
  induction contents with
  | nil => rfl
  | cons content rest ih =>
    simpa [tokenContents, TokenKind.name, List.filter_cons] using ih

theorem emit_tokens (s : StreamState) (contents : List Str) :
    s.emit (contents.map (⟨.token, ·⟩)) =
      ({ s with fullResponseParts := s.fullResponseParts ++ contents },
        contents.map fun content => .buffered ⟨.token, content⟩) := by
  simp [StreamState.emit, List.filter_map, Function.comp_def]

theorem flush_eq (s : StreamState) (invariant : s.Invariant) (quiet : s.fullResponseParts = []) :
    flush s = ({ s with buffer := s.buffer.clear, fullResponseParts := s.buffer.chunks },
      s.buffer.chunks.map fun content => .buffered ⟨.token, content⟩) := by
  rw [flush, s.buffer.flush_fresh invariant.fresh, emit_tokens]
  simp [StreamState.withBuffer, quiet, SupervisorTokenBuffer.flushAsTokens]

theorem exhausted_exit (settings : Settings) (s : StreamState) (invariant : s.Invariant)
    (quiet : s.fullResponseParts = []) :
    exitFrames settings s none = (s.answerTokens.map fun content => .buffered ⟨.token, content⟩) ∧
      (exitState s none).fullResponseParts = s.answerTokens := by
  simp only [exitFrames, exitState, flush_eq s invariant quiet, fallback, StreamState.answerTokens]
  cases direct : s.directFinal with
  | none => by_cases held : s.buffer.chunks = [] <;> simp [held]
  | some text =>
    by_cases held : s.buffer.chunks = []
    · simp [held, StreamState.emit]
    · simp [held]

theorem answerTokens_nonempty (s : StreamState) (invariant : s.Invariant) :
    ∀ content ∈ s.answerTokens, content ≠ [] := by
  unfold StreamState.answerTokens
  split
  · intro content member
    exact invariant.direct content (Option.mem_toList.mp member)
  · exact invariant.spoken

/-- With non-empty parts the fallback stands exactly for no parts. -/
theorem response_eq (s : StreamState) (nonempty : ∀ part ∈ s.fullResponseParts, part ≠ []) :
    s.response = if s.fullResponseParts = [] then noResponse else s.fullResponseParts.flatten := by
  unfold StreamState.response
  cases h : s.fullResponseParts with
  | nil => simp
  | cons part rest =>
    have : part ≠ [] := nonempty part (by simp [h])
    simp [this]

/-! ## What is announced is what is stored -/

/-- One finished stream: progress, at most one alert, then the only `done` frame. -/
structure Announced (run : GraphRun) (prepared : PreparedState) (sent : List Frame)
    (stored : List Row) (d : Done) : Prop where
  last : sent.getLast? = some (.done d)
  single : sent.filter (Frame.hasType "done") = [.done d]
  alert : (run.ending = none ∧ sent.filter (Frame.hasType "error") = []) ∨
    (run.ending ≠ none ∧ ∃ body message, sent = body ++ [.error message, .done d] ∧
      sent.filter (Frame.hasType "error") = [.error message])
  timedOut : d.timedOut = timedOut run.ending
  error : d.error = some (errored run.ending)
  response : d.response =
    if tokenContents sent = [] then noResponse else (tokenContents sent).flatten
  fallback : run.ending = none → tokenContents sent = [] → answers run.events = []
  rows : stored = userRow prepared :: if errored run.ending then [] else
    [{ role := .assistant, content := some d.response, agentsUsed := d.agentsUsed }]

/-- The frames before `done`: progress from the loop, then tokens or one alert. -/
theorem exit_cases (settings : Settings) (run : GraphRun) :
    (run.ending = none ∧ exitFrames settings (loopState settings run.events) run.ending =
        (loopState settings run.events).answerTokens.map fun content =>
          .buffered ⟨.token, content⟩) ∨
      (run.ending ≠ none ∧ (exitState (loopState settings run.events) run.ending).fullResponseParts = [] ∧
        ∃ message, exitFrames settings (loopState settings run.events) run.ending =
          [.error message]) := by
  cases h : run.ending with
  | none =>
    exact .inl ⟨rfl, (exhausted_exit settings _ (loopState_invariant settings run.events)
      (loopState_parts settings run.events)).1⟩
  | some error =>
    refine .inr ⟨by simp, loopState_parts settings run.events, ?_⟩
    cases error <;> exact ⟨_, rfl⟩

theorem tokenContents_stream (settings : Settings) (prepared : PreparedState) (run : GraphRun)
    (documented : ∀ e ∈ run.events, e.Documented) :
    tokenContents (streamFrames settings prepared run) =
      (exitState (loopState settings run.events) run.ending).fullResponseParts := by
  have quiet := tokenContents_progress (drive_progress settings {} run.events documented)
  have done : tokenContents [.done (exitDone prepared (loopState settings run.events) run.ending)] =
      [] := by simp [tokenContents]
  simp only [streamFrames, tokenContents_append, loopFrames, quiet, done, List.nil_append,
    List.append_nil]
  rcases exit_cases settings run with ⟨normal, frames⟩ | ⟨_, parts, message, frames⟩
  · rw [frames, tokenContents_tokens, normal]
    exact (exhausted_exit settings _ (loopState_invariant settings run.events)
      (loopState_parts settings run.events)).2.symm
  · rw [frames, parts]; simp [tokenContents]

theorem exitParts_nonempty (settings : Settings) (run : GraphRun) :
    ∀ part ∈ (exitState (loopState settings run.events) run.ending).fullResponseParts, part ≠ [] := by
  cases run.ending with
  | none =>
    rw [(exhausted_exit settings _ (loopState_invariant settings run.events)
      (loopState_parts settings run.events)).2]
    exact answerTokens_nonempty _ (loopState_invariant settings run.events)
  | some error => simp [exitState]

theorem streamFrames_announced (settings : Settings) (prepared : PreparedState) (run : GraphRun)
    (documented : ∀ e ∈ run.events, e.Documented) :
    Announced run prepared (streamFrames settings prepared run) (streamRows settings prepared run)
      (exitDone prepared (loopState settings run.events) run.ending) := by
  obtain ⟨noDone, noError⟩ := filter_progress (drive_progress settings {} run.events documented)
  have contents := tokenContents_stream settings prepared run documented
  generalize d : exitDone prepared (loopState settings run.events) run.ending = done
  have sent : streamFrames settings prepared run = (drive settings {} run.events).2 ++
      (exitFrames settings (loopState settings run.events) run.ending ++ [.done done]) := by
    rw [← d]; rfl
  constructor
  case last => rw [sent, ← List.append_assoc]; simp
  case single =>
    rcases exit_cases settings run with ⟨_, frames⟩ | ⟨_, _, message, frames⟩ <;>
      simp [sent, frames, noDone, List.filter_map, Function.comp_def, TokenKind.name]
  case alert =>
    rcases exit_cases settings run with ⟨normal, frames⟩ | ⟨raised, _, message, frames⟩
    · exact .inl ⟨normal, by
        simp [sent, frames, noError, List.filter_map, Function.comp_def, TokenKind.name]⟩
    · exact .inr ⟨raised, _, message, by rw [sent, frames]; rfl, by simp [sent, frames, noError]⟩
  case timedOut => rw [← d]; rfl
  case error => rw [← d]; rfl
  case response =>
    rw [contents, ← d]
    exact response_eq _ (exitParts_nonempty settings run)
  case fallback =>
    intro normal empty
    rw [contents, normal, (exhausted_exit settings _ (loopState_invariant settings run.events)
      (loopState_parts settings run.events)).2] at empty
    have direct : (loopState settings run.events).directFinal = none := by
      unfold StreamState.answerTokens at empty
      split at empty
      · simpa using empty
      · contradiction
    rw [loopState, drive_directFinal] at direct
    simpa using direct
  case rows => rw [← d]; rfl

/-- For every exit other than cancellation, what the generator sends and stores agree. -/
theorem stream_sends_what_it_stores (b : Backend) (w : World) (settings : Settings) (chatId : Str)
    (prepared : PreparedState) (caught : Caught b.run.ending)
    (documented : ∀ e ∈ b.run.events, e.Documented) :
    ∃ sent stored d final, Announced b.run prepared sent stored d ∧
      serve b (streamSupervisorTokens settings chatId prepared) w = (.ok (), final) ∧
      final.frames = w.frames ++ sent ∧
      final.store.rows chatId = w.store.rows chatId ++ stored :=
  ⟨_, _, _, _, streamFrames_announced settings prepared b.run documented, serve_stream caught,
    by simp, by simp⟩

/-- A run with one event of each kind, as the graph interleaves them. -/
def sampleEvents : List GraphEvent := [
  .message { event := some ⟨"mini_agent.started".toList, [("parent".toList, Json.text "menu")]⟩ }
    "menu_mini".toList,
  .message { content := some "On it.".toList } supervisorNode,
  .message { content := some "[Menu Agent]".toList } "menu_agent".toList,
  .message { content := some "Two pizzas".toList } supervisorNode,
  .message { content := some " are left.".toList } supervisorNode,
  .message { content := some "Two pizzas are left.".toList } supervisorNode,
  .values { finalResponse := some (some "Two pizzas are left.".toList) }]

def samplePrepared : PreparedState := ⟨⟨[], [], []⟩, "Hi".toList, [], []⟩

theorem sampleEvents_documented : ∀ e ∈ sampleEvents, e.Documented := by
  intro e member
  simp only [sampleEvents, List.mem_cons, List.not_mem_nil, or_false] at member
  rcases member with rfl | rfl | rfl | rfl | rfl | rfl | rfl
  · rintro event ⟨⟩
    exact ⟨by decide, by decide⟩
  all_goals simp [GraphEvent.Documented]

theorem stream_sends_what_it_stores_sample :
    ∃ sent stored d final, Announced ⟨sampleEvents, none⟩ samplePrepared
        sent stored d ∧
      serve { run := ⟨sampleEvents, none⟩ } (streamSupervisorTokens {} "c".toList
        samplePrepared) ⟨{}, []⟩ = (.ok (), final) ∧
      final.frames = [] ++ sent ∧ final.store.rows "c".toList = [] ++ stored :=
  stream_sends_what_it_stores { run := ⟨sampleEvents, none⟩ } ⟨{}, []⟩ {} "c".toList
    samplePrepared (by simp [Caught]) sampleEvents_documented

/-! ## Where the tokens come from -/

/-- A message of the supervisor itself, without tool calls, in plain synthesis text. -/
structure Synthesis (msg : Message) (content : Str) : Prop where
  plain : msg.event = none
  heard : msg.content = some content
  noToolCalls : msg.toolCalls = false
  notJson : jsonLike content = false
  notInline : ¬inlineMark <+: content

theorem accepted_synthesis {s : StreamState} {e : GraphEvent} {content : Str}
    (taken : accepted s e = some content) :
    ∃ msg, e = .message msg supervisorNode ∧ Synthesis msg content := by
  obtain ⟨spoken, guards⟩ := accepted_iff.mp taken
  cases e with
  | values payload => simp [GraphEvent.supervisorText] at spoken
  | message msg node =>
    simp only [GraphEvent.supervisorText] at spoken
    split at spoken
    · rename_i own
      simp only [Bool.and_eq_true, Option.isNone_iff_eq_none, beq_iff_eq] at own
      obtain ⟨heard, filters⟩ := Option.filter_eq_some_iff.mp spoken
      simp only [StreamState.takes, GraphEvent.hasToolCalls, Bool.and_eq_true,
        Bool.not_eq_true'] at guards filters
      refine ⟨msg, by rw [own.2], own.1, heard, guards.1.1.2, filters.2, ?_⟩
      rw [← startsWith_iff, guards.1.1.1.1]
      simp
    · contradiction

/-- The contents that a run of the loop accepts into the buffer, in order. -/
def acceptedAlong (settings : Settings) (s : StreamState) (events : List GraphEvent) : List Str :=
  (Transducer.run (fun t e => ((onEvent settings t e).1, (accepted t e).toList)) s events).2

theorem onEvent_clears (settings : Settings) (s : StreamState) (e : GraphEvent)
    (clears : e.clears = true) : (onEvent settings s e).1.buffer.chunks = [] := by
  generalize result : onEvent settings s e = r
  have step := result ▸ turn settings s e
  cases step with
  | values => simp [GraphEvent.clears, GraphEvent.isAgent, GraphEvent.inlineHandoff,
      GraphEvent.supervisorText] at clears
  | lifecycle msg node event known => simp [GraphEvent.clears, GraphEvent.isAgent,
      GraphEvent.inlineHandoff, GraphEvent.supervisorText, known] at clears
  | agent msg node => exact s.buffer.discardAsHandoff_chunks
  | inlined e content => exact s.buffer.recordInlineHandoff_chunks content
  | appended e content taken =>
    obtain ⟨msg, rfl, synthesis⟩ := accepted_synthesis taken
    obtain ⟨spoken, _⟩ := accepted_iff.mp taken
    have notAgent : (GraphEvent.message msg supervisorNode).isAgent = false := by
      simp only [GraphEvent.isAgent, supervisor_node, Bool.and_false]
    simp only [GraphEvent.clears, notAgent, Bool.false_or, GraphEvent.inlineHandoff, spoken,
      Option.filter_some] at clears
    split at clears
    · rename_i handoff
      exact absurd ((startsWith_iff _ _).mp (handoff_is_inline handoff)) synthesis.notInline
    · contradiction
  | skipped msg node keeps => simp [keeps] at clears

theorem onEvent_keeps (settings : Settings) (s : StreamState) (e : GraphEvent)
    (keeps : e.clears = false) :
    (onEvent settings s e).1.buffer.chunks = s.buffer.chunks ++ (accepted s e).toList := by
  generalize result : onEvent settings s e = r
  have step := result ▸ turn settings s e
  cases step with
  | values => simp [accepted, GraphEvent.supervisorText]
  | lifecycle msg node event known => simp [accepted, GraphEvent.supervisorText, known]
  | agent msg node agent => simp [GraphEvent.clears, agent] at keeps
  | inlined e content inline => simp [GraphEvent.clears, inline] at keeps
  | appended e content taken => simp [StreamState.withBuffer, taken]
  | skipped msg node keeps rejected => simp [rejected]

/-- Between clearing events the buffer grows by exactly the accepted contents. -/
theorem drive_chunks (settings : Settings) (s : StreamState) (events : List GraphEvent)
    (keeps : ∀ e ∈ events, e.clears = false) :
    (drive settings s events).1.buffer.chunks =
      s.buffer.chunks ++ acceptedAlong settings s events := by
  induction events generalizing s with
  | nil => simp [drive, acceptedAlong]
  | cons e rest ih =>
    have step : (drive settings s (e :: rest)).1 = (drive settings (onEvent settings s e).1 rest).1 := rfl
    rw [step, ih _ fun e' member => keeps e' (.tail _ member),
      onEvent_keeps settings s e (keeps e (.head _)), List.append_assoc]
    rfl

/-- The events up to and including the last one that clears the buffer. -/
def untilCleared (events : List GraphEvent) : List GraphEvent :=
  events.rdropWhile fun e => !e.clears

def sinceCleared (events : List GraphEvent) : List GraphEvent :=
  events.rtakeWhile fun e => !e.clears

theorem untilCleared_append (events : List GraphEvent) :
    untilCleared events ++ sinceCleared events = events :=
  List.rdropWhile_append_rtakeWhile

theorem untilCleared_chunks (settings : Settings) (events : List GraphEvent) :
    (loopState settings (untilCleared events)).buffer.chunks = [] := by
  by_cases empty : untilCleared events = []
  · rw [empty]; rfl
  · have last := List.rdropWhile_last_not _ events empty
    rw [loopState, drive, ← List.dropLast_append_getLast empty, Transducer.run_concat]
    exact onEvent_clears _ _ _ (by simpa [untilCleared] using last)

/-- The final buffer is what was accepted since the last clearing event. -/
theorem loopState_chunks (settings : Settings) (events : List GraphEvent) :
    (loopState settings events).buffer.chunks =
      acceptedAlong settings (loopState settings (untilCleared events)) (sinceCleared events) := by
  have split : (loopState settings events) =
      (drive settings (loopState settings (untilCleared events)) (sinceCleared events)).1 := by
    conv_lhs => rw [← untilCleared_append events]
    simp only [loopState, drive, Transducer.run_append]
  have keeps : ∀ e ∈ sinceCleared events, e.clears = false := fun e member => by
    simpa using List.mem_rtakeWhile_imp member
  rw [split, drive_chunks _ _ _ keeps, untilCleared_chunks, List.nil_append]

/-- The answer is the synthesis accepted since the last handoff, else the last final
response; no agent, mini-agent, aggregator or handoff text can be a token. -/
theorem answer_provenance (b : Backend) (w : World) (settings : Settings) (chatId : Str)
    (prepared : PreparedState) (normal : b.run.ending = none)
    (documented : ∀ e ∈ b.run.events, e.Documented) :
    ∃ sent final, serve b (streamSupervisorTokens settings chatId prepared) w = (.ok (), final) ∧
      final.frames = w.frames ++ sent ∧
      tokenContents sent =
        (if acceptedAlong settings (loopState settings (untilCleared b.run.events))
            (sinceCleared b.run.events) = [] then (answers b.run.events).getLast?.toList
        else acceptedAlong settings (loopState settings (untilCleared b.run.events))
            (sinceCleared b.run.events)) ∧
      ∀ content ∈ acceptedAlong settings (loopState settings (untilCleared b.run.events))
          (sinceCleared b.run.events),
        ∃ msg, .message msg supervisorNode ∈ sinceCleared b.run.events ∧ Synthesis msg content := by
  have caught : Caught b.run.ending := by simp [Caught, normal]
  refine ⟨_, _, serve_stream caught, (by simp; rfl), ?_, ?_⟩
  · rw [tokenContents_stream settings prepared b.run documented, normal,
      (exhausted_exit settings _ (loopState_invariant settings b.run.events)
        (loopState_parts settings b.run.events)).2, StreamState.answerTokens, loopState_chunks,
      show (loopState settings b.run.events).directFinal = (answers b.run.events).getLast? by
        simp [loopState, drive_directFinal]]
  · refine Transducer.run_outputs (fun s e member content taken => ?_) _
    obtain ⟨msg, rfl, synthesis⟩ := accepted_synthesis (Option.mem_toList.mp taken)
    exact ⟨msg, member, synthesis⟩

theorem answer_provenance_sample :
    ∃ sent final, serve { run := ⟨sampleEvents, none⟩ } (streamSupervisorTokens {} "c".toList
        samplePrepared) ⟨{}, []⟩ = (.ok (), final) ∧
      final.frames = [] ++ sent ∧
      tokenContents sent = (if acceptedAlong {} (loopState {} (untilCleared sampleEvents))
            (sinceCleared sampleEvents) = [] then (answers sampleEvents).getLast?.toList
        else acceptedAlong {} (loopState {} (untilCleared sampleEvents))
            (sinceCleared sampleEvents)) ∧
      ∀ content ∈ acceptedAlong {} (loopState {} (untilCleared sampleEvents))
          (sinceCleared sampleEvents),
        ∃ msg, .message msg supervisorNode ∈ sinceCleared sampleEvents ∧ Synthesis msg content :=
  answer_provenance { run := ⟨sampleEvents, none⟩ } ⟨{}, []⟩ {} "c".toList
    samplePrepared rfl sampleEvents_documented

/-- The synthesis of the sample is sent chunk by chunk, without the assembled echo. -/
example : acceptedAlong {} (loopState {} (untilCleared sampleEvents)) (sinceCleared sampleEvents) =
    ["Two pizzas".toList, " are left.".toList] := by decide

end OrchidApi
