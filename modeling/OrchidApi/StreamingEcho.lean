import Mathlib.Data.List.Flatten
import OrchidApi.StreamingAnswer

/-! The duplicate heuristics of the supervisor buffer on a stream of synthesis chunks
followed by their assembled echo, and exactly when the text comes through. -/
namespace OrchidApi
open Text

/-- What the heuristics keep of a chunk list, after the chunks already held. -/
def heldAfter (b : SupervisorTokenBuffer) : List Str → SupervisorTokenBuffer
  | [] => b
  | c :: rest =>
    heldAfter (if b.alreadyEmitted c || b.wouldDuplicate c then b else b.append c) rest
termination_by structural chunks => chunks

/-- No chunk repeats an emitted prefix, begins the text before it, or repeats the last one. -/
def NoEcho (b : SupervisorTokenBuffer) (chunks : List Str) : Prop :=
  ∀ before c after, chunks = before ++ c :: after →
    b.alreadyEmitted c = false ∧ { b with chunks := b.chunks ++ before }.wouldDuplicate c = false

theorem heldAfter_sublist (b : SupervisorTokenBuffer) (chunks : List Str) :
    ∃ kept, kept.Sublist chunks ∧ heldAfter b chunks = { b with chunks := b.chunks ++ kept } := by
  induction chunks generalizing b with
  | nil => exact ⟨[], .refl _, by simp [heldAfter]⟩
  | cons c rest ih =>
    unfold heldAfter
    split
    · obtain ⟨kept, sub, held⟩ := ih b
      exact ⟨kept, sub.cons c, held⟩
    · obtain ⟨kept, sub, held⟩ := ih (b.append c)
      exact ⟨c :: kept, sub.cons_cons c, by simp [held]⟩

theorem heldAfter_all_iff (b : SupervisorTokenBuffer) (chunks : List Str) :
    (heldAfter b chunks).chunks = b.chunks ++ chunks ↔ NoEcho b chunks := by
  induction chunks generalizing b with
  | nil => simp [heldAfter, NoEcho]
  | cons c rest ih =>
    have first : NoEcho b (c :: rest) ↔
        (b.alreadyEmitted c = false ∧ b.wouldDuplicate c = false) ∧ NoEcho (b.append c) rest := by
      constructor
      · intro fresh
        refine ⟨by simpa using fresh [] c rest rfl, fun before d after split => ?_⟩
        simpa using fresh (c :: before) d after (by simp [split])
      · rintro ⟨now, later⟩ before d after split
        cases before with
        | nil =>
          obtain ⟨rfl, rfl⟩ : c = d ∧ rest = after := by simpa using split
          simpa using now
        | cons e before =>
          obtain ⟨rfl, tail⟩ : c = e ∧ rest = before ++ d :: after := by simpa using split
          simpa using later before d after tail
    unfold heldAfter
    split
    · rename_i dropped
      obtain ⟨kept, sub, held⟩ := heldAfter_sublist b rest
      constructor
      · intro all
        have whole : kept = c :: rest := by simpa [held] using all
        have shorter := sub.length_le
        simp only [whole, List.length_cons] at shorter
        omega
      · intro fresh
        have now := (first.mp fresh).1
        simp [now] at dropped
    · rename_i taken
      rw [first, ← ih (b.append c)]
      simp_all

/-- From an empty buffer nothing is held exactly when every chunk was emitted before. -/
theorem heldAfter_none_iff (b : SupervisorTokenBuffer) (chunks : List Str) (empty : b.chunks = []) :
    (heldAfter b chunks).chunks = [] ↔ ∀ c ∈ chunks, b.alreadyEmitted c = true := by
  induction chunks with
  | nil => simp [heldAfter, empty]
  | cons c rest ih =>
    have new : b.wouldDuplicate c = false := by simp [SupervisorTokenBuffer.wouldDuplicate, empty]
    cases old : b.alreadyEmitted c with
    | true => simp [heldAfter, old, ih]
    | false =>
      obtain ⟨kept, _, held⟩ := heldAfter_sublist (b.append c) rest
      simp [heldAfter, old, new, held]

theorem sublist_flatten {kept chunks : List Str} (sub : kept.Sublist chunks)
    (nonempty : ∀ c ∈ chunks, c ≠ []) (same : kept.flatten = chunks.flatten) : kept = chunks := by
  induction sub with
  | slnil => rfl
  | @cons kept chunks c sub ih =>
    have shorter : kept.flatten.length ≤ chunks.flatten.length := sub.flatten.length_le
    have positive : 0 < c.length := List.length_pos_iff.mpr (nonempty c (by simp))
    have lengths := congrArg List.length same
    simp only [List.flatten_cons, List.length_append] at lengths
    omega
  | @cons_cons kept chunks c sub ih =>
    rw [ih (fun d member => nonempty d (by simp [member])) (by simpa using same)]

/-! ## Synthesis chunks -/

def chunkEvent (content : Str) : GraphEvent := .message { content := some content } supervisorNode

/-- A synthesis chunk as the supervisor streams it. -/
structure SynthesisChunk (c : Str) : Prop where
  nonempty : c ≠ []
  notJson : jsonLike c = false
  notInline : ¬inlineMark <+: c

theorem jsonLike_iff (content : Str) :
    jsonLike content = true ↔ (lstrip content).head? = some '{' :=
  strip_startsWith_singleton content '{'

theorem flatten_notJson {chunks : List Str} (synthesis : ∀ c ∈ chunks, SynthesisChunk c) :
    jsonLike chunks.flatten = false := by
  rw [Bool.eq_false_iff, Ne, jsonLike_iff]
  refine lstrip_flatten_head '{' chunks fun c member => ?_
  have plain := (synthesis c member).notJson
  rwa [Bool.eq_false_iff, Ne, jsonLike_iff] at plain

theorem flatten_nonempty {chunks : List Str} (some : chunks ≠ [])
    (synthesis : ∀ c ∈ chunks, SynthesisChunk c) : chunks.flatten ≠ [] := by
  obtain ⟨c, rest, rfl⟩ := List.exists_cons_of_ne_nil some
  simp [(synthesis c (by simp)).nonempty]

/-- A plain text from the supervisor: a handoff, a held chunk, or nothing. -/
theorem onEvent_chunk (settings : Settings) (s : StreamState) (content : Str)
    (nonempty : content ≠ []) (notJson : jsonLike content = false) :
    onEvent settings s (chunkEvent content) =
      if startsWith content handoffMark then
        (s.withBuffer (s.buffer.recordInlineHandoff content).1).emit
          (s.buffer.recordInlineHandoff content).2.toList
      else if s.takes false content then (s.withBuffer (s.buffer.append content), [])
      else (s, []) := by
  have spoken : ({ content := some content } : Message).text = some content := by
    simp [Message.text, nonempty, notJson]
  simp only [chunkEvent, onEvent, supervisor_node, Bool.or_self, Bool.false_eq_true, ↓reduceIte,
    ne_eq, not_true_eq_false]
  exact onSupervisor_spoken s _ content spoken

theorem drive_chunkEvents (settings : Settings) (s : StreamState) (chunks : List Str)
    (ready : s.agentsDone = true) (synthesis : ∀ c ∈ chunks, SynthesisChunk c) :
    drive settings s (chunks.map chunkEvent) = (s.withBuffer (heldAfter s.buffer chunks), []) := by
  induction chunks generalizing s with
  | nil => rfl
  | cons c rest ih =>
    have chunk := synthesis c (by simp)
    have notHandoff : startsWith c handoffMark = false := by
      by_contra handoff
      exact chunk.notInline ((startsWith_iff _ _).mp (handoff_is_inline (by simpa using handoff)))
    have notInline : startsWith c inlineMark = false := by
      by_contra inline
      exact chunk.notInline ((startsWith_iff _ _).mp (by simpa using inline))
    have later (t : StreamState) (done : t.agentsDone = true) :=
      ih t done fun d member => synthesis d (by simp [member])
    simp only [drive] at later ⊢
    simp only [List.map_cons, Transducer.run, onEvent_chunk settings s c chunk.nonempty chunk.notJson,
      notHandoff, Bool.false_eq_true, ↓reduceIte, StreamState.takes, notInline, ready, Bool.not_false,
      Bool.true_and, heldAfter]
    cases old : s.buffer.alreadyEmitted c <;> cases echo : s.buffer.wouldDuplicate c <;>
      simp [later, ready, StreamState.withBuffer]

/-! ## When the text comes through -/

/-- The chunks of a synthesis, then its assembled message. -/
def synthesisEvents (chunks : List Str) : List GraphEvent :=
  chunks.map chunkEvent ++ [chunkEvent chunks.flatten]

/-- The exact condition, on the buffer before the synthesis and the chunks: either
nothing is dropped, or everything is and the assembled message or the final response
stands in for it. -/
def TextSurvives (s : StreamState) (chunks : List Str) : Prop :=
  (NoEcho s.buffer chunks ∧ ¬handoffMark <+: chunks.flatten) ∨
  ((∀ c ∈ chunks, s.buffer.alreadyEmitted c = true) ∧
    s.buffer.alreadyEmitted chunks.flatten = false ∧ ¬inlineMark <+: chunks.flatten) ∨
  ((handoffMark <+: chunks.flatten ∨ ((∀ c ∈ chunks, s.buffer.alreadyEmitted c = true) ∧
      (s.buffer.alreadyEmitted chunks.flatten = true ∨ inlineMark <+: chunks.flatten))) ∧
    s.directFinal = some chunks.flatten)

section Survival
variable (settings : Settings) (s : StreamState) (chunks : List Str) (ready : s.agentsDone = true)
  (empty : s.buffer.chunks = []) (present : chunks ≠ []) (synthesis : ∀ c ∈ chunks, SynthesisChunk c)
include ready present synthesis

/-- The synthesis events leave the held chunks, the echo too if it passes for new text. -/
theorem synthesis_state :
    (drive settings s (synthesisEvents chunks)).1.directFinal = s.directFinal ∧
    (drive settings s (synthesisEvents chunks)).1.buffer.chunks =
      if handoffMark <+: chunks.flatten then []
      else if (s.withBuffer (heldAfter s.buffer chunks)).takes false chunks.flatten then
        (heldAfter s.buffer chunks).chunks ++ [chunks.flatten]
      else (heldAfter s.buffer chunks).chunks := by
  have chunked := drive_chunkEvents settings s chunks ready synthesis
  simp only [drive] at chunked
  rw [drive, synthesisEvents, Transducer.run_concat, chunked,
    onEvent_chunk settings _ _ (flatten_nonempty present synthesis) (flatten_notJson synthesis)]
  simp only [startsWith_iff]
  refine ⟨by split <;> first | rfl | (split <;> rfl), ?_⟩
  split
  · exact SupervisorTokenBuffer.recordInlineHandoff_chunks _ _
  · split <;> rfl

include empty in
theorem survives_iff :
    (drive settings s (synthesisEvents chunks)).1.answerTokens.flatten = chunks.flatten ↔
      TextSurvives s chunks := by
  obtain ⟨direct, final⟩ := synthesis_state settings s chunks ready present synthesis
  have text : chunks.flatten ≠ [] := flatten_nonempty present synthesis
  have spoken : ∀ c ∈ chunks, c ≠ [] := fun c member => (synthesis c member).nonempty
  have all : (heldAfter s.buffer chunks).chunks = chunks ↔ NoEcho s.buffer chunks := by
    simpa [empty] using heldAfter_all_iff s.buffer chunks
  have noneHeld := heldAfter_none_iff s.buffer chunks empty
  obtain ⟨kept, sub, held⟩ := heldAfter_sublist s.buffer chunks
  have keptIs : (heldAfter s.buffer chunks).chunks = kept := by simp [held, empty]
  have same : (heldAfter s.buffer chunks).alreadyEmitted chunks.flatten =
      s.buffer.alreadyEmitted chunks.flatten := by rw [held]; rfl
  -- An unanswered stream falls back to the final response.
  have fallback : s.directFinal.toList.flatten = chunks.flatten ↔
      s.directFinal = some chunks.flatten := by
    cases s.directFinal with
    | none => simpa using text.symm
    | some answer => simp
  rw [keptIs] at all noneHeld final
  unfold StreamState.answerTokens TextSurvives
  rw [direct, final, ← all, ← noneHeld]
  by_cases handoff : handoffMark <+: chunks.flatten
  · have inline : inlineMark <+: chunks.flatten := List.IsPrefix.trans (by decide) handoff
    simp [handoff, inline, fallback]
  by_cases nothing : kept = []
  · have apart : ([] : List Str) ≠ chunks := present.symm
    have takes : (s.withBuffer (heldAfter s.buffer chunks)).takes false chunks.flatten = true ↔
        s.buffer.alreadyEmitted chunks.flatten = false ∧ ¬inlineMark <+: chunks.flatten := by
      have new : (heldAfter s.buffer chunks).wouldDuplicate chunks.flatten = false := by
        simp [SupervisorTokenBuffer.wouldDuplicate, keptIs, nothing]
      simp [StreamState.takes, StreamState.withBuffer, ready, new, same, and_comm,
        ← Bool.not_eq_true, startsWith_iff]
    by_cases taken : s.buffer.alreadyEmitted chunks.flatten = false ∧ ¬inlineMark <+: chunks.flatten
    · simp [handoff, nothing, takes.mpr taken, taken]
    · have old : s.buffer.alreadyEmitted chunks.flatten = true ∨ inlineMark <+: chunks.flatten := by
        by_contra fresh
        exact taken (by simpa [not_or] using fresh)
      simp only [handoff, nothing, takes, taken, ↓reduceIte, apart, fallback, false_and, false_or,
        true_and, and_false, old]
  · have whole : kept = chunks ↔ kept.flatten = chunks.flatten :=
      ⟨congrArg List.flatten, sublist_flatten sub spoken⟩
    cases takes : (s.withBuffer (heldAfter s.buffer chunks)).takes false chunks.flatten with
    | true =>
      have partial' : kept ≠ chunks := by
        intro complete
        have echo : (heldAfter s.buffer chunks).wouldDuplicate chunks.flatten = true := by
          rw [SupervisorTokenBuffer.wouldDuplicate_iff, keptIs, complete]
          exact ⟨present, .inl List.prefix_rfl⟩
        simp [StreamState.takes, StreamState.withBuffer, echo] at takes
      -- The echo goes out after the chunks before it, so some text is sent twice.
      have twice : ∃ c ∈ kept, c ≠ [] := by
        obtain ⟨c, member⟩ := List.exists_mem_of_ne_nil kept nothing
        exact ⟨c, member, spoken c (sub.subset member)⟩
      simp [handoff, nothing, partial', twice]
    | false => simp [handoff, nothing, whole]

end Survival

/-! ## The whole stream -/

theorem onEvent_agent (settings : Settings) (s : StreamState) (e : GraphEvent)
    (agent : e.isAgent = true) : (onEvent settings s e).1.agentsDone = true := by
  cases e with
  | values payload => contradiction
  | message msg node =>
    simp only [GraphEvent.isAgent, Bool.and_eq_true, Option.isNone_iff_eq_none] at agent
    obtain ⟨plain, suffix⟩ := agent
    obtain ⟨mini, aggregator, _⟩ := agent_node suffix
    simp [onEvent, plain, mini, aggregator, suffix, onAgent]

theorem onEvent_agentsDone (settings : Settings) (s : StreamState) (e : GraphEvent)
    (ready : s.agentsDone = true) : (onEvent settings s e).1.agentsDone = true := by
  generalize result : onEvent settings s e = r
  have step := result ▸ turn settings s e
  cases step <;> first | exact ready | rfl

theorem drive_agentsDone (settings : Settings) (s : StreamState) (events : List GraphEvent)
    (ready : s.agentsDone = true) : (drive settings s events).1.agentsDone = true :=
  Transducer.run_keeps (fun t e _ done => onEvent_agentsDone settings t e done) ready

/-- After an agent has reported, the supervisor's texts count as synthesis. -/
theorem loopState_ready (settings : Settings) (events : List GraphEvent)
    (agent : ∃ e ∈ events, e.isAgent = true) : (loopState settings events).agentsDone = true := by
  obtain ⟨e, member, agent⟩ := agent
  obtain ⟨first, later, rfl⟩ := List.append_of_mem member
  have reported := onEvent_agent settings (loopState settings first) e agent
  rw [loopState, drive, Transducer.run_append]
  exact drive_agentsDone settings _ later reported

theorem synthesisEvents_documented (chunks : List Str) :
    ∀ e ∈ synthesisEvents chunks, e.Documented := by
  intro e member
  simp only [synthesisEvents, List.mem_append, List.mem_map, List.mem_singleton] at member
  rcases member with ⟨c, _, rfl⟩ | rfl <;> simp [chunkEvent, GraphEvent.Documented]

/-- From an empty buffer after an agent, the tokens of the rest of the stream make up the
synthesis exactly when `TextSurvives`. -/
theorem synthesis_intact_iff (b : Backend) (w : World) (settings : Settings) (chatId : Str)
    (prepared : PreparedState) (before : List GraphEvent) (chunks : List Str)
    (agent : ∃ e ∈ before, e.isAgent = true)
    (empty : (loopState settings before).buffer.chunks = []) (present : chunks ≠ [])
    (synthesis : ∀ c ∈ chunks, SynthesisChunk c)
    (run : b.run = ⟨before ++ synthesisEvents chunks, none⟩) :
    ∃ sent final, serve b (streamSupervisorTokens settings chatId prepared) w = (.ok (), final) ∧
      final.frames = w.frames ++ loopFrames settings before ++ sent ∧
      ((tokenContents sent).flatten = chunks.flatten ↔
        TextSurvives (loopState settings before) chunks) := by
  have caught : Caught b.run.ending := by simp [Caught, run]
  have later : drive settings {} (before ++ synthesisEvents chunks) =
      ((drive settings (loopState settings before) (synthesisEvents chunks)).1,
        loopFrames settings before ++
          (drive settings (loopState settings before) (synthesisEvents chunks)).2) :=
    Transducer.run_append _ _ _ _
  have exit := (exhausted_exit settings _ (loopState_invariant settings b.run.events)
    (loopState_parts settings b.run.events)).1
  have quiet := tokenContents_progress (drive_progress settings (loopState settings before)
    (synthesisEvents chunks) (synthesisEvents_documented chunks))
  have survives := survives_iff settings (loopState settings before) chunks
    (loopState_ready settings before agent) empty present synthesis
  generalize rest : drive settings (loopState settings before) (synthesisEvents chunks) = r at *
  simp only [run, loopState] at exit
  rw [later] at exit
  refine ⟨r.2 ++ ((r.1.answerTokens.map fun content => .buffered ⟨.token, content⟩) ++
    [.done (exitDone prepared r.1 none)]), _, serve_stream caught, ?_, ?_⟩
  · rw [autoTitle_frames, addRows_frames, send_frames, streamFrames, run]
    simp only [loopFrames, loopState, later, exit, List.append_assoc]
  · rw [← survives, tokenContents_append, tokenContents_append, quiet, tokenContents_tokens]
    simp [tokenContents]

/-- One agent has reported. -/
def reportEvents : List GraphEvent :=
  [.message { content := some "[Menu Agent]".toList } "menu_agent".toList]

theorem synthesis_intact_iff_sample :
    ∃ sent final, serve { run := ⟨reportEvents ++ synthesisEvents ["Two".toList, " left".toList], none⟩ }
        (streamSupervisorTokens {} "c".toList samplePrepared) ⟨{}, []⟩ = (.ok (), final) ∧
      final.frames = [] ++ loopFrames {} reportEvents ++ sent ∧
      ((tokenContents sent).flatten = ["Two".toList, " left".toList].flatten ↔
        TextSurvives (loopState {} reportEvents) ["Two".toList, " left".toList]) := by
  refine synthesis_intact_iff _ ⟨{}, []⟩ {} "c".toList samplePrepared reportEvents
    ["Two".toList, " left".toList] (by decide) (by decide) (by decide) ?_ rfl
  intro c member
  simp only [List.mem_cons, List.not_mem_nil, or_false] at member
  rcases member with rfl | rfl <;> exact ⟨by decide, by decide, by decide⟩

/-- The repeated chunk is taken for an echo, so the assembled message is no longer a prefix
of what is held and is sent as well. -/
theorem repeated_chunk_garbles :
    (∃ e ∈ reportEvents, e.isAgent = true) ∧ (loopState {} reportEvents).buffer.chunks = [] ∧
      (∀ c ∈ ["ha".toList, "ha".toList], SynthesisChunk c) ∧
      tokenContents (serve { run := ⟨reportEvents ++ synthesisEvents ["ha".toList, "ha".toList], none⟩ }
        (streamSupervisorTokens {} "c".toList samplePrepared) ⟨{}, []⟩).2.frames =
        ["ha".toList, "haha".toList] ∧
      ["ha".toList, "haha".toList].flatten ≠ ["ha".toList, "ha".toList].flatten := by
  refine ⟨by decide, by decide, ?_, by decide, by decide⟩
  intro c member
  simp only [List.mem_cons, List.not_mem_nil, or_false, or_self] at member
  exact member ▸ ⟨by decide, by decide, by decide⟩

end OrchidApi
