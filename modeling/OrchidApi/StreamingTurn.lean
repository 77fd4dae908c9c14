import OrchidApi.StreamingRun

/-! What one turn of the loop can do, said once: every invariant of the stream is
derived from `turn` and not from the branches of `onEvent`. -/
namespace OrchidApi
open Text

/-- The content of a message that is neither empty nor like a JSON object. -/
def Message.text (msg : Message) : Option Str :=
  msg.content.filter fun content => !content.isEmpty && !jsonLike content

/-- The text of a supervisor message, past its first three filters. -/
def GraphEvent.supervisorText : GraphEvent → Option Str
  | .message msg node => if msg.event.isNone && node == supervisorNode then msg.text else none
  | .values _ => none

/-- A message of an agent node; its lifecycle events do not count. -/
def GraphEvent.isAgent : GraphEvent → Bool
  | .message msg node => msg.event.isNone && endsWith node agentSuffix
  | .values _ => false

def GraphEvent.hasToolCalls : GraphEvent → Bool
  | .message msg _ => msg.toolCalls
  | .values _ => false

/-- An inline handoff and its text. -/
def GraphEvent.inlineHandoff (e : GraphEvent) : Option Str :=
  e.supervisorText.filter (startsWith · handoffMark)

/-- The two kinds of event that empty the supervisor buffer. -/
def GraphEvent.clears (e : GraphEvent) : Bool := e.isAgent || e.inlineHandoff.isSome

/-- The remaining guards before a text is buffered. -/
def StreamState.takes (s : StreamState) (toolCalls : Bool) (content : Str) : Bool :=
  !startsWith content inlineMark && s.agentsDone && !toolCalls &&
    !s.buffer.alreadyEmitted content && !s.buffer.wouldDuplicate content

/-- The content that the event adds to the buffer in this state, if any. -/
def accepted (s : StreamState) (e : GraphEvent) : Option Str :=
  e.supervisorText.filter (s.takes e.hasToolCalls)

inductive Turn (settings : Settings) (s : StreamState) :
    GraphEvent → StreamState × List Frame → Prop where
  | values (payload : Values) :
      Turn settings s (.values payload) ({ s with directFinal := payload.answer?.or s.directFinal }, [])
  | lifecycle (msg : Message) (node : Str) (event : LifecycleEvent) (known : msg.event = some event) :
      Turn settings s (.message msg node) (s, [.lifecycle event])
  | agent (msg : Message) (node : Str) (isAgent : (GraphEvent.message msg node).isAgent = true) :
      Turn settings s (.message msg node) (onAgent settings s msg (removeSuffix agentSuffix node))
  | inlined (e : GraphEvent) (content : Str) (inline : e.inlineHandoff = some content) :
      Turn settings s e ((s.withBuffer (s.buffer.recordInlineHandoff content).1).emit
        (s.buffer.recordInlineHandoff content).2.toList)
  | appended (e : GraphEvent) (content : Str) (taken : accepted s e = some content) :
      Turn settings s e (s.withBuffer (s.buffer.append content), [])
  | skipped (msg : Message) (node : Str)
      (keeps : (GraphEvent.message msg node).clears = false)
      (rejected : accepted s (.message msg node) = none) :
      Turn settings s (.message msg node) (s, [])

theorem suffix_getLast {s suf : Str} {c : Char} (last : suf.getLast? = some c) (h : suf <:+ s) :
    s.getLast? = some c := by
  obtain ⟨pre, rfl⟩ := h
  rw [List.getLast?_append, last]; rfl

/-- The three node suffixes exclude each other and the supervisor. -/
theorem agent_node {node : Str} (agent : endsWith node agentSuffix = true) :
    endsWith node miniSuffix = false ∧ endsWith node aggregatorSuffix = false ∧
      node ≠ supervisorNode := by
  have last : node.getLast? = some 't' :=
    suffix_getLast (by decide) ((endsWith_iff _ _).mp agent)
  have other (suf : Str) (c : Char) (ends : suf.getLast? = some c) (apart : c ≠ 't') :
      endsWith node suf = false := by
    by_contra h
    rw [Bool.not_eq_false, endsWith_iff] at h
    exact apart (Option.some.inj ((suffix_getLast ends h).symm.trans last))
  refine ⟨other miniSuffix 'i' (by decide) (by decide),
    other aggregatorSuffix 'r' (by decide) (by decide), ?_⟩
  rintro rfl
  exact absurd last (by decide)

theorem supervisor_node : endsWith supervisorNode miniSuffix = false ∧
    endsWith supervisorNode aggregatorSuffix = false ∧
    endsWith supervisorNode agentSuffix = false := by decide

theorem handoff_is_inline {content : Str} (handoff : startsWith content handoffMark = true) :
    startsWith content inlineMark = true := by
  rw [startsWith_iff] at handoff ⊢
  exact List.IsPrefix.trans (by decide) handoff

theorem onSupervisor_silent (s : StreamState) (msg : Message) (silent : msg.text = none) :
    onSupervisor s msg = (s, []) := by
  unfold Message.text at silent
  cases h : msg.content with
  | none => simp [onSupervisor, h]
  | some content =>
    simp only [h, Option.filter_some] at silent
    simp only [onSupervisor, h]
    cases empty : List.isEmpty content <;> cases json : jsonLike content <;>
      simp_all

theorem onSupervisor_spoken (s : StreamState) (msg : Message) (content : Str)
    (spoken : msg.text = some content) :
    onSupervisor s msg =
      if startsWith content handoffMark then
        (s.withBuffer (s.buffer.recordInlineHandoff content).1).emit
          (s.buffer.recordInlineHandoff content).2.toList
      else if s.takes msg.toolCalls content then (s.withBuffer (s.buffer.append content), [])
      else (s, []) := by
  unfold Message.text at spoken
  obtain ⟨heard, filters⟩ := Option.filter_eq_some_iff.mp spoken
  simp only [Bool.and_eq_true, Bool.not_eq_true'] at filters
  simp only [onSupervisor, heard, filters.1, filters.2, Bool.false_eq_true, ↓reduceIte]
  cases handoff : startsWith content handoffMark with
  | true => simp only [handoff_is_inline handoff, ↓reduceIte]
  | false =>
    unfold StreamState.takes
    cases startsWith content inlineMark <;> cases s.agentsDone <;> cases msg.toolCalls <;>
      cases s.buffer.alreadyEmitted content <;> cases s.buffer.wouldDuplicate content <;> rfl

/-- The supervisor branch: an inline handoff, an accepted chunk, or nothing. -/
theorem onSupervisor_turn (settings : Settings) (s : StreamState) (msg : Message)
    (plain : msg.event = none) :
    Turn settings s (.message msg supervisorNode) (onSupervisor s msg) := by
  have text : (GraphEvent.message msg supervisorNode).supervisorText = msg.text := by
    simp [GraphEvent.supervisorText, plain]
  have notAgent : (GraphEvent.message msg supervisorNode).isAgent = false := by
    simp only [GraphEvent.isAgent, supervisor_node, Bool.and_false]
  have skip (rejected : accepted s (.message msg supervisorNode) = none)
      (notInline : (GraphEvent.message msg supervisorNode).inlineHandoff = none) :
      Turn settings s (.message msg supervisorNode) (s, []) :=
    .skipped msg _ (by simp [GraphEvent.clears, notAgent, notInline]) rejected
  cases spoken : msg.text with
  | none =>
    rw [onSupervisor_silent s msg spoken]
    exact skip (by simp [accepted, text, spoken]) (by simp [GraphEvent.inlineHandoff, text, spoken])
  | some content =>
    rw [onSupervisor_spoken s msg content spoken]
    cases handoff : startsWith content handoffMark with
    | true =>
      exact .inlined _ content (by simp only [GraphEvent.inlineHandoff, text, spoken,
        Option.filter_some, handoff, ↓reduceIte])
    | false =>
      simp only [Bool.false_eq_true, ↓reduceIte]
      cases takes : s.takes msg.toolCalls content with
      | true =>
        exact .appended _ content (by simp only [accepted, text, spoken, Option.filter_some,
          GraphEvent.hasToolCalls, takes, ↓reduceIte])
      | false =>
        refine skip ?_ ?_
        · simp only [accepted, text, spoken, Option.filter_some, GraphEvent.hasToolCalls, takes,
            Bool.false_eq_true, ↓reduceIte]
        · simp only [GraphEvent.inlineHandoff, text, spoken, Option.filter_some, handoff,
            Bool.false_eq_true, ↓reduceIte]

theorem turn (settings : Settings) (s : StreamState) (e : GraphEvent) :
    Turn settings s e (onEvent settings s e) := by
  cases e with
  | values payload => exact .values payload
  | message msg node =>
    cases known : msg.event with
    | some event =>
      simp only [onEvent, known]
      exact .lifecycle msg node event known
    | none =>
      cases agent : endsWith node agentSuffix with
      | true =>
        obtain ⟨mini, aggregator, _⟩ := agent_node agent
        simp only [onEvent, known, mini, aggregator, agent, Bool.or_self, Bool.false_eq_true,
          ↓reduceIte]
        exact .agent msg node (by simp [GraphEvent.isAgent, known, (endsWith_iff _ _).mp agent])
      | false =>
        by_cases supervisor : node = supervisorNode
        · subst supervisor
          simp only [onEvent, known, supervisor_node, Bool.or_self, Bool.false_eq_true,
            ↓reduceIte, ne_eq, not_true_eq_false]
          exact onSupervisor_turn settings s msg known
        · have silent : (GraphEvent.message msg node).supervisorText = none := by
            simp [GraphEvent.supervisorText, supervisor]
          have same : onEvent settings s (.message msg node) = (s, []) := by
            simp only [onEvent, known, agent, ne_eq, supervisor, not_false_eq_true, ↓reduceIte,
              Bool.false_eq_true, ite_self]
          rw [same]
          refine .skipped msg node ?_ (by simp [accepted, silent])
          simp only [GraphEvent.clears, GraphEvent.isAgent, GraphEvent.inlineHandoff, silent, agent,
            Bool.and_false, Option.filter_none, Option.isSome_none, Bool.or_self]

end OrchidApi
