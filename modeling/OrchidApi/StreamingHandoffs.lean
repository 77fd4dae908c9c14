import OrchidApi.StreamingAnswer

/-! The handoffs of one stream, from discarded chunks and from inline messages: each is sent
once, trimmed, and none of them comes back as a token of the answer. -/
namespace OrchidApi
open Text

/-- Contents of the frames a client takes for handoffs, in order. -/
def handoffContents (frames : List Frame) : List Str :=
  (frames.filter (Frame.hasType "handoff")).filterMap Frame.content

@[simp] theorem handoffContents_append (first second : List Frame) :
    handoffContents (first ++ second) = handoffContents first ++ handoffContents second := by
  simp [handoffContents]

theorem handoffContents_none {frames : List Frame}
    (none : ∀ f ∈ frames, f.hasType "handoff" = false) : handoffContents frames = [] := by
  have empty : frames.filter (Frame.hasType "handoff") = [] :=
    List.filter_eq_nil_iff.mpr fun f member => by simp [none f member]
  simp [handoffContents, empty]

theorem handoffContents_buffered {t : Option BufferedToken}
    (handoff : ∀ token, t = some token → token.kind = .handoff) :
    handoffContents (t.toList.map .buffered) = (t.map BufferedToken.content).toList := by
  cases t with
  | none => rfl
  | some token => simp [handoffContents, handoff token rfl, TokenKind.name]

/-! ## The buffer -/

/-- What the dedup sets of the buffer know about the handoffs sent so far. -/
structure HandoffLedger (b : SupervisorTokenBuffer) (sent : List Str) : Prop where
  distinct : sent.Nodup
  seen : ∀ content ∈ sent, content ∈ b.seenHandoffs
  marked : ∀ content ∈ sent, b.alreadyEmitted content = true
  proper : ∀ content ∈ sent, content ≠ [] ∧ Trimmed content

namespace HandoffLedger
variable {b b' : SupervisorTokenBuffer} {sent : List Str}

theorem congr (ledger : HandoffLedger b sent) (seen : b'.seenHandoffs = b.seenHandoffs)
    (prefixes : b'.emittedPrefixes = b.emittedPrefixes) : HandoffLedger b' sent := by
  refine ⟨ledger.distinct, seen ▸ ledger.seen, fun content member => ?_, ledger.proper⟩
  rw [SupervisorTokenBuffer.alreadyEmitted, prefixes]
  exact ledger.marked content member

/-- A cleaned text is recorded and sent, or it is empty or was sent before. -/
theorem recordHandoff (ledger : HandoffLedger b sent) {cleaned : Str} (trimmed : Trimmed cleaned) :
    HandoffLedger (b.recordHandoff cleaned).1
      (sent ++ ((b.recordHandoff cleaned).2.map BufferedToken.content).toList) := by
  unfold SupervisorTokenBuffer.recordHandoff
  split
  · simpa using ledger
  · rename_i fresh
    simp only [Bool.or_eq_true, List.isEmpty_iff, List.contains_iff_mem, not_or] at fresh
    obtain ⟨nonempty, unseen⟩ := fresh
    constructor
    · refine List.nodup_append.mpr ⟨ledger.distinct, by simp, ?_⟩
      rintro content old _ new rfl
      obtain rfl := List.mem_singleton.mp new
      exact unseen (ledger.seen _ old)
    · intro content member
      rcases List.mem_append.mp member with old | new
      · exact List.mem_insert_of_mem (ledger.seen content old)
      · rw [List.mem_singleton.mp new]
        exact List.mem_insert_self
    · intro content member
      simp only [SupervisorTokenBuffer.alreadyEmitted, List.contains_iff_mem]
      rcases List.mem_append.mp member with old | new
      · have known := ledger.marked content old
        simp only [SupervisorTokenBuffer.alreadyEmitted, List.contains_iff_mem] at known
        exact List.mem_insert_of_mem known
      · rw [List.mem_singleton.mp new]
        exact List.mem_insert_self
    · intro content member
      rcases List.mem_append.mp member with old | new
      · exact ledger.proper content old
      · rw [List.mem_singleton.mp new]
        exact ⟨nonempty, trimmed⟩

theorem clear (ledger : HandoffLedger b sent) : HandoffLedger b.clear sent := ledger.congr rfl rfl

theorem discardAsHandoff (ledger : HandoffLedger b sent) :
    HandoffLedger b.discardAsHandoff.1
      (sent ++ (b.discardAsHandoff.2.map BufferedToken.content).toList) := by
  unfold SupervisorTokenBuffer.discardAsHandoff
  split
  · simpa using ledger.clear
  · exact ledger.clear.recordHandoff (cleanHandoff_trimmed _)

theorem recordInlineHandoff (ledger : HandoffLedger b sent) (content : Str) :
    HandoffLedger (b.recordInlineHandoff content).1
      (sent ++ ((b.recordInlineHandoff content).2.map BufferedToken.content).toList) :=
  ledger.clear.recordHandoff (cleanHandoff_trimmed _)

end HandoffLedger

/-! ## The loop -/

theorem handoffContents_started {s : StreamState} {agentName : Str} :
    handoffContents (if s.seenAgents.contains agentName then [] else [Frame.started agentName]) =
      [] := by
  split <;> simp [handoffContents]

theorem handoffContents_finished {settings : Settings} {msg : Message} {agentName : Str}
    {results : List (Str × Str)} :
    handoffContents ((maybeEmitAgentDone settings msg agentName results).map Prod.snd).toList = [] := by
  refine handoffContents_none fun f sent => ?_
  obtain ⟨⟨reply, g⟩, finished, rfl⟩ := Option.map_eq_some_iff.mp (Option.mem_toList.mp sent)
  unfold maybeEmitAgentDone at finished
  dsimp only at finished
  repeat' split at finished
  all_goals first | contradiction | (cases finished; simp)

theorem onEvent_handoffs (settings : Settings) (s : StreamState) (e : GraphEvent) {sent : List Str}
    (documented : e.Documented) (ledger : HandoffLedger s.buffer sent) :
    HandoffLedger (onEvent settings s e).1.buffer
      (sent ++ handoffContents (onEvent settings s e).2) := by
  generalize result : onEvent settings s e = r
  have step := result ▸ turn settings s e
  cases step with
  | values | skipped => simpa [handoffContents] using ledger
  | appended e content taken =>
    have same : HandoffLedger (s.buffer.append content) sent := ledger.congr rfl rfl
    simpa [handoffContents, StreamState.withBuffer] using same
  | lifecycle msg node event known =>
    have silent := hasType_lifecycle event "handoff" (documented event known) (by decide)
    rw [handoffContents_none (by simpa using silent), List.append_nil]
    exact ledger
  | agent msg node =>
    simp only [onAgent, StreamState.emit, handoffContents_append, handoffContents_started,
      handoffContents_finished, List.append_nil]
    rw [handoffContents_buffered fun token => s.buffer.discardAsHandoff_kind token]
    exact ledger.discardAsHandoff
  | inlined e content =>
    simp only [StreamState.emit]
    rw [handoffContents_buffered fun token => s.buffer.recordInlineHandoff_kind content token]
    exact ledger.recordInlineHandoff content

/-- At the end of the loop the buffer knows every handoff that was sent. -/
theorem loopState_handoffs (settings : Settings) (events : List GraphEvent)
    (documented : ∀ e ∈ events, e.Documented) :
    HandoffLedger (loopState settings events).buffer
      (handoffContents (loopFrames settings events)) := by
  have start : HandoffLedger ({} : StreamState).buffer (handoffContents []) :=
    ⟨.nil, by simp [handoffContents], by simp [handoffContents], by simp [handoffContents]⟩
  refine @Transducer.run_history _ _ _ (onEvent settings)
    (fun frames t => HandoffLedger t.buffer (handoffContents frames)) events ?_ [] {} start
  intro frames t e member ledger
  rw [handoffContents_append]
  exact onEvent_handoffs settings t e (documented e member) ledger

/-! ## The whole stream -/

/-- What follows the loop: nothing when the client is gone, else the exit and `done`. -/
def closingFrames (settings : Settings) (prepared : PreparedState) (s : StreamState) :
    Option Exn → List Frame
  | some .cancelled | some .generatorExit => []
  | ending => exitFrames settings s ending ++ [.done (exitDone prepared s ending)]

theorem caught_or_gone (ending : Option Exn) :
    Caught ending ∨ ending = some .cancelled ∨ ending = some .generatorExit := by
  cases ending with
  | none => exact .inl (by simp [Caught])
  | some error => cases error <;> simp [Caught, Exn.isException]

theorem closingFrames_caught {settings : Settings} {prepared : PreparedState} {s : StreamState}
    {ending : Option Exn} (caught : Caught ending) :
    closingFrames settings prepared s ending =
      exitFrames settings s ending ++ [.done (exitDone prepared s ending)] := by
  unfold closingFrames
  split
  · exact absurd (caught .cancelled rfl) (by decide)
  · exact absurd (caught .generatorExit rfl) (by decide)
  · rfl

/-- The frames of a stream, however the graph's iteration ends. -/
theorem serve_stream_frames (b : Backend) (w : World) (settings : Settings) (chatId : Str)
    (prepared : PreparedState) :
    (serve b (streamSupervisorTokens settings chatId prepared) w).2.frames = w.frames ++
      (loopFrames settings b.run.events ++
        closingFrames settings prepared (loopState settings b.run.events) b.run.ending) := by
  rcases caught_or_gone b.run.ending with caught | stopped | closed
  · rw [serve_stream caught, closingFrames_caught caught]
    simp [streamFrames]
  · rw [serve_stream_cancelled stopped, stopped]
    simp [closingFrames]
  · rw [serve_untilExit, closed]
    simp [closingFrames, Exn.isException]

/-- No handoff twice, each a trimmed text, and each token that was flushed from the buffer
apart from all of them in its first hundred characters. -/
structure HandoffsApart (s : StreamState) (sent : List Frame) : Prop where
  unique : (handoffContents sent).Nodup
  proper : ∀ handoff ∈ handoffContents sent, handoff ≠ [] ∧ Trimmed handoff
  apart : ∀ token ∈ tokenContents sent,
    (∀ handoff ∈ handoffContents sent, token.take 100 ≠ handoff.take 100) ∨
      (s.buffer.flushAsTokens.2 = [] ∧ s.directFinal = some token)

theorem closingFrames_handoffs (settings : Settings) (prepared : PreparedState) (run : GraphRun) :
    handoffContents (closingFrames settings prepared (loopState settings run.events) run.ending) =
      [] := by
  refine handoffContents_none fun f member => ?_
  rcases caught_or_gone run.ending with caught | stopped | closed
  · rw [closingFrames_caught caught] at member
    rcases exit_cases settings run with ⟨_, frames⟩ | ⟨_, _, message, frames⟩
    · rw [frames] at member
      rcases List.mem_append.mp member with token | done
      · obtain ⟨content, _, rfl⟩ := List.mem_map.mp token
        simp [TokenKind.name]
      · rw [List.mem_singleton.mp done]
        simp
    · rw [frames] at member
      rcases List.mem_append.mp member with error | done
      · rw [List.mem_singleton.mp error]
        simp
      · rw [List.mem_singleton.mp done]
        simp
  · simp [stopped, closingFrames] at member
  · simp [closed, closingFrames] at member

/-- A text that is still fresh begins like no handoff. -/
theorem HandoffLedger.apart {b : SupervisorTokenBuffer} {sent : List Str}
    (ledger : HandoffLedger b sent) {token handoff : Str} (fresh : b.alreadyEmitted token = false)
    (member : handoff ∈ sent) : token.take 100 ≠ handoff.take 100 := by
  intro same
  have marked := ledger.marked handoff member
  rw [SupervisorTokenBuffer.alreadyEmitted, ← same] at marked
  exact absurd (marked.symm.trans fresh) (by decide)

theorem answerTokens_origin {s : StreamState} (invariant : s.Invariant) {token : Str}
    (member : token ∈ s.answerTokens) : s.buffer.alreadyEmitted token = false ∨
      (s.buffer.flushAsTokens.2 = [] ∧ s.directFinal = some token) := by
  unfold StreamState.answerTokens at member
  split at member
  · rename_i empty
    exact .inr ⟨by simp [SupervisorTokenBuffer.flushAsTokens, empty], Option.mem_toList.mp member⟩
  · exact .inl (invariant.fresh token member)

/-- However the stream ends, its handoffs are unique and none is repeated in the answer. -/
theorem handoffs_apart (b : Backend) (w : World) (settings : Settings) (chatId : Str)
    (prepared : PreparedState) (documented : ∀ e ∈ b.run.events, e.Documented) :
    ∃ sent, (serve b (streamSupervisorTokens settings chatId prepared) w).2.frames =
        w.frames ++ sent ∧ HandoffsApart (loopState settings b.run.events) sent := by
  refine ⟨_, serve_stream_frames b w settings chatId prepared, ?_⟩
  have ledger := loopState_handoffs settings b.run.events documented
  have handoffs : handoffContents (loopFrames settings b.run.events ++ closingFrames settings
      prepared (loopState settings b.run.events) b.run.ending) =
      handoffContents (loopFrames settings b.run.events) := by
    rw [handoffContents_append, closingFrames_handoffs, List.append_nil]
  refine ⟨handoffs ▸ ledger.distinct, handoffs ▸ ledger.proper, fun token member => ?_⟩
  rw [handoffs]
  rcases caught_or_gone b.run.ending with caught | stopped | closed
  · have streamed := tokenContents_stream settings prepared b.run documented
    rw [streamFrames, ← closingFrames_caught caught] at streamed
    rw [streamed] at member
    cases ending : b.run.ending with
    | some error => simp [ending, exitState] at member
    | none =>
      rw [ending, (exhausted_exit settings _ (loopState_invariant settings b.run.events)
        (loopState_parts settings b.run.events)).2] at member
      refine (answerTokens_origin (loopState_invariant settings b.run.events) member).imp_left ?_
      exact fun fresh handoff sent => ledger.apart fresh sent
  all_goals
    have quiet := tokenContents_progress (drive_progress settings {} b.run.events documented)
    simp_all [closingFrames, loopFrames]

/-- Two handoffs, one from the buffer and one inline with the same text, and an answer. -/
def handedOver : List GraphEvent := [
  .message { content := some "x".toList } "menu_agent".toList,
  .message { content := some "Ask the cook.".toList } supervisorNode,
  .message { content := some "y".toList } "cook_agent".toList,
  .message { content := some "[Supervisor → cook] Handoff message: \"Ask the cook.\"".toList }
    supervisorNode,
  .message { content := some "Two pizzas are left.".toList } supervisorNode]

theorem handoffs_apart_sample :
    ∃ sent, (serve { run := ⟨handedOver, none⟩ } (streamSupervisorTokens {} "c".toList
        samplePrepared) ⟨{}, []⟩).2.frames = [] ++ sent ∧ HandoffsApart (loopState {} handedOver) sent := by
  refine handoffs_apart { run := ⟨handedOver, none⟩ } ⟨{}, []⟩ {} "c".toList samplePrepared ?_
  intro e member
  simp only [handedOver, List.mem_cons, List.not_mem_nil, or_false] at member
  rcases member with rfl | rfl | rfl | rfl | rfl <;> simp [GraphEvent.Documented]

example : handoffContents (loopFrames {} handedOver) = ["Ask the cook.".toList] := by decide

end OrchidApi
