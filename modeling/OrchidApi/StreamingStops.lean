import OrchidApi.StreamingAnswer

/-! Streams that are cut short while the graph still runs. Tokens are only emitted at
the flush, so the chunks held in the supervisor buffer are lost on both exits. -/
namespace OrchidApi
open Text

/-- The chunks received so far are announced and stored, not the fallback text. -/
def PartialKept (chunks : List Str) (sent : List Frame) (stored : List Row) : Prop :=
  ∃ d, sent.getLast? = some (.done d) ∧ d.response = chunks.flatten ∧ d.response ≠ noResponse ∧
    ∃ row ∈ stored, row.role = .assistant ∧ row.content = some chunks.flatten

/-- A run whose supervisor has begun to answer. -/
def partialEvents : List GraphEvent := [
  .message { content := some "[Menu Agent]".toList } "menu_agent".toList,
  .message { content := some "Two pizzas".toList } supervisorNode]

section Timeout
variable (b : Backend) (w : World) (settings : Settings) (chatId : Str) (prepared : PreparedState)

/-- An expired budget always announces and stores the fallback, whatever was received. -/
theorem timeout_discards_partial (late : b.run.ending = some .timeout) :
    ∃ final d, serve b (streamSupervisorTokens settings chatId prepared) w = (.ok (), final) ∧
      (sentSince w final).getLast? = some (.done d) ∧ d.response = noResponse ∧
      storedSince chatId w final = [userRow prepared,
        { role := .assistant, content := some noResponse, agentsUsed := d.agentsUsed }] ∧
      ¬PartialKept (loopState settings b.run.events).buffer.chunks (sentSince w final)
        (storedSince chatId w final) := by
  have caught : Caught b.run.ending := by simp [Caught, late, Exn.isException]
  have response : (exitDone prepared (loopState settings b.run.events) b.run.ending).response =
      noResponse := by
    simp [exitDone, late, exitState, StreamState.done, StreamState.response]
  have last : (streamFrames settings prepared b.run).getLast? =
      some (.done (exitDone prepared (loopState settings b.run.events) b.run.ending)) := by
    simp only [streamFrames, ← List.append_assoc, List.getLast?_concat]
  refine ⟨_, exitDone prepared (loopState settings b.run.events) b.run.ending,
    serve_stream caught, ?_, response, ?_, ?_⟩
  · simpa [sentSince] using last
  · simp only [storedSince, autoTitle_rows, addRows_rows, send_store, List.drop_left]
    simp [streamRows, exitRows, errored, late, exitState, exitDone, StreamState.assistantRow,
      StreamState.done, StreamState.response]
  · rintro ⟨d, sent, _, other, _⟩
    simp only [sentSince, autoTitle_frames, addRows_frames, send_frames, List.drop_left, last,
      Option.some.injEq, Frame.done.injEq] at sent
    exact other (sent ▸ response)

theorem timeout_discards_partial_sample :
    ∃ final d, serve { run := ⟨partialEvents, some .timeout⟩ } (streamSupervisorTokens {} "c".toList
        samplePrepared) ⟨{}, []⟩ = (.ok (), final) ∧
      (sentSince ⟨{}, []⟩ final).getLast? = some (.done d) ∧ d.response = noResponse ∧
      storedSince "c".toList ⟨{}, []⟩ final = [userRow samplePrepared,
        { role := .assistant, content := some noResponse, agentsUsed := d.agentsUsed }] ∧
      ¬PartialKept (loopState {} partialEvents).buffer.chunks (sentSince ⟨{}, []⟩ final)
        (storedSince "c".toList ⟨{}, []⟩ final) :=
  timeout_discards_partial { run := ⟨partialEvents, some .timeout⟩ } ⟨{}, []⟩ {} "c".toList
    samplePrepared rfl

/-- The chunk "Two pizzas" was accepted, yet the stored answer is the fallback. -/
theorem partial_lost_on_timeout :
    (loopState {} partialEvents).buffer.chunks = ["Two pizzas".toList] ∧
      storedSince "c".toList ⟨{}, []⟩ (serve { run := ⟨partialEvents, some .timeout⟩ }
        (streamSupervisorTokens {} "c".toList samplePrepared) ⟨{}, []⟩).2 =
        [{ role := .user, content := some "Hi".toList },
          { role := .assistant, content := some noResponse, agentsUsed := ["menu".toList] }] ∧
      ¬PartialKept ["Two pizzas".toList]
        (sentSince ⟨{}, []⟩ (serve { run := ⟨partialEvents, some .timeout⟩ }
          (streamSupervisorTokens {} "c".toList samplePrepared) ⟨{}, []⟩).2)
        (storedSince "c".toList ⟨{}, []⟩ (serve { run := ⟨partialEvents, some .timeout⟩ }
          (streamSupervisorTokens {} "c".toList samplePrepared) ⟨{}, []⟩).2) := by
  have stored : storedSince "c".toList ⟨{}, []⟩ (serve { run := ⟨partialEvents, some .timeout⟩ }
      (streamSupervisorTokens {} "c".toList samplePrepared) ⟨{}, []⟩).2 =
      [{ role := .user, content := some "Hi".toList },
        { role := .assistant, content := some noResponse, agentsUsed := ["menu".toList] }] := by
    decide
  refine ⟨by decide, stored, ?_⟩
  rintro ⟨_, _, _, _, row, member, role, content⟩
  rw [stored] at member
  simp only [List.mem_cons, List.not_mem_nil, or_false] at member
  rcases member with rfl | rfl
  · contradiction
  · exact absurd content (by decide)

end Timeout

/-! ## User stops -/

/-- A stop stores the turn with the partial answer, or nothing without content. -/
def StopKept (chunks : List Str) (prepared : PreparedState) (stored : List Row) : Prop :=
  if chunks = [] then stored = []
  else ∃ agents, stored = [userRow prepared,
    { role := .assistant, content := some chunks.flatten, agentsUsed := agents, cancelled := true }]

/-- A stop at the graph's await stores nothing, which is right only without content. -/
theorem stop_kept_iff (b : Backend) (w : World) (settings : Settings) (chatId : Str)
    (prepared : PreparedState) (stopped : b.run.ending = some .cancelled) :
    ((serve b (streamSupervisorTokens settings chatId prepared) w).1 = .error .cancelled ∧
      StopKept (loopState settings b.run.events).buffer.chunks prepared (storedSince chatId w
        (serve b (streamSupervisorTokens settings chatId prepared) w).2)) ↔
      (loopState settings b.run.events).buffer.chunks = [] := by
  rw [serve_stream_cancelled stopped]
  have nothing : storedSince chatId w (w.send (loopFrames settings b.run.events)) = [] := by
    simp [storedSince]
  rw [nothing]
  constructor
  · rintro ⟨_, kept⟩
    by_contra held
    simp [StopKept, held] at kept
  · intro empty
    exact ⟨rfl, by simp [StopKept, empty]⟩

theorem stop_kept_iff_sample :
    ((serve { run := ⟨partialEvents, some .cancelled⟩ } (streamSupervisorTokens {} "c".toList
        samplePrepared) ⟨{}, []⟩).1 = .error .cancelled ∧
      StopKept (loopState {} partialEvents).buffer.chunks samplePrepared
        (storedSince "c".toList ⟨{}, []⟩ (serve { run := ⟨partialEvents, some .cancelled⟩ }
          (streamSupervisorTokens {} "c".toList samplePrepared) ⟨{}, []⟩).2)) ↔
      (loopState {} partialEvents).buffer.chunks = [] :=
  stop_kept_iff { run := ⟨partialEvents, some .cancelled⟩ } ⟨{}, []⟩ {} "c".toList
    samplePrepared rfl

/-- The user stops after "Two pizzas"; the chat keeps neither the question nor the answer. -/
theorem partial_lost_on_stop :
    (loopState {} partialEvents).buffer.chunks = ["Two pizzas".toList] ∧
      storedSince "c".toList ⟨{}, []⟩ (serve { run := ⟨partialEvents, some .cancelled⟩ }
        (streamSupervisorTokens {} "c".toList samplePrepared) ⟨{}, []⟩).2 = [] ∧
      ¬StopKept ["Two pizzas".toList] samplePrepared
        (storedSince "c".toList ⟨{}, []⟩ (serve { run := ⟨partialEvents, some .cancelled⟩ }
          (streamSupervisorTokens {} "c".toList samplePrepared) ⟨{}, []⟩).2) := by
  have stored : storedSince "c".toList ⟨{}, []⟩ (serve { run := ⟨partialEvents, some .cancelled⟩ }
      (streamSupervisorTokens {} "c".toList samplePrepared) ⟨{}, []⟩).2 = [] := by
    decide
  refine ⟨by decide, stored, ?_⟩
  rw [stored]
  simp [StopKept]

end OrchidApi
