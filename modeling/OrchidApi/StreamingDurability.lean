import OrchidApi.StreamingEcho
import OrchidApi.StreamingStops

/-! The generator under a consumer that may close it at any yield and cancel it at any
await, and which of these interruptions lose a turn that the client was told is done. -/
namespace OrchidApi
open Text Async

/-! ## The consumer -/

/-- Where the consumer struck; a cancelled call may have taken effect or not. -/
inductive Interruption where
  | closed (frame : Frame)
  | cancelled (c : Call) (committed : Bool)

structure Session where
  world : World
  struck : List Interruption := []

def Session.send (m : Session) (frames : List Frame) : Session :=
  { m with world := m.world.send frames }

/-- Calls are served as usual, except where the consumer interrupts; storage never fails. -/
inductive Consumes (b : Backend) : Session → (c : Call) → Except Exn c.Reply → Session → Prop where
  | served (m : Session) (c : Call) :
      Consumes b m c (server b c m.world).1 { m with world := (server b c m.world).2 }
  | closed (m : Session) (frame : Frame) :
      Consumes b m (.emit frame) (.error .generatorExit)
        ⟨m.world.send [frame], m.struck ++ [.closed frame]⟩
  | cancelled (m : Session) (c : Call) (committed : Bool) (waits : ∀ frame, c ≠ .emit frame) :
      Consumes b m c (.error .cancelled)
        ⟨if committed then (server b c m.world).2 else m.world, m.struck ++ [.cancelled c committed]⟩

/-- A delivered `done` without error has its turn in the chat. -/
def Durable (chatId : Str) (prepared : PreparedState) (w final : World) : Prop :=
  ∀ d, .done d ∈ sentSince w final → d.error = some false →
    storedSince chatId w final = [userRow prepared,
      { role := .assistant, content := some d.response, agentsUsed := d.agentsUsed }]

/-- Struck after `done` was handed over and before the assistant row was written. -/
def Interruption.Premature : Interruption → Prop
  | .closed (.done d) => d.error = some false
  | .closed _ => False
  | .cancelled (.addMessage _ row) committed => row.role = .user ∨ committed = false
  | .cancelled _ _ => False

/-! ## Before `done` -/

/-- No `done` frame and no row so far, and no interruption that matters. -/
structure Pending (w : World) (m : Session) : Prop where
  frames : ∃ sent, m.world.frames = w.frames ++ sent ∧ ∀ d, .done d ∉ sent
  store : m.world.store = w.store
  harmless : ∀ strike ∈ m.struck, ¬strike.Premature

theorem onEvent_notDone (settings : Settings) (s : StreamState) (e : GraphEvent) (d : Done) :
    .done d ∉ (onEvent settings s e).2 := by
  generalize result : onEvent settings s e = r
  have step := result ▸ turn settings s e
  cases step with
  | values | skipped | appended | lifecycle => simp
  | inlined e content => simp [StreamState.emit]
  | agent msg node =>
    intro member
    simp only [onAgent, List.mem_append, Option.mem_toList, Option.map_eq_some_iff] at member
    rcases member with (handoff | started) | ⟨⟨reply, f⟩, sent, rfl⟩
    · simp [StreamState.emit] at handoff
    · split at started <;> simp at started
    · exact maybeEmitAgentDone_progress _ _ _ _ _ _ sent

section Consumer
variable {b : Backend} {m final : Session} {w : World} {settings : Settings} {chatId : Str}
  {prepared : PreparedState}

theorem runs_emit {f : Frame} {outcome : Except Exn Unit}
    (run : Runs (Consumes b) (emit f) m outcome final) :
    final.world = m.world.send [f] ∧ ((outcome = .ok () ∧ final.struck = m.struck) ∨
      (outcome = .error .generatorExit ∧ final.struck = m.struck ++ [.closed f])) := by
  cases runs_await_iff.mp run with
  | served => exact ⟨rfl, .inl ⟨rfl, rfl⟩⟩
  | closed => exact ⟨rfl, .inr ⟨rfl, rfl⟩⟩
  | cancelled _ _ waits => exact absurd rfl (waits f)

theorem Pending.sent {f : Frame} (pending : Pending w m) (notDone : ∀ d, f ≠ .done d)
    (world : final.world = m.world.send [f])
    (struck : final.struck = m.struck ∨ final.struck = m.struck ++ [.closed f]) :
    Pending w final := by
  obtain ⟨⟨sent, frames, quiet⟩, store, harmless⟩ := pending
  refine ⟨⟨sent ++ [f], by simp [world, frames], ?_⟩, by simp [world, store], ?_⟩
  · intro d member
    rcases List.mem_append.mp member with earlier | now
    · exact quiet d earlier
    · exact notDone d (List.mem_singleton.mp now).symm
  · rcases struck with same | closed
    · exact same ▸ harmless
    · intro strike member
      rw [closed] at member
      rcases List.mem_append.mp member with earlier | now
      · exact harmless strike earlier
      · rw [List.mem_singleton.mp now]
        cases f with
        | done d => exact absurd rfl (notDone d)
        | _ => exact id

theorem emit_pending {f : Frame} {outcome : Except Exn Unit} (pending : Pending w m)
    (notDone : ∀ d, f ≠ .done d) (run : Runs (Consumes b) (emit f) m outcome final) :
    Pending w final := by
  obtain ⟨world, ends⟩ := runs_emit run
  exact pending.sent notDone world (ends.imp And.right And.right)

theorem emitFrames_pending {frames : List Frame} {outcome : Except Exn Unit}
    (pending : Pending w m) (notDone : ∀ d, .done d ∉ frames)
    (run : Runs (Consumes b) (emitFrames frames) m outcome final) : Pending w final := by
  induction frames generalizing m with
  | nil =>
    obtain ⟨_, rfl⟩ := runs_ret_iff.mp run
    exact pending
  | cons f rest ih =>
    have first : ∀ d, f ≠ .done d := fun d same => notDone d (by simp [same])
    have later : ∀ d, .done d ∉ rest := fun d member => notDone d (.tail _ member)
    rcases runs_bind_iff.mp run with ⟨_, middle, head, tail⟩ | ⟨_, _, head⟩
    · exact ih (emit_pending pending first head) later tail
    · exact emit_pending pending first head

theorem superviseLoop_pending {s : StreamState} {events : List GraphEvent}
    {outcome : Except Exn StreamState} (pending : Pending w m)
    (run : Runs (Consumes b) (superviseLoop settings s events) m outcome final) :
    Pending w final ∧ ∀ t, outcome = .ok t → t.fullResponseParts = s.fullResponseParts := by
  induction events generalizing s m with
  | nil =>
    obtain ⟨rfl, rfl⟩ := runs_ret_iff.mp run
    exact ⟨pending, fun t same => by cases same; rfl⟩
  | cons e rest ih =>
    rcases runs_bind_iff.mp run with ⟨_, middle, head, tail⟩ | ⟨error, rfl, head⟩
    · obtain ⟨later, parts⟩ := ih (emitFrames_pending pending (onEvent_notDone _ _ _) head) tail
      exact ⟨later, fun t same => (parts t same).trans (onEvent_parts _ _ _)⟩
    · exact ⟨emitFrames_pending pending (onEvent_notDone _ _ _) head, fun _ same => nomatch same⟩

theorem runs_startGraph {state : InitialState} {outcome : Except Exn GraphRun}
    (pending : Pending w m) (run : Runs (Consumes b) (startGraph chatId state) m outcome final) :
    Pending w final ∧ (outcome = .ok b.run ∨ outcome = .ok ⟨[], some .cancelled⟩) := by
  obtain ⟨first, middle, head, tail⟩ := runs_attempt_iff.mp run
  cases runs_await_iff.mp head with
  | served =>
    obtain ⟨rfl, rfl⟩ := runs_ret_iff.mp tail
    exact ⟨pending, .inl rfl⟩
  | cancelled _ committed =>
    obtain ⟨rfl, rfl⟩ := runs_ret_iff.mp tail
    refine ⟨⟨?_, ?_, ?_⟩, .inr rfl⟩
    · cases committed <;> exact pending.frames
    · cases committed <;> exact pending.store
    · intro strike member
      rcases List.mem_append.mp member with earlier | now
      · exact pending.harmless strike earlier
      · rw [List.mem_singleton.mp now]; exact id

/-! ## After `done` -/

theorem runs_addMessage {row : Row} {outcome : Except Exn Unit}
    (run : Runs (Consumes b) (ChatRepo.addMessage chatId row) m outcome final) :
    (outcome = .ok () ∧ final = ⟨m.world.addRows chatId [row], m.struck⟩) ∨
      (outcome = .error .cancelled ∧ ∃ committed, final =
        ⟨if committed then m.world.addRows chatId [row] else m.world,
          m.struck ++ [.cancelled (.addMessage chatId row) committed]⟩) := by
  cases runs_await_iff.mp run with
  | served => exact .inl ⟨rfl, rfl⟩
  | cancelled _ committed => exact .inr ⟨rfl, committed, rfl⟩

theorem addMessage_frames {row : Row} {outcome : Except Exn Unit}
    (run : Runs (Consumes b) (ChatRepo.addMessage chatId row) m outcome final) :
    final.world.frames = m.world.frames := by
  rcases runs_addMessage run with ⟨_, rfl⟩ | ⟨_, committed, rfl⟩
  · simp
  · cases committed <;> simp

theorem addMessages_frames {rows : List Row} {outcome : Except Exn Unit}
    (run : Runs (Consumes b) (Prog.each (ChatRepo.addMessage chatId) rows) m outcome final) :
    final.world.frames = m.world.frames := by
  induction rows generalizing m with
  | nil => rw [(runs_ret_iff.mp run).2]
  | cons row rest ih =>
    rcases runs_bind_iff.mp run with ⟨_, middle, head, tail⟩ | ⟨_, _, head⟩
    · exact (ih tail).trans (addMessage_frames head)
    · exact addMessage_frames head

/-- Titling, interrupted or not, sends nothing and adds no row. -/
theorem runs_autoTitle {outcome : Except Exn Unit} (run : Runs (Consumes b)
      (autoTitleIfFirstMessage chatId prepared.message prepared.historyRows) m outcome final) :
    final.world.frames = m.world.frames ∧
      final.world.store.rows chatId = m.world.store.rows chatId ∧
      ((∀ strike ∈ m.struck, ¬strike.Premature) → ∀ strike ∈ final.struck, ¬strike.Premature) := by
  unfold autoTitleIfFirstMessage at run
  split at run
  · cases runs_await_iff.mp run with
    | served => exact ⟨rfl, rfl, id⟩
    | cancelled _ committed =>
      refine ⟨by cases committed <;> rfl, by cases committed <;> rfl, fun harmless strike member => ?_⟩
      rcases List.mem_append.mp member with earlier | now
      · exact harmless strike earlier
      · rw [List.mem_singleton.mp now]; exact id
  · obtain ⟨_, rfl⟩ := runs_ret_iff.mp run
    exact ⟨rfl, rfl, id⟩

/-- `suppress` changes the outcome only. -/
theorem runs_suppress {p : Handler Unit} {outcome : Except Exn Unit}
    (run : Runs (Consumes b) (suppress p) m outcome final) :
    ∃ inner, Runs (Consumes b) p m inner final := by
  obtain ⟨inner, middle, head, tail⟩ := runs_attempt_iff.mp run
  have same : final = middle := by
    cases inner with
    | ok _ => exact (runs_ret_iff.mp tail).2
    | error error =>
      dsimp only at tail
      split at tail
      · exact (runs_ret_iff.mp tail).2
      · exact (runs_raise_iff.mp tail).2
  exact ⟨inner, same ▸ head⟩

theorem persist_frames {rows : List Row} {outcome : Except Exn Unit}
    (run : Runs (Consumes b) (persist chatId prepared rows) m outcome final) :
    final.world.frames = m.world.frames := by
  obtain ⟨inner, run⟩ := runs_suppress run
  rcases runs_bind_iff.mp run with ⟨_, middle, head, tail⟩ | ⟨_, _, head⟩
  · exact (runs_autoTitle tail).1.trans (addMessages_frames head)
  · exact addMessages_frames head

/-- A turn is written in full exactly when no interruption came before its answer. -/
theorem persist_turn {row : Row} {outcome : Except Exn Unit} (answer : row.role = .assistant)
    (harmless : ∀ strike ∈ m.struck, ¬strike.Premature)
    (run : Runs (Consumes b) (persist chatId prepared [userRow prepared, row]) m outcome final) :
    storedSince chatId m.world final.world = [userRow prepared, row] ↔
      ∀ strike ∈ final.struck, ¬strike.Premature := by
  unfold storedSince
  obtain ⟨inner, run⟩ := runs_suppress run
  rcases runs_bind_iff.mp run with ⟨_, written, rows, title⟩ | ⟨_, _, rows⟩
  · -- Both rows were written, whatever happened to the title.
    obtain ⟨_, same, kept⟩ := runs_autoTitle title
    rcases runs_bind_iff.mp rows with ⟨_, asked, user, rest⟩ | ⟨_, impossible, _⟩
    · rcases runs_addMessage user with ⟨_, rfl⟩ | ⟨impossible, _⟩
      · rcases runs_bind_iff.mp rest with ⟨_, answered, assistant, done⟩ | ⟨_, impossible, _⟩
        · rcases runs_addMessage assistant with ⟨_, rfl⟩ | ⟨impossible, _⟩
          · obtain ⟨_, rfl⟩ := runs_ret_iff.mp done
            exact ⟨fun _ => kept harmless, fun _ => by simp [same]⟩
          · contradiction
        · contradiction
      · contradiction
    · contradiction
  · rcases runs_bind_iff.mp rows with ⟨_, asked, user, rest⟩ | ⟨_, _, user⟩
    · rcases runs_addMessage user with ⟨_, rfl⟩ | ⟨impossible, _⟩
      · rcases runs_bind_iff.mp rest with ⟨_, answered, _, done⟩ | ⟨_, _, assistant⟩
        · exact nomatch (runs_ret_iff.mp done).1
        · rcases runs_addMessage assistant with ⟨impossible, _⟩ | ⟨_, committed, rfl⟩
          · contradiction
          · -- The answer's own await: it counts if and only if it was committed.
            cases committed
            · simp [Interruption.Premature, or_imp, forall_and]
            · simpa [Interruption.Premature, answer, or_imp, forall_and] using harmless
      · contradiction
    · rcases runs_addMessage user with ⟨impossible, _⟩ | ⟨_, committed, rfl⟩
      · contradiction
      · cases committed <;> simp [Interruption.Premature, userRow, or_imp, forall_and]

/-- Without a delivered `done` there is nothing to keep, and nothing was lost. -/
theorem pending_durable {failed : Prop} (pending : Pending w m) :
    Durable chatId prepared w m.world ↔ (failed ∨ ∀ strike ∈ m.struck, ¬strike.Premature) := by
  obtain ⟨⟨sent, frames, quiet⟩, _, harmless⟩ := pending
  refine ⟨fun _ => .inr harmless, fun _ d member => ?_⟩
  rw [sentSince, frames, List.drop_left] at member
  exact absurd member (quiet d)

theorem exit_notDone (s : StreamState) :
    (∀ d, .done d ∉ (flush s).2) ∧ ∀ d, .done d ∉ (fallback s).2 := by
  refine ⟨fun d => by simp [flush, StreamState.emit], fun d => ?_⟩
  unfold fallback
  cases s.directFinal with
  | none => simp
  | some text => dsimp only; split <;> simp [StreamState.emit]

/-- Where one `done` was sent, it is its answer that the chat is to hold, unless it reports an
error. -/
theorem durable_of_done {v : World} {d : Done} {failed : Bool} (reports : d.error = some failed)
    (only : ∀ other, .done other ∈ sentSince w v ↔ other = d) :
    Durable chatId prepared w v ↔
      (failed = true ∨ storedSince chatId w v = [userRow prepared,
        { role := .assistant, content := some d.response, agentsUsed := d.agentsUsed }]) := by
  cases failed with
  | true =>
    simp only [true_or, iff_true]
    intro other member error
    rw [(only other).mp member, reports] at error
    cases error
  | false =>
    simp only [Bool.false_eq_true, false_or]
    constructor
    · exact fun durable => durable d ((only d).mpr rfl) reports
    · intro stored other member _
      rwa [(only other).mp member]

/-- The shared tail, from the `done` frame on. -/
theorem finishStream_durable {s : StreamState} {late failed : Bool} {outcome : Except Exn Unit}
    (pending : Pending w m)
    (run : Runs (Consumes b) (finishStream chatId prepared s late failed) m outcome final) :
    Durable chatId prepared w final.world ↔
      (failed = true ∨ ∀ strike ∈ final.struck, ¬strike.Premature) := by
  obtain ⟨⟨sent, frames, quiet⟩, store, harmless⟩ := pending
  have announced (d : Done) (middle : Session) (world : middle.world = m.world.send [.done d])
      (kept : final.world.frames = middle.world.frames) (other : Done) :
      .done other ∈ sentSince w final.world ↔ other = d := by
    simp [sentSince, kept, world, frames, quiet]
  rcases runs_bind_iff.mp run with ⟨_, middle, head, tail⟩ | ⟨_, _, head⟩
  · obtain ⟨world, ends⟩ := runs_emit head
    have struck : middle.struck = m.struck := by
      rcases ends with ⟨_, same⟩ | ⟨impossible, _⟩
      · exact same
      · contradiction
    rw [durable_of_done rfl (announced _ middle world (persist_frames tail))]
    cases failed with
    | true => simp only [true_or]
    | false =>
      have before : storedSince chatId middle.world final.world =
          storedSince chatId w final.world := by simp [storedSince, world, store]
      rw [← persist_turn rfl (struck ▸ harmless) tail, before]
      rfl
  · obtain ⟨world, ends⟩ := runs_emit head
    have struck : final.struck =
        m.struck ++ [.closed (.done (s.done prepared late false (some failed)))] := by
      rcases ends with ⟨impossible, _⟩ | ⟨_, closed⟩
      · contradiction
      · exact closed
    have nothing : storedSince chatId w final.world = [] := by simp [storedSince, world, store]
    rw [durable_of_done rfl (announced _ final world rfl), nothing]
    cases failed with
    | true => simp only [true_or]
    | false =>
      refine or_congr_right ⟨fun none => absurd none (List.cons_ne_nil _ _).symm, fun safe => ?_⟩
      have premature := safe (.closed (.done (s.done prepared late false (some false))))
        (by simp [struck])
      exact absurd rfl premature

/-- A delivered `done` keeps its promise exactly when the consumer did not strike between
that frame and the commit of the answer (or the graph raised, and no answer was due). -/
theorem done_durable_iff {outcome : Except Exn Unit} (run : Runs (Consumes b)
      (streamSupervisorTokens settings chatId prepared) ⟨w, []⟩ outcome final) :
    Durable chatId prepared w final.world ↔
      (errored b.run.ending = true ∨ ∀ strike ∈ final.struck, ¬strike.Premature) := by
  have start : Pending w ⟨w, []⟩ := ⟨⟨[], by simp⟩, rfl, by simp⟩
  rcases runs_bind_iff.mp run with ⟨graph, opened, head, rest⟩ | ⟨_, _, head⟩
  · obtain ⟨pending, graphIs⟩ := runs_startGraph start head
    rcases runs_bind_iff.mp rest with ⟨s, looped, loop, exit⟩ | ⟨_, _, loop⟩
    · obtain ⟨pending, quiet⟩ := superviseLoop_pending pending loop
      have parts : s.fullResponseParts = [] := quiet s rfl
      have stop (exit : Runs (Consumes b) (cancelStream chatId prepared s) looped outcome final) :
          Pending w final := by
        simp only [cancelStream, parts, List.isEmpty_nil, ↓reduceIte] at exit
        obtain ⟨_, rfl⟩ := runs_raise_iff.mp exit
        exact pending
      rcases graphIs with graphIs | graphIs <;> obtain rfl := Except.ok.inj graphIs
      · have failing (late failed : Bool) (message : Str) (exit : Runs (Consumes b) (do
            emit (.error message)
            finishStream chatId prepared s late failed) looped outcome final) :
            Durable chatId prepared w final.world ↔
              (failed = true ∨ ∀ strike ∈ final.struck, ¬strike.Premature) := by
          have quiet : ∀ d, Frame.error message ≠ .done d := by simp
          rcases runs_bind_iff.mp exit with ⟨_, _, alert, tail⟩ | ⟨_, _, alert⟩
          · exact finishStream_durable (emit_pending pending quiet alert) tail
          · exact pending_durable (emit_pending pending quiet alert)
        cases ending : b.run.ending with
        | none =>
          simp only [ending] at exit
          rcases runs_bind_iff.mp exit with ⟨_, _, flushed, exit⟩ | ⟨_, _, flushed⟩
          · have pending := emitFrames_pending pending (exit_notDone _).1 flushed
            rcases runs_bind_iff.mp exit with ⟨_, _, direct, tail⟩ | ⟨_, _, direct⟩
            · exact finishStream_durable (emitFrames_pending pending (exit_notDone _).2 direct) tail
            · exact pending_durable (emitFrames_pending pending (exit_notDone _).2 direct)
          · exact pending_durable (emitFrames_pending pending (exit_notDone _).1 flushed)
        | some error =>
          cases error
          case cancelled => exact pending_durable (stop (by simpa only [ending] using exit))
          case generatorExit =>
            simp only [ending] at exit
            obtain ⟨_, rfl⟩ := runs_raise_iff.mp exit
            exact pending_durable pending
          all_goals
            simp only [ending, Exn.isException, ↓reduceIte] at exit
            exact failing _ _ _ exit
      · exact pending_durable (stop exit)
    · exact pending_durable (superviseLoop_pending pending loop).1
  · exact pending_durable (runs_startGraph start head).1

end Consumer

/-- A graph that answers directly. -/
def directRun : GraphRun := ⟨[.values { finalResponse := some (some "Hello".toList) }], none⟩

def directDone : Done := ⟨"Hello".toList, [], [], [], false, false, some false⟩

/-- The client reads the answer and its `done` frame, and then goes away. -/
theorem runs_closed_at_done :
    Runs (Consumes { run := directRun }) (streamSupervisorTokens {} "c".toList samplePrepared)
      ⟨⟨{}, []⟩, []⟩ (.error .generatorExit)
      ⟨⟨{}, [.buffered ⟨.token, "Hello".toList⟩, .done directDone]⟩, [.closed (.done directDone)]⟩ :=
  .call (.served _ _) (.call (.served _ _) (.call (.closed _ _) .raise))

theorem done_durable_iff_sample :
    Durable "c".toList samplePrepared ⟨{}, []⟩
        ⟨{}, [.buffered ⟨.token, "Hello".toList⟩, .done directDone]⟩ ↔
      (errored directRun.ending = true ∨
        ∀ strike ∈ [Interruption.closed (.done directDone)], ¬strike.Premature) :=
  done_durable_iff runs_closed_at_done

/-- The client was told that the turn is done, and the chat holds none of it. -/
theorem turn_lost_after_done :
    ∃ final, Runs (Consumes { run := directRun })
        (streamSupervisorTokens {} "c".toList samplePrepared) ⟨⟨{}, []⟩, []⟩
        (.error .generatorExit) final ∧
      .done directDone ∈ sentSince ⟨{}, []⟩ final.world ∧ directDone.error = some false ∧
      storedSince "c".toList ⟨{}, []⟩ final.world = [] ∧
      ¬Durable "c".toList samplePrepared ⟨{}, []⟩ final.world := by
  refine ⟨_, runs_closed_at_done, by simp [sentSince], rfl, rfl, fun durable => ?_⟩
  have stored := durable directDone (by simp [sentSince]) rfl
  exact absurd stored (by simp [storedSince, MemoryStore.rows])

end OrchidApi
