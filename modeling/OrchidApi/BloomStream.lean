import OrchidApi.Chats

/-! `GET /chats/{chat_id}/events/stream` of `routers/chat_events.py` while chat-bound runs are
queued, change their status and are published, and which of them the client misses. -/
namespace OrchidApi
open Text Async

/-! ## Runs bound to a chat -/

structure BloomRow where
  run : BoundRun
  status : JobStatus

def inFlightStatuses : List JobStatus := [.pending, .running]

def BoundRun.boundTo (run : BoundRun) (chatId : Str) : Bool :=
  match run.chatBinding.lookup "chat_id".toList with
  | some (.str id) => id == chatId
  | _ => false

/-- `job_store.list` by chat binding and statuses. -/
def BloomRow.listed (rows : List BloomRow) (chatId : Str) (statuses : List JobStatus)
    (limit : Nat) : List BoundRun :=
  ((rows.filter fun row => row.run.boundTo chatId && decide (row.status ∈ statuses)).take limit).map
    BloomRow.run

/-- What the rest of the system does while the stream is open. -/
inductive BloomAction where
  | insert (index : Nat) (row : BloomRow)
  | setStatus (runId : Str) (status : JobStatus)
  | publish (chatId : Str) (event : ChatBloomEvent)

def BloomAction.apply (rows : List BloomRow) : BloomAction → List BloomRow
  | .insert index row => rows.insertIdx index row
  | .setStatus runId status =>
    rows.map fun row => if row.run.runId = runId then { row with status } else row
  | .publish _ _ => rows

/-- The events published on the channel of a chat. -/
def published (chatId : Str) (actions : List BloomAction) : List ChatBloomEvent :=
  actions.filterMap fun
    | .publish channel event => if channel = chatId then some event else none
    | _ => none

/-! ## One connection -/

/-- What happens, in order: a step of the rest of the system, the discovery query, a frame
handed to the client, the registration of the subscription, an event that it delivers. -/
inductive Moment where
  | acted (action : BloomAction)
  | listed
  | sent (event : ChatBloomEvent)
  | registered
  | delivered (event : ChatBloomEvent)

/-- The job store when the client connects, and what has happened since. -/
structure Connection where
  start : List BloomRow
  history : List Moment := []

def rowsAfter (rows : List BloomRow) : List Moment → List BloomRow
  | [] => rows
  | .acted action :: rest => rowsAfter (action.apply rows) rest
  | _ :: rest => rowsAfter rows rest

namespace Connection

def rows (w : Connection) : List BloomRow := rowsAfter w.start w.history

def after (w : Connection) (moments : List Moment) : Connection :=
  { w with history := w.history ++ moments }

def mark (w : Connection) (moment : Moment) : Connection := w.after [moment]
def act (w : Connection) (actions : List BloomAction) : Connection := w.after (actions.map .acted)

theorem act_nil (w : Connection) : w.act [] = w := by
  cases w
  simp [act, after]

end Connection

/-- The answers to the stream's calls. A subscriber is handed some of what is published on the
chat's channel from its registration on: a slow one loses its oldest events, and the subscription
may end before the client leaves. -/
inductive BloomAnswers : Connection → (c : Call) → Except Exn c.Reply → Connection → Prop where
  | chat (w : Connection) (id : Str) (found : Option ChatSession) :
      BloomAnswers w (.getChat id) (.ok found) w
  | list (w : Connection) (chatId : Str) (statuses : List JobStatus) (limit : Nat) :
      BloomAnswers w (.listBoundRuns chatId statuses limit)
        (.ok (BloomRow.listed w.rows chatId statuses limit)) (w.mark .listed)
  | clock (w : Connection) (time : Str) : BloomAnswers w .now (.ok time) w
  | send (w : Connection) (event : ChatBloomEvent) :
      BloomAnswers w (.emitBloom event) (.ok ()) (w.mark (.sent event))
  | follow (w : Connection) (chatId : Str) (live : List BloomAction) (delivered : List ChatBloomEvent)
      (part : delivered.Sublist (published chatId live)) :
      BloomAnswers w (.subscribe chatId) (.ok delivered)
        (((w.mark .registered).act live).after (delivered.map .delivered))

/-- Any steps of the system come before each answer. A subscription answers when the client is
no longer connected: nothing counts after it. -/
def bloomServes (w : Connection) (c : Call) (answer : Except Exn c.Reply) (w' : Connection) : Prop :=
  ∃ actions, (.registered ∈ w.history → actions = []) ∧ BloomAnswers (w.act actions) c answer w'

/-! ## What a client may rely on -/

/-- An event of the given type about a run. -/
def ChatBloomEvent.Tells (event : ChatBloomEvent) (kind : String) (runId : Str) : Prop :=
  event.type = kind.toList ∧ event.runId = runId

namespace Connection
variable (w : Connection) (chatId : Str)

def Sent (kind : String) (runId : Str) : Prop :=
  ∃ event, event.Tells kind runId ∧ .sent event ∈ w.history

/-- Published on the chat's channel after the registration of the subscription, and delivered. -/
def Live (kind : String) (runId : Str) : Prop :=
  ∃ event, event.Tells kind runId ∧
    [.registered, .acted (.publish chatId event), .delivered event].Sublist w.history

/-- Pending or running when the client connects. -/
def InFlight (runId : Str) : Prop :=
  ∃ row ∈ w.start, row.run.boundTo chatId = true ∧ row.status ∈ inFlightStatuses ∧
    row.run.runId = runId

/-- Stored and announced on the chat's channel after the client connects. -/
def Queued (runId : Str) : Prop :=
  (∃ index row, .acted (.insert index row) ∈ w.history ∧ row.run.boundTo chatId = true ∧
    row.status ∈ inFlightStatuses ∧ row.run.runId = runId) ∧
  ∃ event, event.Tells "chat.bloom.attached" runId ∧ .acted (.publish chatId event) ∈ w.history

/-- The end is published after the frame of the discovery, or after an announcement that the
subscription delivers. -/
def FinishesLater (runId : Str) : Prop :=
  ∃ attached finished, attached.Tells "chat.bloom.attached" runId ∧
    finished.Tells "chat.bloom.finished" runId ∧
    ([.sent attached, .acted (.publish chatId finished)].Sublist w.history ∨
      .delivered attached ∈ w.history ∧
        [.registered, .acted (.publish chatId attached), .acted (.publish chatId finished)].Sublist
          w.history)

structure LosesNothing : Prop where
  attached : ∀ runId, w.InFlight chatId runId ∨ w.Queued chatId runId →
    w.Sent "chat.bloom.attached" runId
  finished : ∀ runId, w.FinishesLater chatId runId → w.Sent "chat.bloom.finished" runId

/-- Among the first 200 runs in flight at the time of the discovery query. -/
def Discovered (runId : Str) : Prop :=
  ∃ early rest, w.history = early ++ .listed :: rest ∧
    ∃ run ∈ BloomRow.listed (rowsAfter w.start early) chatId inFlightStatuses 200, run.runId = runId

/-- Nothing falls through between the connection, the discovery and the registration, or is lost
by the subscription. -/
structure Seamless : Prop where
  attached : ∀ runId, w.InFlight chatId runId ∨ w.Queued chatId runId →
    w.Discovered chatId runId ∨ w.Live chatId "chat.bloom.attached" runId
  finished : ∀ runId, w.FinishesLater chatId runId → w.Live chatId "chat.bloom.finished" runId

end Connection

/-! ## The history of a completed stream -/

theorem mem_published {chatId : Str} {actions : List BloomAction} {event : ChatBloomEvent} :
    event ∈ published chatId actions ↔ .publish chatId event ∈ actions := by
  rw [published, List.mem_filterMap]
  constructor
  · rintro ⟨action, member, found⟩
    cases action with
    | publish channel other =>
      obtain ⟨rfl, rfl⟩ : channel = chatId ∧ other = event := by simpa using found
      exact member
    | insert | setStatus => cases found
  · intro member
    exact ⟨_, member, by simp⟩

/-- The frames of the discovered runs, one each, with steps of the system before each. -/
inductive Replayed : List BoundRun → List Moment → Prop where
  | nil : Replayed [] []
  | cons (actions : List BloomAction) : event.Tells "chat.bloom.attached" run.runId →
      Replayed rest later → Replayed (run :: rest) (actions.map .acted ++ .sent event :: later)

section Histories
variable {chatId : Str} {auth : AuthContext} {w final : Connection}

theorem runs_syntheticAttachedFor {run : BoundRun} {event : ChatBloomEvent}
    (runs : Runs bloomServes (syntheticAttachedFor run) w (.ok event) final) :
    event.Tells "chat.bloom.attached" run.runId ∧ ∃ actions, final = w.act actions := by
  rw [syntheticAttachedFor] at runs
  split at runs
  · obtain ⟨same, rfl⟩ := runs_ret_iff.mp runs
    exact ⟨Except.ok.inj same ▸ ⟨rfl, rfl⟩, [], (Connection.act_nil _).symm⟩
  · obtain ⟨_, _, asked, built⟩ := runs_bind_ok_iff.mp runs
    obtain ⟨actions, _, answered⟩ := runs_await_iff.mp asked
    cases answered
    obtain ⟨same, rfl⟩ := runs_ret_iff.mp built
    exact ⟨Except.ok.inj same ▸ ⟨rfl, rfl⟩, actions, rfl⟩

theorem runs_replay {discovered : List BoundRun}
    (runs : Runs bloomServes (Prog.each (fun run => syntheticAttachedFor run >>= emitBloom) discovered)
      w (.ok ()) final) : ∃ replay, Replayed discovered replay ∧ final = w.after replay := by
  induction discovered generalizing w with
  | nil =>
    obtain ⟨_, rfl⟩ := runs_ret_iff.mp runs
    exact ⟨[], .nil, by simp [Connection.after]⟩
  | cons run rest ih =>
    obtain ⟨_, _, first, later⟩ := runs_bind_ok_iff.mp runs
    obtain ⟨_, _, built, handed⟩ := runs_bind_ok_iff.mp first
    obtain ⟨tells, before, rfl⟩ := runs_syntheticAttachedFor built
    obtain ⟨between, _, answered⟩ := runs_await_iff.mp handed
    cases answered
    obtain ⟨replay, replayed, rfl⟩ := ih later
    refine ⟨_, .cons (before ++ between) tells replayed, ?_⟩
    simp [Connection.act, Connection.mark, Connection.after]

/-- After the registration nothing comes between the frames. -/
theorem runs_forward {events : List ChatBloomEvent} (closed : .registered ∈ w.history)
    (runs : Runs bloomServes (Prog.each emitBloom events) w (.ok ()) final) :
    final = w.after (events.map .sent) := by
  induction events generalizing w with
  | nil =>
    obtain ⟨_, rfl⟩ := runs_ret_iff.mp runs
    simp [Connection.after]
  | cons event rest ih =>
    obtain ⟨_, _, handed, later⟩ := runs_bind_ok_iff.mp runs
    obtain ⟨actions, silent, answered⟩ := runs_await_iff.mp handed
    obtain rfl := silent closed
    cases answered
    rw [ih (by simp [Connection.mark, Connection.act, Connection.after, closed]) later]
    simp [Connection.mark, Connection.act, Connection.after]

theorem runs_requireChatOwnerOrAdmin {outcome : Except Exn AuthContext}
    (runs : Runs bloomServes (requireChatOwnerOrAdmin chatId auth) w outcome final) :
    ∃ actions, final = w.act actions := by
  rcases runs_bind_iff.mp runs with ⟨found, middle, head, tail⟩ | ⟨_, _, head⟩
  · obtain ⟨actions, _, answered⟩ := runs_await_iff.mp head
    cases answered
    refine ⟨actions, ?_⟩
    split at tail
    · exact (runs_raise_iff.mp tail).2
    · split_ifs at tail
      · exact (runs_raise_iff.mp tail).2
      · exact (runs_ret_iff.mp tail).2
      · exact (runs_ret_iff.mp tail).2
      · exact (runs_raise_iff.mp tail).2
  · obtain ⟨_, _, answered⟩ := runs_await_iff.mp head
    cases answered

/-- The parts of a completed stream's history. -/
structure Streamed (chatId : Str) (w : Connection) where
  early : List BloomAction
  replay : List Moment
  gap : List BloomAction
  live : List BloomAction
  delivered : List ChatBloomEvent
  replayed : Replayed (BloomRow.listed (rowsAfter w.start (early.map .acted)) chatId inFlightStatuses
    200) replay
  part : delivered.Sublist (published chatId live)
  history : w.history = early.map .acted ++ .listed :: (replay ++ gap.map .acted) ++
    .registered :: (live.map .acted ++ delivered.map .delivered ++ delivered.map .sent)

/-- A completed stream is idle, or it discovers, registers and follows. -/
theorem runs_streamChatEvents {start : List BloomRow} {hasEventStream : Bool}
    (runs : Runs bloomServes (streamChatEvents chatId auth hasEventStream) ⟨start, []⟩ (.ok ()) final) :
    (∃ actions : List BloomAction, final = ⟨start, actions.map .acted⟩) ∨
      (final.start = start ∧ Nonempty (Streamed chatId final)) := by
  obtain ⟨_, _, gate, stream⟩ := runs_bind_ok_iff.mp runs
  obtain ⟨first, rfl⟩ := runs_requireChatOwnerOrAdmin gate
  cases hasEventStream with
  | false =>
    obtain ⟨_, rfl⟩ := runs_ret_iff.mp stream
    exact .inl ⟨first, rfl⟩
  | true =>
    obtain ⟨discovered, _, query, rest⟩ := runs_bind_ok_iff.mp stream
    obtain ⟨second, _, answered⟩ := runs_await_iff.mp query
    cases answered
    obtain ⟨_, _, frames, rest⟩ := runs_bind_ok_iff.mp rest
    obtain ⟨replay, replayed, rfl⟩ := runs_replay frames
    obtain ⟨events, _, subscribed, frames⟩ := runs_bind_ok_iff.mp rest
    obtain ⟨gap, _, answered⟩ := runs_await_iff.mp subscribed
    cases answered with | follow _ live _ part =>
    have closed := runs_forward (by simp [Connection.mark, Connection.act, Connection.after]) frames
    obtain rfl := closed
    refine .inr ⟨rfl, ⟨first ++ second, replay, gap, live, events, ?_, part, ?_⟩⟩
    · simpa [Connection.rows, Connection.act, Connection.mark, Connection.after, inFlightStatuses]
        using replayed
    · simp [Connection.act, Connection.mark, Connection.after]

end Histories

/-! ## What reaches the client -/

namespace Replayed
variable {discovered : List BoundRun} {replay : List Moment}

theorem frame (replayed : Replayed discovered replay) {event : ChatBloomEvent}
    (member : .sent event ∈ replay) :
    ∃ run ∈ discovered, event.Tells "chat.bloom.attached" run.runId := by
  induction replayed with
  | nil => cases member
  | cons actions tells _ ih =>
    rcases List.mem_append.mp member with step | frame
    · simp at step
    · rcases List.mem_cons.mp frame with same | later
      · obtain rfl := Moment.sent.inj same
        exact ⟨_, List.mem_cons_self, tells⟩
      · obtain ⟨run, listed, told⟩ := ih later
        exact ⟨run, .tail _ listed, told⟩

theorem handed (replayed : Replayed discovered replay) {run : BoundRun} (member : run ∈ discovered) :
    ∃ event, event.Tells "chat.bloom.attached" run.runId ∧ .sent event ∈ replay := by
  induction replayed with
  | nil => cases member
  | cons actions tells _ ih =>
    rcases List.mem_cons.mp member with rfl | later
    · exact ⟨_, tells, by simp⟩
    · obtain ⟨event, told, sent⟩ := ih later
      exact ⟨event, told, by simp [sent]⟩

theorem unmarked (replayed : Replayed discovered replay) :
    .listed ∉ replay ∧ .registered ∉ replay ∧ ∀ event, .delivered event ∉ replay := by
  induction replayed with
  | nil => simp
  | cons actions _ _ ih => simpa using ih

end Replayed

namespace Streamed
variable {chatId : Str} {w : Connection} {kind : String} {runId : Str}

theorem live_iff (streamed : Streamed chatId w) :
    w.Live chatId kind runId ↔ ∃ event ∈ streamed.delivered, event.Tells kind runId := by
  constructor
  · rintro ⟨event, tells, ordered⟩
    have handed : .delivered event ∈ w.history := ordered.subset (by simp)
    rw [streamed.history] at handed
    exact ⟨event, by simpa [streamed.replayed.unmarked.2.2 event] using handed, tells⟩
  · rintro ⟨event, handed, tells⟩
    have behind : [.acted (.publish chatId event), .delivered event].Sublist
        (streamed.live.map Moment.acted ++ streamed.delivered.map .delivered) := by
      refine (List.singleton_sublist.mpr ?_).append (List.singleton_sublist.mpr ?_)
      · exact List.mem_map_of_mem (mem_published.mp (streamed.part.subset handed))
      · exact List.mem_map_of_mem handed
    refine ⟨event, tells, ?_⟩
    rw [streamed.history]
    exact (List.cons_sublist_cons.mpr (behind.trans (List.sublist_append_left _ _))).trans
      (List.sublist_append_right _ _)

theorem discovered_iff (streamed : Streamed chatId w) :
    w.Discovered chatId runId ↔ ∃ run ∈ BloomRow.listed
      (rowsAfter w.start (streamed.early.map .acted)) chatId inFlightStatuses 200,
        run.runId = runId := by
  have once : .listed ∉ streamed.early.map Moment.acted ∧ .listed ∉ (streamed.replay ++
      streamed.gap.map Moment.acted) ++ .registered ::
        (streamed.live.map .acted ++ streamed.delivered.map .delivered ++
          streamed.delivered.map .sent) := by
    simpa using streamed.replayed.unmarked.1
  have history := streamed.history
  rw [List.append_assoc, List.cons_append] at history
  constructor
  · rintro ⟨early, rest, split, found⟩
    obtain ⟨rfl, -⟩ := (List.append_cons_inj_of_notMem once.1 once.2).mp (history.symm.trans split)
    exact found
  · intro found
    exact ⟨_, _, history, found⟩

/-- The client gets an announcement of each discovered run and what is delivered live. -/
theorem sent_iff (streamed : Streamed chatId w) :
    w.Sent kind runId ↔ kind = "chat.bloom.attached" ∧ w.Discovered chatId runId ∨
      w.Live chatId kind runId := by
  have handed (event : ChatBloomEvent) : .sent event ∈ w.history ↔
      .sent event ∈ streamed.replay ∨ event ∈ streamed.delivered := by
    rw [streamed.history]
    simp
  rw [streamed.discovered_iff, streamed.live_iff]
  constructor
  · rintro ⟨event, tells, sent⟩
    rcases (handed event).mp sent with frame | live
    · obtain ⟨run, listed, told⟩ := streamed.replayed.frame frame
      exact .inl ⟨String.toList_inj.mp (tells.1.symm.trans told.1), run, listed,
        told.2.symm.trans tells.2⟩
    · exact .inr ⟨event, live, tells⟩
  · rintro (⟨rfl, run, listed, rfl⟩ | ⟨event, live, tells⟩)
    · obtain ⟨event, told, frame⟩ := streamed.replayed.handed listed
      exact ⟨event, told, (handed event).mpr (.inl frame)⟩
    · exact ⟨event, tells, (handed event).mpr (.inr live)⟩

end Streamed

theorem Connection.loses_nothing_of {chatId : Str} {w : Connection}
    (sent : ∀ kind runId, w.Sent kind runId ↔
      kind = "chat.bloom.attached" ∧ w.Discovered chatId runId ∨ w.Live chatId kind runId) :
    w.LosesNothing chatId ↔ w.Seamless chatId := by
  have ended (runId : Str) :
      w.Sent "chat.bloom.finished" runId ↔ w.Live chatId "chat.bloom.finished" runId :=
    (sent _ runId).trans (or_iff_right fun found => absurd found.1 (by simp))
  constructor
  · rintro ⟨announces, ends⟩
    refine ⟨fun runId due => ?_, fun runId later => (ended runId).mp (ends runId later)⟩
    exact ((sent _ runId).mp (announces runId due)).imp_left And.right
  · rintro ⟨announces, ends⟩
    refine ⟨fun runId due => ?_, fun runId later => (ended runId).mpr (ends runId later)⟩
    exact (sent _ runId).mpr ((announces runId due).imp_left fun found => ⟨rfl, found⟩)

/-- Which completed streams announce every run and every end. -/
theorem loses_nothing_iff {chatId : Str} {auth : AuthContext} {hasEventStream : Bool}
    {start : List BloomRow} {final : Connection}
    (runs : Runs bloomServes (streamChatEvents chatId auth hasEventStream) ⟨start, []⟩ (.ok ()) final) :
    final.LosesNothing chatId ↔ final.Seamless chatId := by
  rcases runs_streamChatEvents runs with ⟨actions, rfl⟩ | ⟨-, ⟨streamed⟩⟩
  · -- The idle stream hands over nothing, discovers nothing and does not subscribe.
    have unsent (event : ChatBloomEvent) : .sent event ∉ actions.map Moment.acted := by simp
    have unlisted : .listed ∉ actions.map Moment.acted := by simp
    have unregistered : .registered ∉ actions.map Moment.acted := by simp
    refine Connection.loses_nothing_of fun kind runId => iff_of_false ?_ ?_
    · rintro ⟨event, _, sent⟩
      exact unsent event sent
    · rintro (⟨_, early, rest, split, _⟩ | ⟨event, _, ordered⟩)
      · have listed : .listed ∈ early ++ .listed :: rest := by simp
        rw [← split] at listed
        exact unlisted listed
      · exact unregistered (ordered.subset List.mem_cons_self)
  · exact Connection.loses_nothing_of fun _ _ => streamed.sent_iff

/-! ## Two connections -/

def bloomChat : ChatSession := ⟨"c".toList, "t".toList, "u".toList, [], false⟩

def bloomRun : BoundRun :=
  ⟨"r".toList, "research".toList, "reviews".toList, [("chat_id".toList, .str bloomChat.id)], [],
    none, some "noon".toList⟩

def bloomEvent (kind : String) : ChatBloomEvent :=
  ⟨kind.toList, bloomChat.id, bloomRun.runId, "noon".toList, []⟩

def attachedFrame : ChatBloomEvent :=
  { bloomEvent "chat.bloom.attached" with
    payload := [("run_id".toList, .str bloomRun.runId), ("trigger_id".toList, .str bloomRun.triggerId),
      ("agent_name".toList, .str bloomRun.agentName), ("source_message_id".toList, .null),
      ("identity_mode".toList, .null), ("attached_at".toList, .str "noon".toList)] }

/-- A run in flight when its owner connects, whose end is published to the subscriber. -/
def followedRun : Connection :=
  ⟨[⟨bloomRun, .running⟩], [.listed, .sent attachedFrame, .registered,
    .acted (.setStatus bloomRun.runId .succeeded),
    .acted (.publish bloomChat.id (bloomEvent "chat.bloom.finished")),
    .delivered (bloomEvent "chat.bloom.finished"), .sent (bloomEvent "chat.bloom.finished")]⟩

/-- A run queued and announced after the discovery query and before the registration. -/
def missedRun : Connection :=
  ⟨[], [.listed, .acted (.insert 0 ⟨bloomRun, .pending⟩),
    .acted (.publish bloomChat.id (bloomEvent "chat.bloom.attached")), .registered]⟩

def bloomOwner : AuthContext := ⟨bloomChat.tenantId, bloomChat.userId, []⟩

theorem runs_gate (w : Connection) :
    Runs bloomServes (requireChatOwnerOrAdmin bloomChat.id bloomOwner) w (.ok bloomOwner) w := by
  refine runs_bind_ok_iff.mpr ⟨some bloomChat, w, runs_await_iff.mpr ⟨[], fun _ => rfl, ?_⟩, .ret⟩
  rw [Connection.act_nil]
  exact .chat w bloomChat.id (some bloomChat)

theorem followedRun_runs :
    Runs bloomServes (streamChatEvents bloomChat.id bloomOwner true) ⟨followedRun.start, []⟩ (.ok ())
      followedRun := by
  refine runs_bind_ok_iff.mpr ⟨_, _, runs_gate _, ?_⟩
  refine runs_bind_ok_iff.mpr ⟨_, _, runs_await_iff.mpr ⟨[], fun _ => rfl, .list _ _ _ _⟩, ?_⟩
  refine runs_bind_ok_iff.mpr ⟨_, _, runs_bind_ok_iff.mpr ⟨_, _, runs_bind_ok_iff.mpr ⟨_, _, .ret,
    runs_await_iff.mpr ⟨[], fun _ => rfl, .send _ attachedFrame⟩⟩, .ret⟩, ?_⟩
  refine runs_bind_ok_iff.mpr ⟨_, _, runs_await_iff.mpr ⟨[], fun _ => rfl, .follow _ _
    [.setStatus bloomRun.runId .succeeded,
      .publish bloomChat.id (bloomEvent "chat.bloom.finished")] [bloomEvent "chat.bloom.finished"]
    (.refl _)⟩, ?_⟩
  exact runs_bind_ok_iff.mpr ⟨_, _, runs_await_iff.mpr ⟨[], fun _ => rfl, .send _ _⟩, .ret⟩

theorem missedRun_runs :
    Runs bloomServes (streamChatEvents bloomChat.id bloomOwner true) ⟨missedRun.start, []⟩ (.ok ())
      missedRun := by
  refine runs_bind_ok_iff.mpr ⟨_, _, runs_gate _, ?_⟩
  refine runs_bind_ok_iff.mpr ⟨_, _, runs_await_iff.mpr ⟨[], fun _ => rfl, .list _ _ _ _⟩, ?_⟩
  refine runs_bind_ok_iff.mpr ⟨_, _, .ret, ?_⟩
  exact runs_bind_ok_iff.mpr ⟨_, _, runs_await_iff.mpr ⟨[.insert 0 ⟨bloomRun, .pending⟩,
    .publish bloomChat.id (bloomEvent "chat.bloom.attached")], by simp [Connection.mark,
      Connection.act, Connection.after], .follow _ _ [] [] .slnil⟩, .ret⟩

theorem bloomEvent_tells (kind : String) : (bloomEvent kind).Tells kind bloomRun.runId := ⟨rfl, rfl⟩

/-- The subscriber comes too late for the only announcement. -/
theorem bloom_missed :
    Runs bloomServes (streamChatEvents bloomChat.id bloomOwner true) ⟨missedRun.start, []⟩ (.ok ())
      missedRun ∧ ¬missedRun.LosesNothing bloomChat.id := by
  refine ⟨missedRun_runs, fun nothing => ?_⟩
  have queued : missedRun.Queued bloomChat.id bloomRun.runId :=
    ⟨⟨0, ⟨bloomRun, .pending⟩, by simp [missedRun], by decide, by decide, rfl⟩,
      _, bloomEvent_tells _, by simp [missedRun]⟩
  obtain ⟨event, _, sent⟩ := nothing.attached bloomRun.runId (.inr queued)
  simp [missedRun] at sent

/-- The followed run is discovered, and its end comes after the registration. -/
theorem followedRun_seamless : followedRun.Seamless bloomChat.id := by
  constructor
  · intro runId due
    have same : bloomRun.runId = runId := by
      rcases due with ⟨row, listed, _, _, same⟩ | ⟨⟨_, _, inserted, _⟩, _⟩
      · obtain rfl := List.mem_singleton.mp listed
        exact same
      · simp [followedRun] at inserted
    exact .inl ⟨[], _, rfl, bloomRun, List.mem_singleton.mpr rfl, same⟩
  · rintro _ ⟨attached, finished, announces, ends, window | ⟨handed, _⟩⟩
    · have member := window.subset (List.mem_cons_of_mem _ List.mem_cons_self)
      obtain rfl : finished = bloomEvent "chat.bloom.finished" := by simpa [followedRun] using member
      exact ⟨_, ends, .cons _ (.cons _ (.cons_cons _ (.cons _ (.cons_cons _ (.cons_cons _ (.cons _ .slnil))))))⟩
    · obtain rfl : attached = bloomEvent "chat.bloom.finished" := by simpa [followedRun] using handed
      exact absurd announces.1 (by decide)

theorem loses_nothing_iff_followed : followedRun.LosesNothing bloomChat.id :=
  (loses_nothing_iff followedRun_runs).mpr followedRun_seamless

end OrchidApi
