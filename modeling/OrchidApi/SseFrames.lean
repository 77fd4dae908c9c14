import OrchidApi.Effects
import OrchidApi.EventStream
import OrchidApi.JsonText

/-! The three writers of server-sent events and what a client reads from their output. -/
namespace OrchidApi
open Text EventStream

/-- The fields of a run's event that its stream renders; the time is its ISO text. -/
structure BloomEvent where
  type : Str
  runId : Str
  occurredAt : Str
  payload : Json.Dict

def BloomEvent.body (event : BloomEvent) : Json.Dict :=
  [("type".toList, .str event.type), ("run_id".toList, .str event.runId),
    ("occurred_at".toList, .str event.occurredAt), ("payload".toList, .obj event.payload)]

def ChatBloomEvent.body (event : ChatBloomEvent) : Json.Dict :=
  [("type".toList, .str event.type), ("chat_id".toList, .str event.chatId),
    ("run_id".toList, .str event.runId), ("occurred_at".toList, .str event.occurredAt),
    ("payload".toList, .obj event.payload)]

section Frames
variable (dumps : Json.Value → Str)

/-- `data: {json.dumps(payload)}` and an empty line. -/
def sseEvent (payload : Json.Dict) : Str :=
  "data: ".toList ++ dumps (.obj payload) ++ "\n\n".toList

def formatSse (event : BloomEvent) : Str :=
  "event: ".toList ++ event.type ++ "\ndata: ".toList ++ dumps (.obj event.body) ++ "\n\n".toList

def formatChatSse (event : ChatBloomEvent) : Str :=
  "event: ".toList ++ event.type ++ "\ndata: ".toList ++ dumps (.obj event.body) ++ "\n\n".toList

variable {dumps} (loads : Str → Option Json.Value)

/-- What the client reads: the name of each event and the value of its data. -/
def received (stream : Str) : List (Str × Option Json.Value) :=
  (parse stream).map fun event => (event.name, loads event.data)

variable {loads}

/-- What is relied on of `json.dumps` for one object. -/
structure Encodes (dumps : Json.Value → Str) (loads : Str → Option Json.Value) (body : Json.Dict) :
    Prop where
  oneLine : OneLine (dumps (.obj body))
  decodes : loads (dumps (.obj body)) = some (.obj body)

/-- Frames that are written as one named event each are read back in order. -/
theorem received_frames {α : Type} {frame : α → Str} {name : α → Option Str} {body : α → Json.Dict}
    (written : ∀ x, frame x = write (name x) (dumps (.obj (body x)))) {items : List α}
    (named : ∀ x ∈ items, ∀ n ∈ name x, OneLine n)
    (encodes : ∀ x ∈ items, Encodes dumps loads (body x)) :
    received loads (items.flatMap frame) =
      items.map fun x => ((name x).getD [], some (.obj (body x))) := by
  have stream : items.flatMap frame =
      (items.map fun x => (name x, dumps (.obj (body x)))).flatMap fun e => write e.1 e.2 := by
    rw [List.flatMap_map]
    exact congrArg (fun f => items.flatMap f) (funext written)
  have lines : ∀ event ∈ items.map fun x => (name x, dumps (.obj (body x))),
      (∀ n ∈ event.1, OneLine n) ∧ OneLine event.2 := by
    intro event member
    obtain ⟨x, inside, rfl⟩ := List.mem_map.mp member
    exact ⟨named x inside, (encodes x inside).oneLine⟩
  rw [received, stream, parse_write lines, List.map_map, List.map_map]
  refine List.map_congr_left fun x inside => ?_
  simp only [Function.comp_apply, (encodes x inside).decodes]

theorem received_named {α : Type} {frame : α → Str} {type : α → Str} {body : α → Json.Dict}
    (written : ∀ x, frame x = write (some (type x)) (dumps (.obj (body x)))) {items : List α}
    (fits : ∀ x ∈ items, OneLine (type x) ∧ Encodes dumps loads (body x)) :
    received loads (items.flatMap frame) = items.map fun x => (type x, some (.obj (body x))) := by
  have named : ∀ x ∈ items, ∀ n ∈ some (type x), OneLine n := by
    rintro x member _ ⟨⟩
    exact (fits x member).1
  exact received_frames written named fun x member => (fits x member).2

theorem sseEvent_write (payload : Json.Dict) :
    sseEvent dumps payload = write none (dumps (.obj payload)) := rfl

/-- The named frames are written alike. -/
theorem named_write (name data : Str) :
    "event: ".toList ++ name ++ "\ndata: ".toList ++ data ++ "\n\n".toList = write (some name) data := by
  have split : "\ndata: ".toList = ['\n'] ++ "data: ".toList := rfl
  simp only [split, write, Option.map_some, Option.getD_some, List.append_assoc]
  rfl

theorem formatSse_write (event : BloomEvent) :
    formatSse dumps event = write (some event.type) (dumps (.obj event.body)) := by
  unfold formatSse
  exact named_write _ _

theorem formatChatSse_write (event : ChatBloomEvent) :
    formatChatSse dumps event = write (some event.type) (dumps (.obj event.body)) := by
  unfold formatChatSse
  exact named_write _ _

variable (dumps loads)

/-- Every writer's frames are read back from the stream, whatever texts their payloads hold. -/
theorem sse_frames_unambiguous :
    (∀ payloads : List Json.Dict, (∀ payload ∈ payloads, Encodes dumps loads payload) →
      received loads (payloads.flatMap (sseEvent dumps)) =
        payloads.map fun payload => ([], some (.obj payload))) ∧
    (∀ events : List BloomEvent,
      (∀ event ∈ events, OneLine event.type ∧ Encodes dumps loads event.body) →
      received loads (events.flatMap (formatSse dumps)) =
        events.map fun event => (event.type, some (.obj event.body))) ∧
    ∀ events : List ChatBloomEvent,
      (∀ event ∈ events, OneLine event.type ∧ Encodes dumps loads event.body) →
      received loads (events.flatMap (formatChatSse dumps)) =
        events.map fun event => (event.type, some (.obj event.body)) := by
  refine ⟨fun payloads encodes => ?_, fun events fits => ?_, fun events fits => ?_⟩
  · exact @received_frames dumps loads Json.Dict (sseEvent dumps) (fun _ => none) (fun payload => payload)
      sseEvent_write payloads (fun _ _ => nofun) encodes
  · exact received_named formatSse_write fits
  · exact received_named formatChatSse_write fits

end Frames

/-! ## With the JSON texts of `Json` -/

theorem encodes_faithful (repr : Rat → Str) {body : Json.Dict} (faithful : (Json.Value.obj body).Faithful) :
    Encodes (Json.Value.dumps repr) Json.loads body where
  oneLine := by
    have printable := Json.dumps_printable repr faithful
    exact ⟨fun member => absurd (printable _ member).1 (by decide),
      fun member => absurd (printable _ member).1 (by decide)⟩
  decodes := Json.loads_dumps Json.transparent_id repr faithful fun _ => Nat.le_refl _

/-- The body of a streamed answer carries its frames. -/
theorem frames_received (repr : Rat → Str) {frames : List Frame}
    (faithful : ∀ frame ∈ frames, (Json.Value.obj frame.payload).Faithful) :
    received Json.loads (frames.flatMap fun frame => sseEvent (Json.Value.dumps repr) frame.payload) =
      frames.map fun frame => ([], some (.obj frame.payload)) :=
  @received_frames _ Json.loads Frame (fun frame => sseEvent _ frame.payload) (fun _ => none)
    Frame.payload (fun frame => sseEvent_write frame.payload) frames (fun _ _ => nofun)
    fun frame member => encodes_faithful repr (faithful frame member)

def hostileText : Str := "a\n\ndata: b\r\nevent: é".toList

def hostilePayload : Json.Dict :=
  [("type".toList, Json.text "token"), ("content".toList, .str hostileText)]

def hostileRun : BloomEvent :=
  ⟨"bloom.run.finished".toList, "r".toList, "noon".toList, hostilePayload⟩

def hostileChat : ChatBloomEvent :=
  ⟨"chat.bloom.finished".toList, hostileText, "r".toList, "noon".toList, hostilePayload⟩

theorem hostile_faithful :
    (Json.Value.obj hostilePayload).Faithful ∧ (Json.Value.obj hostileRun.body).Faithful ∧
      (Json.Value.obj hostileChat.body).Faithful := by
  have payload : (Json.Value.obj hostilePayload).Faithful := by
    refine .obj (by decide) ?_
    simp only [hostilePayload, List.forall_mem_cons]
    exact ⟨.str _, .str _, nofun⟩
  refine ⟨payload, .obj (by decide) ?_, .obj (by decide) ?_⟩
  · simp only [BloomEvent.body, List.forall_mem_cons]
    exact ⟨.str _, .str _, .str _, payload, nofun⟩
  · simp only [ChatBloomEvent.body, List.forall_mem_cons]
    exact ⟨.str _, .str _, .str _, .str _, payload, nofun⟩

theorem sse_frames_unambiguous_hostile :
    received Json.loads
        ([hostilePayload, [], hostilePayload].flatMap (sseEvent (Json.Value.dumps fun _ => []))) =
      [([], some (.obj hostilePayload)), ([], some (.obj [])), ([], some (.obj hostilePayload))] ∧
    received Json.loads ([hostileRun, hostileRun].flatMap (formatSse (Json.Value.dumps fun _ => []))) =
      [(hostileRun.type, some (.obj hostileRun.body)), (hostileRun.type, some (.obj hostileRun.body))] ∧
    received Json.loads ([hostileChat].flatMap (formatChatSse (Json.Value.dumps fun _ => []))) =
      [(hostileChat.type, some (.obj hostileChat.body))] := by
  obtain ⟨payload, run, chat⟩ := hostile_faithful
  have unambiguous := sse_frames_unambiguous (Json.Value.dumps fun _ => []) Json.loads
  refine ⟨unambiguous.1 _ ?_, unambiguous.2.1 _ ?_, unambiguous.2.2 _ ?_⟩
  · simp only [List.forall_mem_cons]
    exact ⟨encodes_faithful _ payload, encodes_faithful _ (.obj (by decide) nofun),
      encodes_faithful _ payload, nofun⟩
  · simp only [List.forall_mem_cons]
    exact ⟨⟨by decide, encodes_faithful _ run⟩, ⟨by decide, encodes_faithful _ run⟩, nofun⟩
  · simp only [List.forall_mem_cons]
    exact ⟨⟨by decide, encodes_faithful _ chat⟩, nofun⟩

end OrchidApi
