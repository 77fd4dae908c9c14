import OrchidApi.Helpers

/-! A chat storage that keeps its documented behaviour in memory, and the server that
answers a handler's calls from it. Everything but the storage is supplied by `Backend`. -/
namespace OrchidApi
open Text Async

structure MemoryStore where
  sessions : List ChatSession := []
  messages : List (Str × Row) := []
  issued : Nat := 0
  deriving DecidableEq, Repr

namespace MemoryStore

def session (store : MemoryStore) (id : Str) : Option ChatSession :=
  store.sessions.find? (·.id = id)

def rows (store : MemoryStore) (id : Str) : List Row :=
  (store.messages.filter (·.1 = id)).map Prod.snd

def title (store : MemoryStore) (id : Str) : Option Str := (store.session id).map ChatSession.title

def modify (store : MemoryStore) (id : Str) (change : ChatSession → ChatSession) : MemoryStore :=
  { store with sessions := store.sessions.map fun s => if s.id = id then change s else s }

def freshId (store : MemoryStore) : Str := "chat-".toList ++ Nat.toDigits 10 store.issued

def create (store : MemoryStore) (tenant user title : Str) : MemoryStore × ChatSession :=
  let chat : ChatSession := ⟨store.freshId, tenant, user, title, false⟩
  ({ store with sessions := store.sessions ++ [chat], issued := store.issued + 1 }, chat)

def delete (store : MemoryStore) (id : Str) : MemoryStore :=
  { store with
    sessions := store.sessions.filter (·.id ≠ id)
    messages := store.messages.filter (·.1 ≠ id) }

def addMessage (store : MemoryStore) (id : Str) (row : Row) : MemoryStore :=
  { store with messages := store.messages ++ [(id, row)] }

def updateTitle (store : MemoryStore) (id title : Str) : MemoryStore :=
  store.modify id fun s => { s with title }

def markShared (store : MemoryStore) (id : Str) : MemoryStore :=
  store.modify id fun s => { s with isShared := true }

def list (store : MemoryStore) (tenant user : Str) : List ChatSession :=
  store.sessions.filter fun s => s.tenantId = tenant ∧ s.userId = user

def page (store : MemoryStore) (id : Str) (limit offset : Nat) : List Row :=
  ((store.rows id).drop offset).take limit

@[simp] theorem rows_addMessage (store : MemoryStore) (id other : Str) (row : Row) :
    (store.addMessage id row).rows other = store.rows other ++ if id = other then [row] else [] := by
  by_cases same : id = other <;> simp [rows, addMessage, same]

@[simp] theorem session_addMessage (store : MemoryStore) (id other : Str) (row : Row) :
    (store.addMessage id row).session other = store.session other := rfl

@[simp] theorem title_addMessage (store : MemoryStore) (id other : Str) (row : Row) :
    (store.addMessage id row).title other = store.title other := rfl

@[simp] theorem rows_modify (store : MemoryStore) (id other : Str) (change) :
    (store.modify id change).rows other = store.rows other := rfl

theorem session_modify (store : MemoryStore) (id other : Str) (change : ChatSession → ChatSession)
    (keeps : ∀ s, (change s).id = s.id) :
    (store.modify id change).session other =
      (store.session other).map fun s => if s.id = id then change s else s := by
  have key : ((fun s : ChatSession => decide (s.id = other)) ∘
      fun s => if s.id = id then change s else s) = fun s => decide (s.id = other) := by
    funext s
    simp only [Function.comp_apply]
    split <;> simp [keeps]
  simp only [session, modify, List.find?_map, key]

theorem session_id (store : MemoryStore) (id : Str) (chat : ChatSession)
    (found : store.session id = some chat) : chat.id = id := by
  simpa using List.find?_some found

@[simp] theorem rows_updateTitle (store : MemoryStore) (id title other : Str) :
    (store.updateTitle id title).rows other = store.rows other := rfl

@[simp] theorem session_updateTitle (store : MemoryStore) (id title : Str) :
    (store.updateTitle id title).session id = (store.session id).map fun s => { s with title } := by
  rw [updateTitle, session_modify store id id (fun s => { s with title }) fun _ => rfl]
  cases found : store.session id with
  | none => rfl
  | some chat => simp [store.session_id id chat found]

@[simp] theorem title_updateTitle (store : MemoryStore) (id title : Str) :
    (store.updateTitle id title).title id = (store.title id).map fun _ => title := by
  simp only [MemoryStore.title, session_updateTitle, Option.map_map]
  rfl

theorem page_isEmpty (store : MemoryStore) (id : Str) (limit : Nat) (positive : 0 < limit) :
    (store.page id limit 0).isEmpty = (store.rows id).isEmpty := by
  cases limit with
  | zero => omega
  | succ n => cases h : store.rows id <;> simp [page, h]

end MemoryStore

/-! ## The server -/

/-- What lies outside the storage during one request. An absent result raises. -/
structure Backend where
  run : GraphRun := ⟨[], none⟩
  resumed : Except Exn Values := .ok {}
  token : Str → Str → Str → Option Token := fun _ _ _ => none
  extract : UploadFile → Option Str := fun _ => none
  ingest : Ingestion → Option Nat := fun _ => none
  promote : Promotion → Option Nat := fun _ => none
  boundRuns : List BoundRun := []
  live : List ChatBloomEvent := []
  clock : Str := []

/-- The storage together with the frames the client has been sent. -/
structure World where
  store : MemoryStore
  frames : List Frame := []

def orRaise (result : Option α) : Except Exn α :=
  match result with
  | some value => .ok value
  | none => .error .other

def server (b : Backend) : Server Api World := fun c w =>
  match c with
  | .getChat id => (.ok (w.store.session id), w)
  | .listChats tenant user => (.ok (w.store.list tenant user), w)
  | .createChat tenant user title =>
    (.ok (w.store.create tenant user title).2, { w with store := (w.store.create tenant user title).1 })
  | .deleteChat id => (.ok (), { w with store := w.store.delete id })
  | .getMessages id limit offset => (.ok (w.store.page id limit offset), w)
  | .addMessage id row => (.ok (), { w with store := w.store.addMessage id row })
  | .updateTitle id title => (.ok (), { w with store := w.store.updateTitle id title })
  | .markShared id => (.ok (), { w with store := w.store.markShared id })
  | .astream _ _ => (.ok b.run, w)
  | .ainvoke _ _ => (b.resumed, w)
  | .getToken tenant user name => (.ok (b.token tenant user name), w)
  | .extractText file _ => (orRaise (b.extract file), w)
  | .ingestDocument document => (orRaise (b.ingest document), w)
  | .promoteScope promotion => (orRaise (b.promote promotion), w)
  | .emit frame => (.ok (), { w with frames := w.frames ++ [frame] })
  | .listBoundRuns _ _ _ => (.ok b.boundRuns, w)
  | .subscribe _ => (.ok b.live, w)
  | .emitBloom _ => (.ok (), w)
  | .now => (.ok b.clock, w)

/-- Run a handler against the in-memory storage. -/
def serve (b : Backend) (p : Handler α) (w : World) : Except Exn α × World := p.exec (server b) w

section Serve
variable {b : Backend} {w : World}

@[simp] theorem serve_pure (value : α) : serve b (pure value) w = (.ok value, w) := rfl
@[simp] theorem serve_raise (error : Exn) :
    serve b (raise error : Handler α) w = (.error error, w) := rfl

theorem serve_bind_ok {p : Handler α} {f : α → Handler β} {v : World} {value : α}
    (first : serve b p w = (.ok value, v)) : serve b (p >>= f) w = serve b (f value) v :=
  Prog.exec_bind_ok first

theorem serve_bind_error {p : Handler α} {f : α → Handler β} {v : World} {error : Exn}
    (first : serve b p w = (.error error, v)) : serve b (p >>= f) w = (.error error, v) :=
  Prog.exec_bind_error first

theorem serve_attempt (p : Handler α) (k : Except Exn α → Handler β) :
    serve b (p.attempt k) w = serve b (k (serve b p w).1) (serve b p w).2 :=
  Prog.exec_attempt _ _ _ _

theorem serve_await (c : Call) : serve b (await c) w = server b c w :=
  Prog.exec_await ..

theorem serve_suppress {p : Handler Unit} {v : World} (first : serve b p w = (.ok (), v)) :
    serve b (suppress p) w = (.ok (), v) := by
  rw [suppress, serve_attempt, first]; rfl

end Serve

def World.addRows (w : World) (id : Str) (rows : List Row) : World :=
  rows.foldl (fun v row => { v with store := v.store.addMessage id row }) w

def World.send (w : World) (frames : List Frame) : World := { w with frames := w.frames ++ frames }

def World.retitle (w : World) (id title : Str) : World :=
  { w with store := w.store.updateTitle id title }

/-- What the request adds to the client's frames and to the chat. -/
def sentSince (w final : World) : List Frame := final.frames.drop w.frames.length

def storedSince (chatId : Str) (w final : World) : List Row :=
  (final.store.rows chatId).drop (w.store.rows chatId).length

@[simp] theorem addRows_frames (w : World) (id : Str) (rows : List Row) :
    (w.addRows id rows).frames = w.frames := by
  induction rows generalizing w with
  | nil => rfl
  | cons row rest ih => exact ih _

@[simp] theorem addRows_rows (w : World) (id : Str) (rows : List Row) :
    (w.addRows id rows).store.rows id = w.store.rows id ++ rows := by
  induction rows generalizing w with
  | nil => simp [World.addRows]
  | cons row rest ih => exact (ih _).trans (by simp)

@[simp] theorem addRows_session (w : World) (id other : Str) (rows : List Row) :
    (w.addRows id rows).store.session other = w.store.session other := by
  induction rows generalizing w with
  | nil => rfl
  | cons row rest ih => exact ih _

@[simp] theorem addRows_title (w : World) (id other : Str) (rows : List Row) :
    (w.addRows id rows).store.title other = w.store.title other := by
  simp [MemoryStore.title]

@[simp] theorem send_store (w : World) (frames : List Frame) : (w.send frames).store = w.store := rfl
@[simp] theorem send_frames (w : World) (frames : List Frame) :
    (w.send frames).frames = w.frames ++ frames := rfl
@[simp] theorem send_send (w : World) (first second : List Frame) :
    (w.send first).send second = w.send (first ++ second) := by simp [World.send]
@[simp] theorem send_nil (w : World) : w.send [] = w := by simp [World.send]

section Serve
variable {b : Backend} {w : World}

theorem serve_getChat (id : Str) :
    serve b (ChatRepo.getChat id) w = (.ok (w.store.session id), w) := serve_await (.getChat id)
theorem serve_getMessages (id : Str) (limit offset : Nat) :
    serve b (ChatRepo.getMessages id limit offset) w = (.ok (w.store.page id limit offset), w) :=
  serve_await (.getMessages id limit offset)
theorem serve_addMessage (id : Str) (row : Row) :
    serve b (ChatRepo.addMessage id row) w = (.ok (), w.addRows id [row]) :=
  serve_await (.addMessage id row)
theorem serve_updateTitle (id title : Str) :
    serve b (ChatRepo.updateTitle id title) w = (.ok (), w.retitle id title) :=
  serve_await (.updateTitle id title)
theorem serve_astream (thread : Str) (state : InitialState) :
    serve b (astream thread state) w = (.ok b.run, w) := serve_await (.astream thread state)
theorem serve_ainvoke (thread : Str) (approved : Bool) :
    serve b (ainvoke thread approved) w = (b.resumed, w) := serve_await (.ainvoke thread approved)
theorem serve_getToken (tenant user name : Str) :
    serve b (getToken tenant user name) w = (.ok (b.token tenant user name), w) :=
  serve_await (.getToken tenant user name)
theorem serve_extractText (file : UploadFile) (filename : Str) :
    serve b (extractText file filename) w = (orRaise (b.extract file), w) :=
  serve_await (.extractText file filename)
theorem serve_ingestDocument (document : Ingestion) :
    serve b (ingestDocument document) w = (orRaise (b.ingest document), w) :=
  serve_await (.ingestDocument document)
theorem serve_emit (f : Frame) : serve b (emit f) w = (.ok (), w.send [f]) := serve_await (.emit f)

theorem serve_addMessages (id : Str) (rows : List Row) :
    serve b (Prog.each (ChatRepo.addMessage id) rows) w = (.ok (), w.addRows id rows) :=
  Prog.exec_each (fun row v => serve_addMessage (b := b) (w := v) id row) rows w

theorem serve_emits (frames : List Frame) :
    serve b (Prog.each emit frames) w = (.ok (), w.send frames) := by
  refine (Prog.exec_each (fun f v => serve_emit (b := b) (w := v) f) frames w).trans ?_
  congr 1
  induction frames generalizing w with
  | nil => simp
  | cons f rest ih => exact ih.trans (send_send w [f] rest)

end Serve
end OrchidApi
