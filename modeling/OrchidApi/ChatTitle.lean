import OrchidApi.LabelledLog
import OrchidApi.Transcript
import OrchidApi.Uploads

/-! The title of a chat over whole conversations: messages, resumes and uploads, one after the
other, and exactly when the first stored message gives the chat its title. -/
namespace OrchidApi
open Text LabelledLog

/-! ## Requests -/

/-- One upload with its identity and what it meets outside the storage. -/
structure UploadRequest where
  files : List UploadFile
  auth : AuthContext
  settings : Settings := {}
  runtime : Runtime := {}
  backend : Backend := {}

inductive ChatRequest where
  | exchange (x : Exchange)
  | upload (u : UploadRequest)

namespace ChatRequest

def after (chatId : Str) (w : World) : ChatRequest → World
  | .exchange x => x.after chatId w
  | .upload u => (serve u.backend (uploadDocuments chatId u.files u.auth u.settings u.runtime) w).2

/-- The message that the owner's request stores. -/
def question (chat : ChatSession) (stored : List Row) : ChatRequest → Option Str
  | .exchange x => x.question chat stored
  | .upload _ => none

/-- Whether a request that stores its message titles a chat without rows. -/
def titles : ChatRequest → Bool
  | .exchange x => x.titles
  | .upload _ => false

def ingests (chatId : Str) (u : UploadRequest) (file : UploadFile) : Bool :=
  match uploadedAs u.settings file with
  | some safeName => (u.backend.ingest (uploadOf chatId u.auth u.settings file safeName)).isSome
  | none => false

/-- The rows that the request adds to the chat. -/
def rows (chatId : Str) (chat : ChatSession) (stored : List Row) : ChatRequest → List Row
  | .exchange x => x.rows chat stored
  | .upload u =>
    if chat.OwnedBy u.auth ∧ u.runtime.reader.isWriter = true then
      u.files.flatMap (uploadRows chatId u.auth u.settings u.backend)
    else []

/-- Whether the request stores anything in a chat without rows: a message, the answer of a resume,
or the row of an ingested file. -/
def stores (chatId : Str) (chat : ChatSession) : ChatRequest → Bool
  | .exchange x =>
    if chat.OwnedBy x.auth then
      match x.request with
      | .send _ _ => Exchange.sendStores x.backend.run
      | .stream _ _ => decide (Caught x.backend.run.ending)
      | .resume _ => x.runtime.hasCheckpointer && x.backend.resumed.toOption.isSome
    else false
  | .upload u => chat.OwnedBy u.auth && u.runtime.reader.isWriter && u.files.any (ingests chatId u)

end ChatRequest

def afterAll (chatId : Str) (w : World) (rs : List ChatRequest) : World :=
  rs.foldl (ChatRequest.after chatId) w

/-- The rows of the requests, each of which finds those of the ones before it. -/
def storedBy (chatId : Str) (chat : ChatSession) (rs : List ChatRequest) : List Row :=
  rs.foldl (fun stored r => stored ++ r.rows chatId chat stored) []

/-- As soon as a request has stored the chat's first message, the title is that of this
message, and it stays. -/
def TitleLaw (chatId : Str) (w : World) (rs : List ChatRequest) : Prop :=
  ∀ done, done <+: rs → ∀ row message,
    ((afterAll chatId w done).store.rows chatId).find? (fun row => row.role = .user) = some row →
      row.content = some message → (afterAll chatId w done).store.title chatId = some (titleOf message)

/-- The first request that stores its message finds the chat without rows and titles it, or the
chat was created with that very title. -/
def TitledInTime (chatId : Str) (chat : ChatSession) (rs : List ChatRequest) : Prop :=
  ∀ before r after, rs = before ++ r :: after →
    (∀ row ∈ storedBy chatId chat before, row.role ≠ .user) →
    ∀ message, r.question chat (storedBy chatId chat before) = some message →
      ((∀ e ∈ before, e.stores chatId chat = false) ∧ r.titles = true) ∨ chat.title = titleOf message

/-! ## One request -/

/-- The rows, with the title that the request has for a chat without rows. -/
def ChatRequest.move (chatId : Str) (chat : ChatSession) (stored : List Row) (r : ChatRequest) :
    Move Row Str :=
  ⟨r.rows chatId chat stored, if r.titles then (r.question chat stored).map titleOf else none⟩

/-- The moves of the requests, each of which finds the rows of the ones before it. -/
def titleMoves (chatId : Str) (chat : ChatSession) (rs : List ChatRequest) : List (Move Row Str) :=
  rs.foldl (fun done r => done ++ [r.move chatId chat (done.flatMap Move.rows)]) []

def isQuestion (row : Row) : Bool := row.role = .user

def titleFor (row : Row) : Str := titleOf (row.content.getD [])

section Request
variable {chatId : Str} {chat : ChatSession} {w : World} {r : ChatRequest} {stored : List Row}

theorem find_sendRows (message : Str) (run : GraphRun) :
    (sendRows message run).find? isQuestion =
      if Exchange.sendStores run then some { role := .user, content := some message } else none := by
  unfold sendRows Exchange.sendStores
  cases run.ending with
  | none => rfl
  | some error => cases error <;> rfl

/-- The first message among the rows of a request is its own. -/
theorem find_rows : (r.rows chatId chat stored).find? isQuestion =
    (r.question chat stored).map fun message => { role := .user, content := some message } := by
  cases r with
  | exchange x =>
    simp only [ChatRequest.rows, ChatRequest.question, Exchange.rows, Exchange.question]
    split
    · cases x.request with
      | send message files =>
        dsimp only
        rw [find_sendRows]
        split <;> rfl
      | stream message files =>
        dsimp only
        split <;> rfl
      | resume approved =>
        simp only [resumeRows]
        cases x.backend.resumed with
        | ok result => dsimp only; split <;> rfl
        | error error => rfl
    · rfl
  | upload u =>
    simp only [ChatRequest.rows, ChatRequest.question, Option.map_none, List.find?_eq_none]
    split
    · intro row member
      obtain ⟨file, -, member⟩ := List.mem_flatMap.mp member
      unfold uploadRows at member
      split at member
      · obtain ⟨chunks, -, rfl⟩ := Option.map_eq_some_iff.mp (Option.mem_toList.mp member)
        simp [isQuestion, uploadedRow]
      · simp at member
    · simp

/-- In a chat without rows a request adds rows if it stores anything. -/
theorem rows_eq_nil_iff : r.rows chatId chat [] = [] ↔ r.stores chatId chat = false := by
  cases r with
  | exchange x =>
    have proceeds : x.Proceeds chat [] ↔ chat.OwnedBy x.auth := and_iff_left fun _ _ member => nomatch member
    simp only [ChatRequest.rows, ChatRequest.stores, Exchange.rows, proceeds]
    split
    · cases x.request with
      | send message files =>
        simp only [sendRows, Exchange.sendStores]
        cases x.backend.run.ending with
        | none => simp
        | some error => cases error <;> simp [Exn.isException]
      | stream message files =>
        dsimp only
        split <;> simp_all [streamedRows]
      | resume approved =>
        simp only [resumeRows]
        cases x.backend.resumed with
        | ok result => cases x.runtime.hasCheckpointer <;> simp [Except.toOption]
        | error error => simp [Except.toOption]
    · simp
  | upload u =>
    by_cases own : chat.OwnedBy u.auth
    · cases writer : u.runtime.reader.isWriter with
      | false => simp [ChatRequest.rows, ChatRequest.stores, writer]
      | true =>
        simp only [ChatRequest.rows, ChatRequest.stores, own, writer, and_self, ↓reduceIte, decide_true,
          Bool.true_and, List.flatMap_eq_nil_iff, List.any_eq_false]
        refine forall₂_congr fun file _ => ?_
        unfold uploadRows ChatRequest.ingests
        cases uploadedAs u.settings file with
        | none => simp
        | some safeName => cases u.backend.ingest (uploadOf chatId u.auth u.settings file safeName) <;> simp
    · simp [ChatRequest.rows, ChatRequest.stores, own]

theorem titleMove_lawful : (r.move chatId chat stored).Lawful isQuestion titleFor := by
  intro label labelled
  simp only [ChatRequest.move] at labelled ⊢
  split at labelled
  · obtain ⟨message, asked, rfl⟩ := Option.map_eq_some_iff.mp labelled
    exact ⟨{ role := .user, content := some message }, by rw [find_rows, asked]; rfl, rfl⟩
  · cases labelled

theorem title_settle {title : Str} (titled : w.store.title chatId = some title) (sent : List Frame)
    (move : Move Row Str) :
    (w.settle chatId sent move.rows move.label).store.title chatId =
      some ((Log.mk (w.store.rows chatId) title).play move).label := by
  unfold World.settle Log.play
  cases move.label with
  | none => simp [titled]
  | some label =>
    dsimp only
    split <;> simp [World.retitle, titled]

/-- A request plays its move: it adds its rows, and titles a chat without rows. -/
theorem request_settles (held : Held chatId chat w) : ∃ sent, r.after chatId w =
    w.settle chatId sent (r.move chatId chat (w.store.rows chatId)).rows
      (r.move chatId chat (w.store.rows chatId)).label := by
  cases r with
  | exchange x => exact after_settles held
  | upload u =>
    refine ⟨[], ?_⟩
    simp only [ChatRequest.after, World.settle, ChatRequest.move, ChatRequest.titles, ChatRequest.rows,
      Bool.false_eq_true, ↓reduceIte, send_nil]
    by_cases allowed : chat.OwnedBy u.auth ∧ u.runtime.reader.isWriter = true
    · obtain ⟨current, found, owner⟩ := held
      rw [if_pos allowed]
      exact (uploadDocuments_owned u.files found ((owner _).mpr allowed.1) allowed.2).1
    · rw [if_neg allowed]
      refine (uploadDocuments_refused u.files ?_).1
      by_cases own : chat.OwnedBy u.auth
      · exact .inl (by simpa [own] using allowed)
      · exact .inr (held_foreign held own)

end Request

/-! ## The whole conversation -/

section Conversation
variable {chatId : Str} {chat : ChatSession} {w : World}

theorem titleMoves_concat (rs : List ChatRequest) (r : ChatRequest) :
    titleMoves chatId chat (rs ++ [r]) = titleMoves chatId chat rs ++
      [r.move chatId chat ((titleMoves chatId chat rs).flatMap Move.rows)] := by
  simp [titleMoves]

theorem storedBy_concat (rs : List ChatRequest) (r : ChatRequest) :
    storedBy chatId chat (rs ++ [r]) =
      storedBy chatId chat rs ++ r.rows chatId chat (storedBy chatId chat rs) := by
  simp [storedBy]

theorem rows_titleMoves (rs : List ChatRequest) :
    (titleMoves chatId chat rs).flatMap Move.rows = storedBy chatId chat rs := by
  induction rs using List.reverseRecOn with
  | nil => rfl
  | append_singleton rs r ih =>
    rw [titleMoves_concat, List.flatMap_append, ih, storedBy_concat, List.flatMap_singleton]
    rfl

theorem prefix_titleMoves_iff {rs : List ChatRequest} {done : List (Move Row Str)} :
    done <+: titleMoves chatId chat rs ↔ ∃ early, early <+: rs ∧ titleMoves chatId chat early = done := by
  induction rs using List.reverseRecOn with
  | nil => simp [titleMoves, eq_comm]
  | append_singleton rs r ih =>
    rw [titleMoves_concat, List.prefix_concat_iff, ih, ← titleMoves_concat]
    constructor
    · rintro (rfl | ⟨early, inside, rfl⟩)
      · exact ⟨_, List.prefix_rfl, rfl⟩
      · exact ⟨early, inside.trans (List.prefix_append _ _), rfl⟩
    · rintro ⟨early, inside, rfl⟩
      rcases List.prefix_concat_iff.mp inside with rfl | inside
      · exact .inl rfl
      · exact .inr ⟨early, inside, rfl⟩

theorem titleMoves_lawful (rs : List ChatRequest) :
    ∀ move ∈ titleMoves chatId chat rs, move.Lawful isQuestion titleFor := by
  induction rs using List.reverseRecOn with
  | nil => nofun
  | append_singleton rs r ih =>
    intro move member
    rw [titleMoves_concat] at member
    rcases List.mem_append.mp member with earlier | last
    · exact ih move earlier
    · obtain rfl := List.mem_singleton.mp last
      exact titleMove_lawful

/-- The conversation simulates the moves of its requests. -/
theorem afterAll_simulates (found : w.store.session chatId = some chat)
    (fresh : w.store.rows chatId = []) (rs : List ChatRequest) :
    Held chatId chat (afterAll chatId w rs) ∧
      (afterAll chatId w rs).store.rows chatId =
        ((Log.mk [] chat.title).playAll (titleMoves chatId chat rs)).rows ∧
      (afterAll chatId w rs).store.title chatId =
        some ((Log.mk [] chat.title).playAll (titleMoves chatId chat rs)).label := by
  induction rs using List.reverseRecOn with
  | nil =>
    exact ⟨⟨chat, found, fun _ => Iff.rfl⟩, fresh,
      by simp [afterAll, titleMoves, Log.playAll, MemoryStore.title, found]⟩
  | append_singleton rs r ih =>
    obtain ⟨held, rows, title⟩ := ih
    obtain ⟨sent, settles⟩ := request_settles (r := r) held
    have last : afterAll chatId w (rs ++ [r]) = r.after chatId (afterAll chatId w rs) := by
      simp [afterAll]
    have stored : (afterAll chatId w rs).store.rows chatId =
        (titleMoves chatId chat rs).flatMap Move.rows := rows.trans (Log.rows_playAll _ _)
    rw [last, settles, titleMoves_concat, Log.playAll_append, rows_settle, title_settle title, ← stored,
      rows]
    exact ⟨held_settle held _ _ _, rfl, rfl⟩

/-- Every stored message has its text. -/
theorem question_content (rs : List ChatRequest) {row : Row}
    (first : ((Log.mk [] chat.title).playAll (titleMoves chatId chat rs)).rows.find? isQuestion =
      some row) : ∃ message, row.content = some message := by
  rw [Log.rows_playAll, List.nil_append] at first
  induction rs using List.reverseRecOn with
  | nil => cases first
  | append_singleton rs r ih =>
    rw [titleMoves_concat, List.flatMap_append, List.find?_append, Option.or_eq_some_iff] at first
    rcases first with earlier | ⟨_, own⟩
    · exact ih earlier
    · rw [List.flatMap_singleton, ChatRequest.move, find_rows] at own
      obtain ⟨message, _, rfl⟩ := Option.map_eq_some_iff.mp own
      exact ⟨message, rfl⟩

theorem titleLaw_iff_labelled (found : w.store.session chatId = some chat)
    (fresh : w.store.rows chatId = []) (rs : List ChatRequest) :
    TitleLaw chatId w rs ↔ Labelled isQuestion titleFor chat.title (titleMoves chatId chat rs) := by
  have simulates := afterAll_simulates found fresh
  constructor
  · intro law done inside row first
    obtain ⟨requests, prefixes, rfl⟩ := prefix_titleMoves_iff.mp inside
    obtain ⟨-, rows, title⟩ := simulates requests
    obtain ⟨message, content⟩ := question_content requests first
    have titled := law requests prefixes row message (by rw [rows]; exact first) content
    rw [title] at titled
    rw [Option.some.inj titled, titleFor, content]
    rfl
  · intro labelled requests prefixes row message first content
    obtain ⟨-, rows, title⟩ := simulates requests
    rw [rows] at first
    rw [title, labelled _ (prefix_titleMoves_iff.mpr ⟨requests, prefixes, rfl⟩) row first, titleFor,
      content]
    rfl

theorem silent_iff (before : List ChatRequest) :
    (∀ move ∈ titleMoves chatId chat before, move.rows.find? isQuestion = none) ↔
      ∀ row ∈ storedBy chatId chat before, row.role ≠ .user := by
  simp [← rows_titleMoves, isQuestion, List.mem_flatMap]
  tauto

/-- As long as no request stores anything, each of them finds the chat without rows. -/
theorem empty_iff (before : List ChatRequest) :
    (∀ move ∈ titleMoves chatId chat before, move.rows = []) ↔
      ∀ e ∈ before, e.stores chatId chat = false := by
  rw [← List.flatMap_eq_nil_iff, rows_titleMoves]
  induction before using List.reverseRecOn with
  | nil => simp [storedBy]
  | append_singleton before r ih =>
    rw [storedBy_concat, List.append_eq_nil_iff, ih, List.forall_mem_append, List.forall_mem_singleton]
    refine and_congr_right fun nothing => ?_
    rw [ih.mpr nothing, rows_eq_nil_iff]

/-- Both sides say the same of each place in the conversation. -/
theorem inTime_iff (before : List ChatRequest) (r : ChatRequest) {message : Str}
    (asked : r.question chat (storedBy chatId chat before) = some message) :
    (((∀ move ∈ titleMoves chatId chat before, move.rows = []) ∧
        (r.move chatId chat (storedBy chatId chat before)).label.isSome = true) ∨
        chat.title = titleFor { role := .user, content := some message }) ↔
      ((∀ e ∈ before, e.stores chatId chat = false) ∧ r.titles = true) ∨ chat.title = titleOf message := by
  have labelled : (r.move chatId chat (storedBy chatId chat before)).label.isSome = r.titles := by
    rw [ChatRequest.move, asked]
    cases r.titles <;> rfl
  rw [labelled, empty_iff]
  rfl

theorem titledInTime_iff_inTime (rs : List ChatRequest) :
    TitledInTime chatId chat rs ↔
      LabelledInTime isQuestion titleFor chat.title (titleMoves chatId chat rs) := by
  induction rs using List.reverseRecOn with
  | nil =>
    refine iff_of_true (fun _ _ _ split => ?_) fun _ _ _ split => ?_
    · simp at split
    · simp [titleMoves] at split
  | append_singleton rs r ih =>
    rw [titleMoves_concat, rows_titleMoves]
    refine (Transducer.forall_place_concat rs r).trans
      (Iff.trans ?_ (Transducer.forall_place_concat (titleMoves chatId chat rs) _).symm)
    refine and_congr ih ?_
    rw [← silent_iff]
    refine imp_congr_right fun silent => ?_
    rw [ChatRequest.move, find_rows]
    constructor
    · intro inTime q asks
      obtain ⟨message, asked, rfl⟩ := Option.map_eq_some_iff.mp asks
      exact (inTime_iff rs r asked).mpr (inTime message asked)
    · intro inTime message asked
      exact (inTime_iff rs r asked).mp (inTime _ (by rw [asked]; rfl))

/-- The first message titles the chat, if and only if the request that stores it comes before
any upload or resume that stores something and is not a plain send whose run fails. -/
theorem title_law_iff (found : w.store.session chatId = some chat) (fresh : w.store.rows chatId = [])
    (rs : List ChatRequest) : TitleLaw chatId w rs ↔ TitledInTime chatId chat rs := by
  rw [titleLaw_iff_labelled found fresh, titledInTime_iff_inTime]
  exact labelled_iff_inTime (titleMoves_lawful rs)

end Conversation

/-- A plain send whose run fails, and a streamed one that does not. -/
def failsFirst : List ChatRequest := [
  .exchange { request := .send "Order two pizzas".toList [], auth := sampleAuth,
              backend := { run := ⟨[], some .other⟩ } },
  .exchange { request := .stream "Try again".toList [], auth := sampleAuth }]

theorem title_law_iff_failing :
    TitleLaw "c".toList sampleWorld failsFirst ↔ TitledInTime "c".toList sampleChat failsFirst :=
  title_law_iff rfl rfl failsFirst

/-- A message after the upload of a file. -/
def uploadFirst : List ChatRequest := [
  .upload { files := [⟨some "menu.txt".toList, none, []⟩], auth := sampleAuth,
            backend := { ingest := fun _ => some 1 } },
  .exchange { request := .stream "Order two pizzas".toList [], auth := sampleAuth }]

/-- The error path stores the message without titling the chat, and the next one finds a row;
the row of an upload does the same. -/
theorem never_titled :
    ((afterAll "c".toList sampleWorld failsFirst).store.rows "c".toList).find?
        (fun row => row.role = .user) =
      some { role := .user, content := some "Order two pizzas".toList } ∧
    (afterAll "c".toList sampleWorld failsFirst).store.title "c".toList = some "New chat".toList ∧
    (afterAll "c".toList sampleWorld uploadFirst).store.title "c".toList = some "New chat".toList ∧
    ¬TitleLaw "c".toList sampleWorld failsFirst := by
  have first : ((afterAll "c".toList sampleWorld failsFirst).store.rows "c".toList).find?
      (fun row => row.role = .user) =
        some { role := .user, content := some "Order two pizzas".toList } := by decide +kernel
  have title : (afterAll "c".toList sampleWorld failsFirst).store.title "c".toList =
      some "New chat".toList := by decide +kernel
  refine ⟨first, title, by decide +kernel, fun law => ?_⟩
  have titled := law failsFirst List.prefix_rfl _ _ first rfl
  rw [title] at titled
  exact absurd titled (by decide +kernel)

end OrchidApi
