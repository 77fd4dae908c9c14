import OrchidApi.Uploads

/-! Which files reach the vector store through the message endpoints and the upload endpoint,
and for which files these agree with the check that only the upload makes. -/
namespace OrchidApi
open Text

inductive FileRoute where
  | send (message : Str)
  | stream (message : Str)
  | upload

/-- What a request with files meets, apart from the files and the route. -/
structure FileRequest where
  chatId : Str
  auth : AuthContext
  settings : Settings := {}
  runtime : Runtime := {}
  backend : Backend := {}
  world : World

def Call.document? : Call → Option Ingestion
  | .ingestDocument document => some document
  | _ => none

theorem namedFile_eq_some_iff {settings : Settings} {file : UploadFile} {filename : Str} :
    namedFile settings file = some filename ↔ file.filename = some filename ∧ filename ≠ [] ∧
      file.bytes.length ≤ settings.uploadMaxSizeMb * 1024 * 1024 := by
  unfold namedFile tooLarge
  cases file.filename with
  | none => simp
  | some name =>
    simp only [Option.ite_none_left_eq_some, Bool.or_eq_true, List.isEmpty_iff, decide_eq_true_eq, not_or,
      not_lt, Option.some.injEq]
    constructor
    · rintro ⟨⟨named, small⟩, rfl⟩
      exact ⟨rfl, named, small⟩
    · rintro ⟨rfl, named, small⟩
      exact ⟨⟨named, small⟩, rfl⟩

theorem uploadedAs_eq_some_iff {settings : Settings} {file : UploadFile} {safeName : Str} :
    uploadedAs settings file = some safeName ↔ ∃ filename, namedFile settings file = some filename ∧
      validateUpload filename file.contentType file.bytes = (safeName, none) := by
  rw [uploadedAs, Option.bind_eq_some_iff]
  refine exists_congr fun filename => and_congr_right fun _ => ?_
  rcases validateUpload filename file.contentType file.bytes with ⟨name, _ | error⟩ <;> simp

/-- A file that passes the check has the last component of its path for a name. -/
theorem validateUpload_name {raw : Str} {contentType : Option Str} {bytes : List UInt8} {name : Str}
    (valid : validateUpload raw contentType bytes = (name, none)) : name = pathName raw := by
  unfold validateUpload at valid
  dsimp only at valid
  split at valid
  · cases valid
  · split at valid
    · cases valid
    · split at valid
      · cases valid
      · split at valid
        · split at valid
          · exact (congrArg Prod.fst valid).symm
          · cases valid
        · exact (congrArg Prod.fst valid).symm

namespace FileRequest

/-- The calls that hand the files on to the document pipeline. -/
def handedOn (x : FileRequest) (files : List UploadFile) : FileRoute → List Call
  | .send message =>
    OrchidApi.handedOn x.backend
      (sendChatMessage x.chatId message files x.auth x.settings x.runtime) x.world
  | .stream message =>
    OrchidApi.handedOn x.backend
      (streamChatMessage x.chatId message files x.auth x.settings x.runtime) x.world
  | .upload =>
    OrchidApi.handedOn x.backend (uploadDocuments x.chatId files x.auth x.settings x.runtime) x.world

/-- The arguments with which `ingest_document` is called. -/
def ingested (x : FileRequest) (files : List UploadFile) (route : FileRoute) : List Ingestion :=
  (x.handedOn files route).filterMap Call.document?

/-- A route takes a file when it hands it on. -/
def Takes (x : FileRequest) (route : FileRoute) (file : UploadFile) : Prop := x.handedOn [file] route ≠ []

/-- The bytes of the file under its sanitised name, without an error and within the limit. -/
def Validated (x : FileRequest) (file : UploadFile) (document : Ingestion) : Prop :=
  document.bytes = file.bytes ∧ file.bytes.length ≤ x.settings.uploadMaxSizeMb * 1024 * 1024 ∧
    ∃ filename, file.filename = some filename ∧
      validateUpload filename file.contentType file.bytes = (document.filename, none)

/-- The routes accept the file alike, given a store that can be written to. Without one, the upload
endpoint refuses any request before it looks at a file. -/
def AcceptAlike (x : FileRequest) (file : UploadFile) : Prop :=
  x.runtime.reader.isWriter = true → ∀ route, (x.Takes route file ↔ x.Takes .upload file)

/-- Each file is ingested by itself and validated, whatever the route, and all routes accept the
same files. -/
structure FilesValidated (x : FileRequest) (files : List UploadFile) : Prop where
  each : ∀ route, x.ingested files route = files.flatMap fun file => x.ingested [file] route
  validated : ∀ route, ∀ file ∈ files, ∀ document ∈ x.ingested [file] route, x.Validated file document
  alike : ∀ file ∈ files, x.AcceptAlike file

def Owned (x : FileRequest) : Prop := ∃ chat, x.world.store.session x.chatId = some chat ∧ chat.OwnedBy x.auth

/-- A named file within the limit passes the check, and if there is text in it to ingest, its
name is the sanitised one from the start. -/
def Conforms (x : FileRequest) (file : UploadFile) : Prop :=
  ∀ filename, namedFile x.settings file = some filename →
    (validateUpload filename file.contentType file.bytes).2 = none ∧
      ((x.backend.extract file).isSome = true → pathName filename = filename)

/-! ## One file -/

/-- What the route does with a file of its own. -/
def fileCalls (x : FileRequest) (file : UploadFile) : FileRoute → List Call
  | .send _ | .stream _ =>
    attachmentCalls x.chatId x.auth x.settings x.backend x.runtime.reader file
  | .upload => if x.runtime.reader.isWriter then uploadCalls x.chatId x.auth x.settings file else []

variable {x : FileRequest} {file : UploadFile} {files : List UploadFile}

theorem handedOn_owned (owned : x.Owned) (files : List UploadFile) (route : FileRoute) :
    x.handedOn files route = files.flatMap (x.fileCalls · route) := by
  obtain ⟨chat, found, own⟩ := owned
  cases route with
  | send message =>
    exact (handedOn_sendChatMessage message files).trans (handedOn_prepareGraphState message files found own)
  | stream message =>
    exact (handedOn_streamChatMessage message files).trans (handedOn_prepareGraphState message files found own)
  | upload =>
    simp only [handedOn, fileCalls]
    cases writer : x.runtime.reader.isWriter with
    | false =>
      refine (uploadDocuments_refused files (.inl writer)).2.trans ?_
      exact (List.flatMap_eq_nil_iff.mpr fun _ _ => rfl).symm
    | true => simpa using (uploadDocuments_owned files found own writer).2

theorem handedOn_foreign (foreign : ¬x.Owned) (files : List UploadFile) (route : FileRoute) :
    x.handedOn files route = [] := by
  have hidden : ∀ chat ∈ x.world.store.session x.chatId, ¬chat.OwnedBy x.auth :=
    fun chat found own => foreign ⟨chat, found, own⟩
  cases route with
  | send message =>
    exact (handedOn_sendChatMessage message files).trans (handedOn_prepare_foreign message files hidden)
  | stream message =>
    exact (handedOn_streamChatMessage message files).trans (handedOn_prepare_foreign message files hidden)
  | upload => exact (uploadDocuments_refused files (.inr hidden)).2

theorem ingested_each (x : FileRequest) (files : List UploadFile) (route : FileRoute) :
    x.ingested files route = files.flatMap fun file => x.ingested [file] route := by
  by_cases owned : x.Owned
  · simp [ingested, handedOn_owned owned, List.filterMap_flatMap]
  · simp [ingested, handedOn_foreign owned]

theorem handedOn_one (owned : x.Owned) (file : UploadFile) (route : FileRoute) :
    x.handedOn [file] route = x.fileCalls file route := by
  rw [handedOn_owned owned, List.flatMap_singleton]

theorem upload_calls_iff (writer : x.runtime.reader.isWriter = true) :
    x.fileCalls file .upload ≠ [] ↔ ∃ filename, namedFile x.settings file = some filename ∧
      (validateUpload filename file.contentType file.bytes).2 = none := by
  have taken : x.fileCalls file .upload ≠ [] ↔ ∃ safeName, uploadedAs x.settings file = some safeName := by
    simp only [fileCalls, writer, ↓reduceIte, uploadCalls]
    cases uploadedAs x.settings file <;> simp
  rw [taken]
  simp only [uploadedAs_eq_some_iff]
  constructor
  · rintro ⟨safeName, filename, named, valid⟩
    exact ⟨filename, named, by rw [valid]⟩
  · rintro ⟨filename, named, valid⟩
    exact ⟨_, filename, named, Prod.ext rfl valid⟩

theorem message_calls_iff {route : FileRoute} (messages : route ≠ .upload) :
    x.fileCalls file route ≠ [] ↔ ∃ filename, namedFile x.settings file = some filename := by
  cases route with
  | send message | stream message =>
    simp only [fileCalls, attachmentCalls]
    cases namedFile x.settings file <;> simp
  | upload => exact absurd rfl messages

/-- What the upload endpoint ingests is validated. -/
theorem upload_validated {document : Ingestion}
    (made : document ∈ (x.fileCalls file .upload).filterMap Call.document?) :
    x.Validated file document := by
  simp only [fileCalls, uploadCalls] at made
  split at made
  · cases taken : uploadedAs x.settings file with
    | none => simp [taken] at made
    | some safeName =>
      obtain ⟨filename, named, valid⟩ := uploadedAs_eq_some_iff.mp taken
      obtain ⟨given, -, small⟩ := namedFile_eq_some_iff.mp named
      obtain rfl : document = uploadOf x.chatId x.auth x.settings file safeName := by
        simpa [taken, Call.document?, eq_comm] using made
      exact ⟨rfl, small, filename, given, valid⟩
  · simp at made

theorem message_documents {route : FileRoute} (messages : route ≠ .upload) {document : Ingestion} :
    document ∈ (x.fileCalls file route).filterMap Call.document? ↔
      x.runtime.reader.isWriter = true ∧ ∃ filename text, namedFile x.settings file = some filename ∧
        x.backend.extract file = some text ∧
        document = attachmentOf x.chatId x.auth x.settings file filename text := by
  cases route with
  | send message | stream message =>
    simp only [fileCalls, attachmentCalls]
    cases namedFile x.settings file with
    | none => simp
    | some filename =>
      cases x.backend.extract file with
      | none => simp [Call.document?]
      | some text => cases x.runtime.reader.isWriter <;> simp [Call.document?, eq_comm]
  | upload => exact absurd rfl messages

theorem attachment_validated_iff {filename text : Str} (named : namedFile x.settings file = some filename) :
    x.Validated file (attachmentOf x.chatId x.auth x.settings file filename text) ↔
      (validateUpload filename file.contentType file.bytes).2 = none ∧ pathName filename = filename := by
  obtain ⟨given, -, small⟩ := namedFile_eq_some_iff.mp named
  constructor
  · rintro ⟨-, -, other, same, valid⟩
    obtain rfl : other = filename := Option.some.inj (same.symm.trans given)
    exact ⟨by rw [valid], (validateUpload_name valid).symm⟩
  · rintro ⟨valid, safe⟩
    have whole : validateUpload filename file.contentType file.bytes =
        ((validateUpload filename file.contentType file.bytes).1, none) := Prod.ext rfl valid
    exact ⟨rfl, small, filename, given, by rw [whole, validateUpload_name whole, safe]; rfl⟩

/-! ## All files -/

/-- One file, whatever the route. -/
theorem file_validated_iff (owned : x.Owned) (writer : x.runtime.reader.isWriter = true) :
    (∀ route, (∀ document ∈ x.ingested [file] route, x.Validated file document) ∧
      (x.Takes route file ↔ x.Takes .upload file)) ↔ x.Conforms file := by
  simp only [ingested, Takes, handedOn_one owned]
  constructor
  · intro same filename named
    obtain ⟨validated, alike⟩ := same (.send [])
    have taken := alike.mp ((message_calls_iff (by simp)).mpr ⟨filename, named⟩)
    obtain ⟨other, given, valid⟩ := (upload_calls_iff writer).mp taken
    obtain rfl : other = filename := Option.some.inj (given.symm.trans named)
    refine ⟨valid, fun extracts => ?_⟩
    obtain ⟨text, extracted⟩ := Option.isSome_iff_exists.mp extracts
    have messages : FileRoute.send [] ≠ .upload := by simp
    have made := (message_documents messages).mpr ⟨writer, other, text, named, extracted, rfl⟩
    exact ((attachment_validated_iff named).mp (validated _ made)).2
  · intro conforms route
    by_cases messages : route = .upload
    · subst messages
      exact ⟨fun document made => upload_validated made, Iff.rfl⟩
    · constructor
      · intro document made
        obtain ⟨-, filename, text, named, extracted, rfl⟩ := (message_documents messages).mp made
        obtain ⟨valid, safe⟩ := conforms filename named
        exact (attachment_validated_iff named).mpr ⟨valid, safe (by simp [extracted])⟩
      · rw [message_calls_iff messages, upload_calls_iff writer]
        exact exists_congr fun filename =>
          ⟨fun named => ⟨named, (conforms filename named).1⟩, And.left⟩

/-- Every file that reaches the vector store was validated, and the routes take the same files,
if and only if every attached file conforms, given that the request can ingest at all. -/
theorem files_validated_iff (x : FileRequest) (files : List UploadFile) :
    x.FilesValidated files ↔
      (x.Owned → x.runtime.reader.isWriter = true → ∀ file ∈ files, x.Conforms file) := by
  constructor
  · intro good owned writer file member
    exact (file_validated_iff owned writer).mp fun route =>
      ⟨good.validated route file member, good.alike file member writer route⟩
  · intro conforms
    refine ⟨ingested_each x files, fun route file member document made => ?_,
      fun file member writer route => ?_⟩
    · by_cases owned : x.Owned
      · rw [ingested, handedOn_one owned] at made
        by_cases messages : route = .upload
        · subst messages
          exact upload_validated made
        · obtain ⟨writer, -⟩ := (message_documents messages).mp made
          refine ((file_validated_iff owned writer).mpr (conforms owned writer file member) route).1 document ?_
          rwa [ingested, handedOn_one owned]
      · simp [ingested, handedOn_foreign owned] at made
    · by_cases owned : x.Owned
      · exact ((file_validated_iff owned writer).mpr (conforms owned writer file member) route).2
      · simp [Takes, handedOn_foreign owned]

end FileRequest

def sampleRequest : FileRequest where
  chatId := "c".toList
  auth := sampleAuth
  backend := { extract := fun _ => some "MZ".toList, ingest := fun _ => some 1 }
  world := sampleWorld

/-- A program that the upload endpoint refuses. -/
def program : UploadFile := ⟨some "../malware.exe".toList, none, [0x4D, 0x5A]⟩

/-- Attached to a message, it is ingested unvalidated, and under the name it came with. -/
theorem program_ingested :
    sampleRequest.ingested [program] (.send "Run it".toList) =
        [attachmentOf "c".toList sampleAuth {} program "../malware.exe".toList "MZ".toList] ∧
      (validateUpload "../malware.exe".toList none program.bytes).2 =
        some "Unsupported file type: .exe".toList ∧
      sampleRequest.ingested [program] .upload = [] ∧ ¬sampleRequest.FilesValidated [program] := by
  have refused : (validateUpload "../malware.exe".toList none program.bytes).2 =
      some "Unsupported file type: .exe".toList := by decide +kernel
  have ingests : sampleRequest.ingested [program] (.send "Run it".toList) =
      [attachmentOf "c".toList sampleAuth {} program "../malware.exe".toList "MZ".toList] := by
    decide +kernel
  refine ⟨ingests, refused, by decide +kernel, fun good => ?_⟩
  obtain ⟨-, -, filename, same, valid⟩ :=
    good.validated (.send "Run it".toList) program (by simp) _ (by rw [ingests]; exact List.mem_singleton_self _)
  obtain rfl : "../malware.exe".toList = filename := Option.some.inj same
  have error := congrArg Prod.snd valid
  rw [show program.contentType = none from rfl, refused] at error
  cases error

end OrchidApi
