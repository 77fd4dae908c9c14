import OrchidApi.FileValidation

/-! The results that an upload lists, for any outcomes of the pipeline and the storage: when
there is exactly one for each file, under a bare name. -/
namespace OrchidApi
open Text Async

/-- What the pipeline answers for a file, and the storage for the row that follows. -/
structure UploadOutcome where
  ingested : Except Failure Nat
  stored : Except Failure Unit

/-- The outcomes of the files that are still to be ingested, in order. -/
def uploadServer (chat : Option ChatSession) : Server Api (List UploadOutcome)
  | .getChat _, outcomes => (.ok chat, outcomes)
  | .ingestDocument _, outcome :: later =>
    (answered outcome.ingested, if outcome.ingested.isOk then outcome :: later else later)
  | .addMessage _ _, outcome :: later => (answered outcome.stored, later)
  | _, outcomes => (.error .other, outcomes)

/-- A file of an upload, with the outcome that it meets if it is ingested. -/
abbrev UploadCase : Type := UploadFile × UploadOutcome

def UploadFile.rawName (file : UploadFile) : Str := file.filename.getD []

def UploadFile.hasName (file : UploadFile) : Bool := !file.rawName.isEmpty

/-- The last component of the path is no name for a file. -/
def unusable (raw : Str) : Bool :=
  (pathName raw).isEmpty || startsWith (pathName raw) ['.'] || (pathName raw).contains '\x00'

/-- One of the two fields is set, and the file is named by its own name or what is left of it
without its directories. -/
structure Reports (file : UploadFile) (result : UploadFileResult) : Prop where
  named : result.filename = file.rawName ∨ result.filename = pathName file.rawName
  single : result.chunksIndexed.isSome = !result.error.isSome
  bare : '/' ∉ result.filename

section
variable (settings : Settings)

def outcomesMet (uploads : List UploadCase) : List UploadOutcome :=
  (uploads.filter fun upload => (uploadedAs settings upload.1).isSome).map Prod.snd

/-- The name that a refusal returns is the raw one. -/
def returnsRaw (file : UploadFile) : Bool := tooLarge settings file || unusable file.rawName

/-- A name that comes back raw has no directory in it, and an ingested file is recorded. -/
structure Recorded (upload : UploadCase) : Prop where
  bare : upload.1.hasName = true → returnsRaw settings upload.1 = true → '/' ∉ upload.1.rawName
  stored : (uploadedAs settings upload.1).isSome = true → upload.2.ingested.isOk = true →
    upload.2.stored.isOk = true

variable (chatId : Str) (auth : AuthContext) (runtime : Runtime) (chat : Option ChatSession)

def uploadRun (uploads : List UploadCase) : Except Exn (List UploadFileResult) :=
  ((uploadDocuments chatId (uploads.map Prod.fst) auth settings runtime).exec (uploadServer chat)
    (outcomesMet settings uploads)).1

/-- The request is answered with a result for each file that has a name, in order. -/
def OneResultEach (uploads : List UploadCase) : Prop :=
  ∃ results, uploadRun settings chatId auth runtime chat uploads = .ok results ∧
    List.Forall₂ Reports ((uploads.map Prod.fst).filter UploadFile.hasName) results

end

/-! ## Names -/

theorem not_mem_splitOn (c : Char) (s : Str) : ∀ part ∈ s.splitOn c, c ∉ part := by
  induction s with
  | nil => simp
  | cons d rest ih =>
    rw [List.splitOn_cons_eq_if_modifyHead]
    obtain ⟨first, later, split⟩ := List.exists_cons_of_ne_nil (List.splitOn_ne_nil c rest)
    rw [split] at ih ⊢
    split <;> rename_i same
    · simpa using ih
    · simp only [beq_iff_eq] at same
      simpa [Ne.symm same] using ih

theorem slash_not_mem_pathName (raw : Str) : '/' ∉ pathName raw := by
  rw [pathName]
  cases last : ((raw.splitOn '/').filter fun part => part ≠ [] ∧ part ≠ ['.']).getLast? with
  | none => exact List.not_mem_nil
  | some part => exact not_mem_splitOn '/' raw part (List.mem_of_mem_filter (List.mem_of_getLast? last))

theorem validateUpload_unusable {raw : Str} (bad : unusable raw = true) (contentType : Option Str)
    (bytes : List UInt8) :
    validateUpload raw contentType bytes = (raw, some "Invalid filename".toList) := by
  simp only [unusable, Bool.or_eq_true] at bad
  exact if_pos (or_assoc.mp bad)

theorem validateUpload_usable {raw : Str} (good : unusable raw = false) (contentType : Option Str)
    (bytes : List UInt8) : (validateUpload raw contentType bytes).1 = pathName raw := by
  simp only [unusable, Bool.or_eq_false_iff] at good
  unfold validateUpload
  dsimp only
  rw [if_neg (by simpa only [good, Bool.false_eq_true, or_false, false_or] using id)]
  split
  · rfl
  · split
    · rfl
    · split
      · split <;> rfl
      · rfl

/-! ## One file -/

section OneFile
variable {settings : Settings} {chatId : Str} {auth : AuthContext} {chat : Option ChatSession}

theorem uploadFile_unnamed {file : UploadFile} (unnamed : file.hasName = false) :
    uploadFile chatId auth settings file = pure [] := by
  unfold uploadFile
  unfold UploadFile.hasName UploadFile.rawName at unnamed
  cases given : file.filename with
  | none => rfl
  | some raw => simp_all

/-- A refusal is one result, under the raw name or under what is left of it. -/
theorem uploadFile_refused {file : UploadFile} (named : file.hasName = true)
    (refused : uploadedAs settings file = none) :
    ∃ text, uploadFile chatId auth settings file = pure [{
      filename := if returnsRaw settings file then file.rawName else pathName file.rawName
      error := some text }] := by
  obtain ⟨raw, given⟩ : ∃ raw, file.filename = some raw := by
    unfold UploadFile.hasName UploadFile.rawName at named
    cases given : file.filename with
    | none => simp [given] at named
    | some raw => exact ⟨raw, rfl⟩
  have same : file.rawName = raw := by simp [UploadFile.rawName, given]
  have nonempty : raw.isEmpty = false := by simpa [UploadFile.hasName, same] using named
  unfold uploadedAs namedFile at refused
  unfold uploadFile returnsRaw
  simp only [same, given, nonempty, Bool.false_or] at refused ⊢
  cases large : tooLarge settings file with
  | true =>
    have exceeds : file.bytes.length > settings.uploadMaxSizeMb * 1024 * 1024 := by
      simpa [tooLarge] using large
    simp only [exceeds, Bool.true_or, if_true, Bool.false_eq_true, if_false]
    exact ⟨_, rfl⟩
  | false =>
    have within : ¬file.bytes.length > settings.uploadMaxSizeMb * 1024 * 1024 := by
      simpa [tooLarge] using large
    rw [large] at refused
    simp only [within]
    cases bad : unusable raw with
    | true =>
      rw [validateUpload_unusable bad]
      exact ⟨_, rfl⟩
    | false =>
      have safe := validateUpload_usable bad file.contentType file.bytes
      rcases checked : validateUpload raw file.contentType file.bytes with ⟨safeName, _ | text⟩
      · simp [checked] at refused
      · rw [checked] at safe
        exact ⟨text, by simp [← safe]⟩

variable (safeName : Str)

theorem uploadFailure_eq (failure : Failure) :
    ∃ text, uploadFailure safeName failure.val = pure { filename := safeName, error := some text } := by
  obtain ⟨error, caught⟩ := failure
  unfold uploadFailure
  split
  · exact ⟨_, rfl⟩
  · exact ⟨_, if_pos caught⟩

theorem exec_ingestDocument (document : Ingestion) (outcome : UploadOutcome)
    (later : List UploadOutcome) :
    (ingestDocument document).exec (uploadServer chat) (outcome :: later) =
      (answered outcome.ingested, if outcome.ingested.isOk then outcome :: later else later) :=
  Prog.exec_await ..

theorem exec_addMessage (row : Row) (outcome : UploadOutcome) (later : List UploadOutcome) :
    (ChatRepo.addMessage chatId row).exec (uploadServer chat) (outcome :: later) =
      (answered outcome.stored, later) :=
  Prog.exec_await ..

/-- The first result of an ingestion is about it, and only a row that fails adds another. -/
theorem exec_ingestUpload (bytes : List UInt8) (outcome : UploadOutcome) (later : List UploadOutcome) :
    ∃ result more, (ingestUpload chatId auth settings bytes safeName).exec (uploadServer chat)
        (outcome :: later) = (.ok (result :: more), later) ∧
      result.filename = safeName ∧ result.chunksIndexed.isSome = !result.error.isSome ∧
      (more = [] ↔ (outcome.ingested.isOk = true → outcome.stored.isOk = true)) := by
  obtain ⟨ingested, stored⟩ := outcome
  rw [ingestUpload, Prog.exec_attempt, exec_ingestDocument]
  cases ingested with
  | error failure =>
    obtain ⟨text, failed⟩ := uploadFailure_eq safeName failure
    dsimp only [answered]
    rw [failed]
    exact ⟨_, [], rfl, rfl, rfl, by simp [Except.isOk, Except.toBool]⟩
  | ok chunks =>
    have kept : (if (Except.ok chunks : Except Failure Nat).isOk then
        (⟨.ok chunks, stored⟩ : UploadOutcome) :: later else later) = ⟨.ok chunks, stored⟩ :: later := rfl
    dsimp only [answered]
    rw [kept, Prog.exec_attempt, exec_addMessage]
    cases stored with
    | ok done => exact ⟨_, [], rfl, rfl, rfl, by simp [Except.isOk, Except.toBool]⟩
    | error failure =>
      obtain ⟨text, failed⟩ := uploadFailure_eq safeName failure
      dsimp only [answered]
      rw [failed]
      exact ⟨_, [_], rfl, rfl, rfl, by simp [Except.isOk, Except.toBool]⟩

end OneFile

/-! ## The whole upload -/

/-- A first part that is not empty belongs to the first item alone, if what follows suffices for
the items after it. -/
theorem forall₂_append_iff {R : α → β → Prop} {item : α} {items : List α} {part later : List β}
    (nonempty : part ≠ []) (enough : items.length ≤ later.length) :
    List.Forall₂ R (item :: items) (part ++ later) ↔
      (∃ result, part = [result] ∧ R item result) ∧ List.Forall₂ R items later := by
  constructor
  · intro pairs
    cases part with
    | nil => exact absurd rfl nonempty
    | cons result more =>
      obtain ⟨first, rest⟩ := List.forall₂_cons.mp pairs
      have alone : more = [] := by
        have length : items.length = (more ++ later).length := rest.length_eq
        rw [List.length_append] at length
        exact List.length_eq_zero_iff.mp (by omega)
      subst alone
      exact ⟨⟨result, rfl, first⟩, rest⟩
  · rintro ⟨⟨result, rfl, first⟩, rest⟩
    exact .cons first rest

section Loop
variable {settings : Settings} {chatId : Str} {auth : AuthContext} {chat : Option ChatSession}

theorem uploadedAs_usable {file : UploadFile} {safeName : Str} (taken : uploadedAs settings file = some safeName) :
    file.hasName = true ∧ returnsRaw settings file = false ∧ safeName = pathName file.rawName := by
  obtain ⟨raw, named, valid⟩ := uploadedAs_eq_some_iff.mp taken
  obtain ⟨given, nonempty, small⟩ := namedFile_eq_some_iff.mp named
  have same : file.rawName = raw := by simp [UploadFile.rawName, given]
  have usable : unusable raw = false := by
    cases bad : unusable raw with
    | false => rfl
    | true => simp [validateUpload_unusable bad] at valid
  refine ⟨by simp [UploadFile.hasName, same, nonempty], ?_, ?_⟩
  · simpa [returnsRaw, same, usable, tooLarge] using small
  · rw [same]
    exact validateUpload_name valid

theorem recorded_unnamed {upload : UploadCase} (unnamed : upload.1.hasName = false) :
    Recorded settings upload := by
  constructor
  · intro named
    simp [unnamed] at named
  · intro taken
    obtain ⟨safeName, ingested⟩ := Option.isSome_iff_exists.mp taken
    exact absurd (uploadedAs_usable ingested).1 (by simp [unnamed])

/-- The one result of a refused file is right unless it returns a raw name with directories. -/
theorem refusal_reports_iff {upload : UploadCase} (named : upload.1.hasName = true)
    (refused : uploadedAs settings upload.1 = none) (text : Str) :
    Reports upload.1 {
        filename := if returnsRaw settings upload.1 then upload.1.rawName else pathName upload.1.rawName
        error := some text } ↔
      Recorded settings upload := by
  constructor
  · intro reports
    refine ⟨fun _ raw => ?_, by simp [refused]⟩
    simpa [raw] using reports.bare
  · intro recorded
    cases raw : returnsRaw settings upload.1 with
    | true => exact ⟨.inl rfl, rfl, recorded.bare named raw⟩
    | false => exact ⟨.inr rfl, rfl, slash_not_mem_pathName _⟩

theorem uploadFile_taken {file : UploadFile} {safeName : Str}
    (taken : uploadedAs settings file = some safeName) :
    uploadFile chatId auth settings file = ingestUpload chatId auth settings file.bytes safeName := by
  rcases uploadFile_cases chatId auth settings file with ⟨other, found, ingests⟩ | ⟨refused, _⟩
  · rwa [Option.some_inj.mp (taken.symm.trans found)]
  · simp [taken] at refused

/-- An ingestion's results are right when there is no second one. -/
theorem ingestion_reports_iff {upload : UploadCase} {safeName : Str}
    (taken : uploadedAs settings upload.1 = some safeName) {result : UploadFileResult}
    {more : List UploadFileResult} (filename : result.filename = safeName)
    (single : result.chunksIndexed.isSome = !result.error.isSome)
    (alone : more = [] ↔ (upload.2.ingested.isOk = true → upload.2.stored.isOk = true)) :
    (∃ only, result :: more = [only] ∧ Reports upload.1 only) ↔ Recorded settings upload := by
  obtain ⟨_, usable, same⟩ := uploadedAs_usable taken
  constructor
  · rintro ⟨only, whole, _⟩
    refine ⟨by simp [usable], fun _ => alone.mp ?_⟩
    exact (List.cons.inj whole).2
  · intro recorded
    refine ⟨result, by rw [alone.mpr (recorded.stored (by simp [taken]))], ?_⟩
    refine ⟨.inr (filename.trans same), single, ?_⟩
    rw [filename, same]
    exact slash_not_mem_pathName _

theorem exec_uploadFile (upload : UploadCase) (later : List UploadCase) :
    ∃ part, (uploadFile chatId auth settings upload.1).exec (uploadServer chat)
        (outcomesMet settings (upload :: later)) = (.ok part, outcomesMet settings later) ∧
      (upload.1.hasName = false → part = []) ∧
      (upload.1.hasName = true → part ≠ [] ∧
        ((∃ result, part = [result] ∧ Reports upload.1 result) ↔ Recorded settings upload)) := by
  cases taken : uploadedAs settings upload.1 with
  | none =>
    have skipped : outcomesMet settings (upload :: later) = outcomesMet settings later := by
      simp [outcomesMet, taken]
    rw [skipped]
    cases named : upload.1.hasName with
    | false =>
      rw [uploadFile_unnamed named]
      exact ⟨[], rfl, fun _ => rfl, nofun⟩
    | true =>
      obtain ⟨text, refused⟩ := @uploadFile_refused settings chatId auth upload.1 named taken
      rw [refused]
      refine ⟨_, rfl, nofun, fun _ => ⟨by simp, ?_⟩⟩
      rw [← refusal_reports_iff named taken text]
      simp only [List.cons.injEq, and_true, exists_eq_left']
  | some safeName =>
    have met : outcomesMet settings (upload :: later) = upload.2 :: outcomesMet settings later := by
      simp [outcomesMet, taken]
    have named := (uploadedAs_usable taken).1
    obtain ⟨result, more, run, filename, single, alone⟩ :=
      @exec_ingestUpload settings chatId auth chat safeName upload.1.bytes upload.2
        (outcomesMet settings later)
    rw [met, uploadFile_taken taken, run]
    exact ⟨_, rfl, by simp [named], fun _ =>
      ⟨by simp, ingestion_reports_iff taken filename single alone⟩⟩

theorem exec_uploadFiles (uploads : List UploadCase) :
    ∃ results, (uploadFiles chatId auth settings (uploads.map Prod.fst)).exec (uploadServer chat)
        (outcomesMet settings uploads) = (.ok results, []) ∧
      ((uploads.map Prod.fst).filter UploadFile.hasName).length ≤ results.length ∧
      (List.Forall₂ Reports ((uploads.map Prod.fst).filter UploadFile.hasName) results ↔
        ∀ upload ∈ uploads, Recorded settings upload) := by
  induction uploads with
  | nil => exact ⟨[], rfl, Nat.le_refl _, by simp⟩
  | cons upload later ih =>
    obtain ⟨results, rest, enough, each⟩ := ih
    obtain ⟨part, first, unnamed, named⟩ := @exec_uploadFile settings chatId auth chat upload later
    refine ⟨part ++ results, ?_, ?_⟩
    · rw [List.map_cons, uploadFiles, Prog.exec_bind_ok first, Prog.exec_bind_ok rest]
      rfl
    · rw [List.map_cons, List.forall_mem_cons, ← each]
      cases has : upload.1.hasName with
      | false =>
        rw [unnamed has, List.nil_append, List.filter_cons_of_neg (by simp [has])]
        exact ⟨enough, by simp [recorded_unnamed has]⟩
      | true =>
        obtain ⟨nonempty, single⟩ := named has
        rw [List.filter_cons_of_pos has, forall₂_append_iff nonempty enough, single]
        refine ⟨?_, Iff.rfl⟩
        have := List.length_pos_of_ne_nil nonempty
        simp only [List.length_cons, List.length_append]
        omega

end Loop

variable {settings : Settings} {chatId : Str} {auth : AuthContext} {runtime : Runtime} {chat : ChatSession}

/-- An upload lists one result for each file exactly when every refusal under a raw name is of a
bare name and every ingested file gets its row. -/
theorem one_result_each_iff (writer : runtime.reader.isWriter = true) (own : chat.OwnedBy auth)
    (uploads : List UploadCase) :
    OneResultEach settings chatId auth runtime (some chat) uploads ↔
      ∀ upload ∈ uploads, Recorded settings upload := by
  obtain ⟨results, run, _, each⟩ := @exec_uploadFiles settings chatId auth (some chat) uploads
  have answer : uploadRun settings chatId auth runtime (some chat) uploads = .ok results := by
    rw [uploadRun, uploadDocuments, if_pos writer, Prog.exec_bind_ok (exec_verifyChatOwnership rfl own), run]
  rw [← each]
  constructor
  · rintro ⟨other, same, pairs⟩
    rwa [Except.ok.inj (answer.symm.trans same)]
  · intro pairs
    exact ⟨results, answer, pairs⟩

def notesFile : UploadFile := ⟨some "notes.txt".toList, none, [0x68, 0x69]⟩

def notesChat : ChatSession := ⟨"c-1".toList, "acme".toList, "ann".toList, "New chat".toList, false⟩

theorem one_result_each_notes :
    OneResultEach {} "c-1".toList ⟨"acme".toList, "ann".toList, []⟩ {} (some notesChat)
        [(notesFile, ⟨.ok 1, .ok ()⟩)] ↔
      ∀ upload ∈ [(notesFile, (⟨.ok 1, .ok ()⟩ : UploadOutcome))], Recorded {} upload :=
  one_result_each_iff rfl ⟨rfl, rfl⟩ _

/-- A file that is ingested and whose row fails has a result for each of the two. -/
theorem two_results_for_one_file :
    ¬OneResultEach {} "c-1".toList ⟨"acme".toList, "ann".toList, []⟩ {} (some notesChat)
      [(notesFile, ⟨.ok 1, .error ⟨.other, rfl⟩⟩)] := by
  rintro ⟨results, run, pairs⟩
  have both : uploadRun {} "c-1".toList ⟨"acme".toList, "ann".toList, []⟩ {} (some notesChat)
      [(notesFile, ⟨.ok 1, .error ⟨.other, rfl⟩⟩)] = .ok [
        { filename := "notes.txt".toList, chunksIndexed := some 1 },
        { filename := "notes.txt".toList, error := some "Processing failed".toList }] := by
    rfl
  obtain rfl := Except.ok.inj (both.symm.trans run)
  exact absurd pairs.length_eq (by decide)

end OrchidApi
