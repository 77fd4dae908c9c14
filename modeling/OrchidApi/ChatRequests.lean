import OrchidApi.AsyncPool
import OrchidApi.Chats

/-! Every endpoint as one request of a caller, what its handler may await before and after
its ownership gate has answered, and the calls that the parts behind the gate make. -/
namespace OrchidApi
open Text Async

/-! ## Requests -/

inductive Endpoint where
  | createChat (title : Str)
  | listChats
  | getMessages (chat : Str) (limit offset : Nat)
  | deleteChat (chat : Str)
  | sendMessage (chat message : Str) (files : List UploadFile)
  | streamMessage (chat message : Str) (files : List UploadFile)
  | resume (chat : Str) (approved : Bool)
  | upload (chat : Str) (files : List UploadFile)
  | share (chat : Str) (agents : List RagConfig)
  | chatEvents (chat : Str) (hasEventStream : Bool)

def Endpoint.target : Endpoint → Option Str
  | .createChat _ | .listChats => none
  | .getMessages chat _ _ | .deleteChat chat | .sendMessage chat _ _ | .streamMessage chat _ _
  | .resume chat _ | .upload chat _ | .share chat _ | .chatEvents chat _ => some chat

/-- The one endpoint with the wider gate. -/
def Endpoint.isEvents : Endpoint → Bool
  | .chatEvents _ _ => true
  | _ => false

structure Caller where
  auth : AuthContext
  endpoint : Endpoint
  settings : Settings := {}
  runtime : Runtime := {}

inductive ApiResponse where
  | session (body : ChatSessionOut)
  | sessions (body : List ChatSessionOut)
  | messages (body : List MessageOut)
  | deleted
  | reply (body : ChatReply)
  | streamed
  | uploaded (files : List UploadFileResult)
  | shared (pointsPromoted : Nat)

/-- The routing table. -/
def Caller.handle (caller : Caller) : Handler ApiResponse :=
  match caller.endpoint with
  | .createChat title => createChat title caller.auth >>= fun body => pure (.session body)
  | .listChats => listChats caller.auth >>= fun body => pure (.sessions body)
  | .getMessages chat limit offset =>
    getMessages chat limit offset caller.auth >>= fun body => pure (.messages body)
  | .deleteChat chat => deleteChat chat caller.auth >>= fun _ => pure .deleted
  | .sendMessage chat message files =>
    sendChatMessage chat message files caller.auth caller.settings caller.runtime >>=
      fun body => pure (.reply body)
  | .streamMessage chat message files =>
    streamChatMessage chat message files caller.auth caller.settings caller.runtime >>=
      fun _ => pure .streamed
  | .resume chat approved =>
    resumeChat chat approved caller.auth caller.runtime >>= fun body => pure (.reply body)
  | .upload chat files =>
    uploadDocuments chat files caller.auth caller.settings caller.runtime >>=
      fun results => pure (.uploaded results)
  | .share chat agents =>
    shareChat chat caller.auth caller.settings caller.runtime agents >>= fun n => pure (.shared n)
  | .chatEvents chat hasEventStream =>
    streamChatEvents chat caller.auth hasEventStream >>= fun _ => pure .streamed

/-- The answer to a request on a chat that the caller may not see. -/
def Caller.denied (caller : Caller) : Exn :=
  match caller.endpoint with
  | .upload _ _ => if caller.runtime.reader.isWriter then chatNotFound else notWritable
  | .share _ _ =>
    if !caller.runtime.reader.isRepository || !caller.runtime.reader.supportsScopePromotion then
      sharingUnsupported
    else if !caller.runtime.qdrantInstalled then sharingUnavailable
    else chatNotFound
  | .chatEvents _ _ => chatHidden
  | _ => chatNotFound

/-! ## What a handler knows -/

instance (chat : ChatSession) (auth : AuthContext) : Decidable (chat.Admits auth) :=
  inferInstanceAs (Decidable (_ ∧ _))

/-- The check of the endpoint's gate. -/
def Caller.Passes (caller : Caller) (chat : ChatSession) : Prop :=
  if caller.endpoint.isEvents then chat.Admits caller.auth else chat.OwnedBy caller.auth

instance (caller : Caller) (chat : ChatSession) : Decidable (caller.Passes chat) :=
  inferInstanceAs (Decidable
    (if caller.endpoint.isEvents then chat.Admits caller.auth else chat.OwnedBy caller.auth))

/-- How the lookups of the request have come out so far. -/
inductive Gate where
  | untried
  | cleared
  | refused
  | failed (error : Exn)
  | listed (sessions : List ChatSession)

/-- The first lookup decides. -/
def Caller.learn (caller : Caller) (known : Gate) (c : Call) (answer : Except Exn c.Reply) : Gate :=
  match known with
  | .untried =>
    match c, answer with
    | .getChat _, .ok (some chat) => if caller.Passes chat then .cleared else .refused
    | .getChat _, .ok none => .refused
    | .getChat _, .error error => .failed error
    | .listChats _ _, .ok sessions => .listed sessions
    | _, _ => .untried
  | known => known

/-- Calls on behalf of the owner of a chat. -/
def OwnCall (chatId : Str) (auth : AuthContext) : Call → Prop
  | .getMessages id _ _ | .deleteChat id | .addMessage id _ | .updateTitle id _ | .markShared id
  | .astream id _ | .ainvoke id _ => id = chatId
  | .getToken tenant user _ => tenant = auth.tenantKey ∧ user = auth.userId
  | .ingestDocument document => document.scope = scopeOf chatId auth
  | .promoteScope promotion => promotion.sourceChat = chatId ∧
      promotion.tenantId = auth.tenantKey ∧ promotion.userId = auth.userId
  | .extractText _ _ | .emit _ => True
  | _ => False

/-- Calls that hand a file on to the document pipeline. -/
def Call.processes : Call → Bool
  | .extractText _ _ | .ingestDocument _ => true
  | _ => false

/-- Calls on behalf of the owner, other than those that hand files on. -/
def PlainCall (chatId : Str) (auth : AuthContext) (c : Call) : Prop :=
  OwnCall chatId auth c ∧ c.processes = false

/-- Calls of the chat event stream, which only read. -/
def EventCall (chatId : Str) : Call → Prop
  | .listBoundRuns id _ _ | .subscribe id => id = chatId
  | .emitBloom _ | .now => True
  | _ => False

/-- What the endpoint may call once it is cleared. -/
def Caller.Behind (caller : Caller) (chatId : Str) : Call → Prop :=
  if caller.endpoint.isEvents then EventCall chatId else OwnCall chatId caller.auth

/-- Lookups of the request's own chat and pair at any time, creation for the pair where no
chat is targeted, the rest behind the gate. -/
def Caller.Allowed (caller : Caller) (known : Gate) (c : Call) : Prop :=
  match c with
  | .getChat id => caller.endpoint.target = some id
  | .listChats tenant user => tenant = caller.auth.tenantKey ∧ user = caller.auth.userId
  | .createChat tenant user _ => caller.endpoint.target = none ∧
      tenant = caller.auth.tenantKey ∧ user = caller.auth.userId
  | c => known = .cleared ∧ ∃ chatId, caller.endpoint.target = some chatId ∧ caller.Behind chatId c

/-- Behind its gate a request has been cleared, or it has ended in the gate's refusal or
in the failure of the lookup. -/
def Gated (refusal : Exn) (known : Gate) (outcome : Except Exn α) : Prop :=
  known = .cleared ∨ outcome = .error refusal ∨ ∃ error, known = .failed error ∧ outcome = .error error

/-- A request on a chat passes its gate or is denied; a listing shows what was looked up. -/
def Caller.Post (caller : Caller) (known : Gate) (outcome : Except Exn ApiResponse) : Prop :=
  (caller.endpoint.target ≠ none → Gated caller.denied known outcome) ∧
  ∀ out, outcome = .ok (.sessions out) → ∃ sessions, known = .listed sessions ∧
    out = sessions.map sessionToOut

abbrev Caller.Guards (caller : Caller) (p : Handler α) (post : Gate → Except Exn α → Prop)
    (known : Gate) : Prop :=
  Prog.Guarded (S := Api) caller.Allowed caller.learn post p known

/-! ## Calls behind the gate -/

theorem uses_suppress {ok : Call → Prop} {p : Handler Unit} (inner : p.Uses ok) :
    (suppress p).Uses ok := by
  apply Prog.uses_attempt inner
  intro outcome
  cases outcome with
  | ok value => trivial
  | error error => dsimp only; split <;> trivial

section OwnCalls
variable {chatId : Str} {auth : AuthContext}

theorem uses_own {p : Handler α} (plain : p.Uses (PlainCall chatId auth)) :
    p.Uses (OwnCall chatId auth) := Prog.uses_mono plain fun _ => And.left

theorem uses_addMessage (row : Row) : (ChatRepo.addMessage chatId row).Uses (PlainCall chatId auth) :=
  Prog.uses_await (S := Api) ⟨rfl, rfl⟩

theorem uses_getMessages (limit offset : Nat) :
    (ChatRepo.getMessages chatId limit offset).Uses (PlainCall chatId auth) :=
  Prog.uses_await (S := Api) ⟨rfl, rfl⟩

theorem uses_autoTitle (message : Str) (rows : List Row) :
    (autoTitleIfFirstMessage chatId message rows).Uses (PlainCall chatId auth) := by
  rw [autoTitleIfFirstMessage]
  split
  · exact Prog.uses_await (S := Api) ⟨rfl, rfl⟩
  · trivial

theorem uses_startGraph (state : InitialState) :
    (startGraph chatId state).Uses (PlainCall chatId auth) := by
  apply Prog.uses_attempt
  · exact Prog.uses_await (S := Api) ⟨rfl, rfl⟩
  · intro outcome
    cases outcome <;> trivial

theorem uses_tokenStatus (servers : List Str) :
    (tokenStatus auth servers).Uses (PlainCall chatId auth) := by
  induction servers with
  | nil => trivial
  | cons name rest ih =>
    apply Prog.uses_bind (Prog.uses_await (S := Api) ⟨⟨rfl, rfl⟩, rfl⟩)
    intro token
    apply Prog.uses_bind ih
    intro later
    trivial

theorem uses_checkMcpAuth (runtime : Runtime) :
    (checkMcpAuth auth runtime).Uses (PlainCall chatId auth) := by
  rw [checkMcpAuth]
  split
  · trivial
  · split
    · trivial
    · exact uses_tokenStatus _

theorem uses_loadConversationHistory :
    (loadConversationHistory chatId).Uses (PlainCall chatId auth) := by
  apply Prog.uses_bind (uses_getMessages _ _)
  intro rows
  exact Prog.uses_ite trivial trivial

/-! ### The graph endpoints -/

theorem uses_emit (frame : Frame) : (emit frame).Uses (PlainCall chatId auth) :=
  Prog.uses_await (S := Api) ⟨trivial, rfl⟩

theorem uses_emitFrames (frames : List Frame) : (emitFrames frames).Uses (PlainCall chatId auth) :=
  Prog.uses_each fun frame _ => uses_emit frame

theorem uses_superviseLoop (settings : Settings) (s : StreamState) (events : List GraphEvent) :
    (superviseLoop settings s events).Uses (PlainCall chatId auth) := by
  induction events generalizing s with
  | nil => trivial
  | cons event rest ih =>
    apply Prog.uses_bind (uses_emitFrames _)
    intro _
    exact ih _

theorem uses_persist (prepared : PreparedState) (rows : List Row) :
    (persist chatId prepared rows).Uses (PlainCall chatId auth) := by
  apply uses_suppress
  apply Prog.uses_bind (Prog.uses_each fun row _ => uses_addMessage row)
  intro _
  exact uses_autoTitle _ _

theorem uses_finishStream (prepared : PreparedState) (s : StreamState) (timedOut errored : Bool) :
    (finishStream chatId prepared s timedOut errored).Uses (PlainCall chatId auth) := by
  apply Prog.uses_bind (uses_emit _)
  intro _
  exact uses_persist _ _

theorem uses_cancelStream (prepared : PreparedState) (s : StreamState) :
    (cancelStream chatId prepared s).Uses (PlainCall chatId auth) := by
  rw [cancelStream]
  split
  · trivial
  · apply Prog.uses_bind (uses_emit _)
    intro _
    apply Prog.uses_bind (uses_persist _ _)
    intro _
    trivial

theorem uses_streamSupervisorTokens (settings : Settings) (prepared : PreparedState) :
    (streamSupervisorTokens settings chatId prepared).Uses (PlainCall chatId auth) := by
  apply Prog.uses_bind (uses_startGraph _)
  intro run
  apply Prog.uses_bind (uses_superviseLoop _ _ _)
  intro s
  split
  · apply Prog.uses_bind (uses_emitFrames _)
    intro _
    apply Prog.uses_bind (uses_emitFrames _)
    intro _
    exact uses_finishStream _ _ _ _
  · exact uses_cancelStream _ _
  · apply Prog.uses_bind (uses_emit _)
    intro _
    exact uses_finishStream _ _ _ _
  · split
    · apply Prog.uses_bind (uses_emit _)
      intro _
      exact uses_finishStream _ _ _ _
    · trivial

theorem uses_replyOf {ok : Call → Prop} (result : Values) (authRequired : List Str) :
    (replyOf chatId auth result authRequired).Uses ok := by
  rw [replyOf]
  split <;> trivial

theorem uses_interrupted {ok : Call → Prop} (payload : InterruptPayload) :
    (interrupted payload chatId auth).Uses ok := by
  rw [interrupted]
  split <;> trivial

theorem uses_finishMessage (prepared : PreparedState) (result : Values) (cancelled : Bool) :
    (finishMessage chatId auth prepared result cancelled).Uses (PlainCall chatId auth) := by
  apply Prog.uses_bind (uses_addMessage _)
  intro _
  apply Prog.uses_bind (uses_addMessage _)
  intro _
  apply Prog.uses_bind (uses_autoTitle _ _)
  intro _
  exact uses_replyOf _ _

/-- Behind the preparation, the message endpoints make no call that hands a file on. -/
theorem uses_sendRest (message : Str) (files : List UploadFile) (settings : Settings) (runtime : Runtime) :
    ∃ rest : PreparedState → Handler ChatReply,
      sendChatMessage chatId message files auth settings runtime =
        prepareGraphState chatId message files auth settings runtime >>= rest ∧
      ∀ prepared, (rest prepared).Uses (PlainCall chatId auth) := by
  refine ⟨_, rfl, fun prepared => ?_⟩
  apply Prog.uses_bind (uses_startGraph _)
  intro run
  split
  · exact uses_finishMessage _ _ _
  · exact uses_finishMessage _ _ _
  · exact uses_interrupted _
  · split
    · apply Prog.uses_bind (uses_suppress (uses_addMessage _))
      intro _
      trivial
    · trivial

/-! ### Uploads and sharing -/

theorem uses_processUploadedFile (settings : Settings) (reader : Reader) (file : UploadFile) :
    (processUploadedFile chatId auth settings reader file).Uses (OwnCall chatId auth) := by
  rw [processUploadedFile]
  split
  · trivial
  · split
    · trivial
    · apply Prog.uses_attempt (Prog.uses_await (S := Api) trivial)
      intro outcome
      cases outcome with
      | error error => dsimp only; split <;> trivial
      | ok text =>
        dsimp only
        split
        · apply Prog.uses_bind
          · apply uses_suppress
            apply Prog.uses_bind
            · exact Prog.uses_await (S := Api) rfl
            · intro _
              trivial
          · intro _
            trivial
        · trivial

theorem uses_processUploadedFiles (settings : Settings) (reader : Reader) (files : List UploadFile) :
    (processUploadedFiles chatId auth settings reader files).Uses (OwnCall chatId auth) := by
  induction files with
  | nil => trivial
  | cons file rest ih =>
    apply Prog.uses_bind (uses_processUploadedFile settings reader file)
    intro parts
    apply Prog.uses_bind ih
    intro later
    trivial

theorem uses_uploadFailure {ok : Call → Prop} (safeName : Str) (error : Exn) :
    (uploadFailure safeName error).Uses ok := by
  unfold uploadFailure
  split
  · trivial
  · split <;> trivial

theorem uses_ingestUpload (settings : Settings) (bytes : List UInt8) (safeName : Str) :
    (ingestUpload chatId auth settings bytes safeName).Uses (OwnCall chatId auth) := by
  apply Prog.uses_attempt
  · exact Prog.uses_await (S := Api) rfl
  · intro ingested
    cases ingested with
    | error error =>
      apply Prog.uses_bind (uses_uploadFailure _ _)
      intro failure
      trivial
    | ok chunks =>
      apply Prog.uses_attempt (uses_own (uses_addMessage _))
      intro stored
      cases stored with
      | ok _ => trivial
      | error error =>
        apply Prog.uses_bind (uses_uploadFailure _ _)
        intro failure
        trivial

theorem uses_uploadFile (settings : Settings) (file : UploadFile) :
    (uploadFile chatId auth settings file).Uses (OwnCall chatId auth) := by
  rw [uploadFile]
  split
  · trivial
  · split
    · trivial
    · split
      · trivial
      · split
        · trivial
        · exact uses_ingestUpload _ _ _

theorem uses_uploadFiles (settings : Settings) (files : List UploadFile) :
    (uploadFiles chatId auth settings files).Uses (OwnCall chatId auth) := by
  induction files with
  | nil => trivial
  | cons file rest ih =>
    apply Prog.uses_bind (uses_uploadFile _ _)
    intro results
    apply Prog.uses_bind ih
    intro later
    trivial

theorem uses_promoteAll (namespaces : List Str) :
    (promoteAll chatId auth namespaces).Uses (OwnCall chatId auth) := by
  induction namespaces with
  | nil => trivial
  | cons ragNamespace rest ih =>
    apply Prog.uses_bind
    · apply Prog.uses_attempt
      · exact Prog.uses_await (S := Api) ⟨rfl, rfl, rfl⟩
      · intro outcome
        cases outcome with
        | ok count => trivial
        | error error => dsimp only; split <;> trivial
    · intro count
      apply Prog.uses_bind ih
      intro later
      trivial

end OwnCalls

/-! ### The chat event stream -/

theorem uses_syntheticAttachedFor (chatId : Str) (run : BoundRun) :
    (syntheticAttachedFor run).Uses (EventCall chatId) := by
  rw [syntheticAttachedFor]
  dsimp only
  cases run.startedAt.or run.queuedAt with
  | some time => trivial
  | none =>
    apply Prog.uses_bind
    · exact Prog.uses_await (S := Api) trivial
    · intro occurred
      trivial

theorem uses_emitBloom (chatId : Str) (event : ChatBloomEvent) :
    (emitBloom event).Uses (EventCall chatId) := Prog.uses_await (S := Api) trivial

end OrchidApi
