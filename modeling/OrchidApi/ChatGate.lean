import OrchidApi.ChatRequests

/-! The two ownership gates, and every handler behind its own. -/
namespace OrchidApi
open Text Async

/-! ## The gates -/

section Gates
variable {caller : Caller} {chatId : Str}

/-- The gate of every endpoint but the event stream. -/
theorem guarded_verify (target : caller.endpoint.target = some chatId)
    (plain : caller.endpoint.isEvents = false) :
    caller.Guards (verifyChatOwnership chatId caller.auth) (Gated chatNotFound) .untried := by
  refine ⟨target, fun answer => ?_⟩
  cases answer with
  | error error => exact .inr (.inr ⟨error, rfl, rfl⟩)
  | ok found =>
    cases found with
    | none => exact .inr (.inl rfl)
    | some chat =>
      have same : caller.Passes chat ↔ chat.OwnedBy caller.auth := by simp [Caller.Passes, plain]
      change caller.Guards (if chat.OwnedBy caller.auth then pure chat else raise chatNotFound) _
        (if caller.Passes chat then .cleared else .refused)
      by_cases owned : chat.OwnedBy caller.auth
      · rw [if_pos owned, if_pos (same.mpr owned)]
        exact .inl rfl
      · rw [if_neg owned, if_neg (owned ∘ same.mp)]
        exact .inr (.inl rfl)

/-- The gate of the event stream, which alone looks at roles. -/
theorem guarded_require (target : caller.endpoint.target = some chatId)
    (events : caller.endpoint.isEvents = true) :
    caller.Guards (requireChatOwnerOrAdmin chatId caller.auth) (Gated chatHidden) .untried := by
  refine ⟨target, fun answer => ?_⟩
  cases answer with
  | error error => exact .inr (.inr ⟨error, rfl, rfl⟩)
  | ok found =>
    cases found with
    | none => exact .inr (.inl rfl)
    | some chat =>
      have same : caller.Passes chat ↔ chat.Admits caller.auth := by simp [Caller.Passes, events]
      change caller.Guards (if chat.tenantId ≠ caller.auth.tenantKey then raise chatHidden
        else if chat.userId = caller.auth.userId then pure caller.auth
        else if "admin".toList ∈ caller.auth.roles then pure caller.auth else raise chatHidden) _
        (if caller.Passes chat then .cleared else .refused)
      by_cases admitted : chat.Admits caller.auth
      · rw [if_pos (same.mpr admitted), if_neg (not_not.mpr admitted.1)]
        rcases admitted.2 with user | admin
        · rw [if_pos user]
          exact .inl rfl
        · rw [if_pos admin, ite_self]
          exact .inl rfl
      · rw [if_neg (admitted ∘ same.mp)]
        have hidden : Gated (α := AuthContext) chatHidden .refused (.error chatHidden) :=
          .inr (.inl rfl)
        split
        · exact hidden
        · rename_i tenant
          have tenant := not_not.mp tenant
          split
          · rename_i user
            exact absurd ⟨tenant, .inl user⟩ admitted
          · split
            · rename_i admin
              exact absurd ⟨tenant, .inr admin⟩ admitted
            · exact hidden

/-- What a cleared request does next keeps it cleared. -/
theorem guarded_cleared {post : Gate → Except Exn α → Prop} {p : Handler α}
    (target : caller.endpoint.target = some chatId) (uses : p.Uses (caller.Behind chatId))
    (done : ∀ outcome, post .cleared outcome) : caller.Guards p post .cleared := by
  apply Prog.guarded_of_uses uses
  · intro c behind
    cases c with
    | getChat | listChats | createChat =>
      simp only [Caller.Behind] at behind
      split at behind <;> exact absurd behind id
    | _ => exact ⟨rfl, chatId, target, behind⟩
  · intro c answer behind
    rfl
  · exact done

/-- A gate followed by calls on the chat it has cleared. -/
theorem guarded_behind {refusal : Exn} {gate : Handler α} {rest : α → Handler β}
    (target : caller.endpoint.target = some chatId)
    (first : caller.Guards gate (Gated refusal) .untried)
    (uses : ∀ value, (rest value).Uses (caller.Behind chatId)) :
    caller.Guards (gate >>= rest) (Gated refusal) .untried := by
  apply Prog.guarded_bind first
  · intro later value gated
    rcases gated with rfl | impossible | ⟨error, _, impossible⟩
    · exact guarded_cleared target (uses value) fun _ => .inl rfl
    · contradiction
    · contradiction
  · intro later error gated
    rcases gated with rfl | refused | ⟨raised, failed, same⟩
    · exact .inl rfl
    · obtain rfl := Except.error.inj refused
      exact .inr (.inl rfl)
    · obtain rfl := Except.error.inj same
      exact .inr (.inr ⟨error, failed, rfl⟩)

/-- The same for an endpoint behind the owner's gate. -/
theorem guarded_own {refusal : Exn} {gate : Handler α} {rest : α → Handler β}
    (target : caller.endpoint.target = some chatId) (plain : caller.endpoint.isEvents = false)
    (first : caller.Guards gate (Gated refusal) .untried)
    (uses : ∀ value, (rest value).Uses (OwnCall chatId caller.auth)) :
    caller.Guards (gate >>= rest) (Gated refusal) .untried := by
  have own : caller.Behind chatId = OwnCall chatId caller.auth := by simp [Caller.Behind, plain]
  exact guarded_behind target first (own ▸ uses)

end Gates

/-! ## The endpoints -/

section Endpoints
variable {caller : Caller} {chatId : Str} (target : caller.endpoint.target = some chatId)

section Own
variable (plain : caller.endpoint.isEvents = false)
include target plain

theorem guarded_getMessages (limit offset : Nat) :
    caller.Guards (getMessages chatId limit offset caller.auth) (Gated chatNotFound) .untried := by
  apply guarded_own target plain (guarded_verify target plain)
  intro _
  apply Prog.uses_bind (uses_own (uses_getMessages _ _))
  intro messages
  split <;> trivial

theorem guarded_deleteChat :
    caller.Guards (deleteChat chatId caller.auth) (Gated chatNotFound) .untried := by
  apply guarded_own target plain (guarded_verify target plain)
  intro _
  exact Prog.uses_await (S := Api) rfl

theorem guarded_prepareGraphState (message : Str) (files : List UploadFile) :
    caller.Guards (prepareGraphState chatId message files caller.auth caller.settings caller.runtime)
      (Gated chatNotFound) .untried := by
  apply guarded_own target plain (guarded_verify target plain)
  intro _
  apply Prog.uses_bind (uses_processUploadedFiles _ _ _)
  intro fileParts
  apply Prog.uses_bind (uses_own uses_loadConversationHistory)
  intro history
  apply Prog.uses_bind (uses_own (uses_checkMcpAuth _))
  intro mcpAuthStatus
  trivial

theorem guarded_sendChatMessage (message : Str) (files : List UploadFile) :
    caller.Guards (sendChatMessage chatId message files caller.auth caller.settings caller.runtime)
      (Gated chatNotFound) .untried := by
  obtain ⟨rest, same, uses⟩ := uses_sendRest message files caller.settings caller.runtime
  rw [same]
  apply guarded_own target plain (guarded_prepareGraphState target plain message files)
  exact fun prepared => uses_own (uses prepared)

theorem guarded_streamChatMessage (message : Str) (files : List UploadFile) :
    caller.Guards (streamChatMessage chatId message files caller.auth caller.settings caller.runtime)
      (Gated chatNotFound) .untried := by
  apply guarded_own target plain (guarded_prepareGraphState target plain message files)
  intro prepared
  exact uses_own (uses_streamSupervisorTokens _ _)

theorem guarded_resumeChat (approved : Bool) :
    caller.Guards (resumeChat chatId approved caller.auth caller.runtime) (Gated chatNotFound)
      .untried := by
  apply guarded_own target plain (guarded_verify target plain)
  intro _
  split
  · apply Prog.uses_attempt
    · exact Prog.uses_await (S := Api) rfl
    · intro outcome
      split
      · apply Prog.uses_bind (uses_own (uses_addMessage _))
        intro _
        exact uses_replyOf _ _
      · exact uses_interrupted _
      · trivial
  · trivial

theorem guarded_uploadDocuments (files : List UploadFile) :
    caller.Guards (uploadDocuments chatId files caller.auth caller.settings caller.runtime)
      (Gated (if caller.runtime.reader.isWriter then chatNotFound else notWritable)) .untried := by
  rw [uploadDocuments]
  split
  · apply guarded_own target plain (guarded_verify target plain)
    intro _
    exact uses_uploadFiles _ _
  · exact .inr (.inl rfl)

theorem guarded_shareChat (agents : List RagConfig) :
    caller.Guards (shareChat chatId caller.auth caller.settings caller.runtime agents)
      (Gated (if !caller.runtime.reader.isRepository || !caller.runtime.reader.supportsScopePromotion
        then sharingUnsupported
        else if !caller.runtime.qdrantInstalled then sharingUnavailable else chatNotFound))
      .untried := by
  rw [shareChat]
  split
  · exact .inr (.inl rfl)
  · split
    · exact .inr (.inl rfl)
    · apply guarded_own target plain (guarded_verify target plain)
      intro _
      apply Prog.uses_bind (uses_promoteAll _)
      intro promoted
      apply Prog.uses_bind
      · exact Prog.uses_await (S := Api) rfl
      · intro _
        trivial

end Own

include target in
theorem guarded_streamChatEvents (events : caller.endpoint.isEvents = true) (hasEventStream : Bool) :
    caller.Guards (streamChatEvents chatId caller.auth hasEventStream) (Gated chatHidden)
      .untried := by
  have reading : caller.Behind chatId = EventCall chatId := by simp [Caller.Behind, events]
  apply guarded_behind target (guarded_require target events)
  intro _
  rw [reading]
  split
  · apply Prog.uses_bind
    · exact Prog.uses_await (S := Api) rfl
    · intro inFlight
      apply Prog.uses_bind
      · apply Prog.uses_each
        intro run _
        apply Prog.uses_bind (uses_syntheticAttachedFor _ _)
        intro event
        exact uses_emitBloom _ _
      · intro _
        apply Prog.uses_bind
        · exact Prog.uses_await (S := Api) rfl
        · intro live
          exact Prog.uses_each fun event _ => uses_emitBloom _ _
  · trivial

end Endpoints

/-! ## Every request -/

/-- Wrapping the body of a gated endpoint. -/
theorem post_of_gated {caller : Caller} {p : Handler α} {wrap : α → ApiResponse}
    (first : caller.Guards p (Gated caller.denied) .untried)
    (other : ∀ value out, wrap value ≠ .sessions out) :
    caller.Guards (p >>= fun value => pure (wrap value)) caller.Post .untried := by
  apply Prog.guarded_bind first
  · intro later value gated
    refine ⟨fun _ => ?_, fun out shown => absurd (Except.ok.inj shown) (other value out)⟩
    rcases gated with cleared | impossible | ⟨error, _, impossible⟩
    · exact .inl cleared
    · contradiction
    · contradiction
  · intro later error gated
    refine ⟨fun _ => ?_, fun out shown => by contradiction⟩
    rcases gated with cleared | refused | ⟨raised, failed, same⟩
    · exact .inl cleared
    · exact .inr (.inl (by rw [Except.error.inj refused]))
    · exact .inr (.inr ⟨raised, failed, by rw [Except.error.inj same]⟩)

/-- Every handler keeps to what its lookups have told it. -/
theorem guarded_handle (caller : Caller) : caller.Guards caller.handle caller.Post .untried := by
  obtain ⟨auth, endpoint, settings, runtime⟩ := caller
  cases endpoint with
  | createChat title =>
    refine ⟨⟨rfl, rfl, rfl⟩, fun answer => ?_⟩
    cases answer with
    | error error => exact ⟨fun targeted => absurd rfl targeted, fun out shown => by contradiction⟩
    | ok session =>
      exact ⟨fun targeted => absurd rfl targeted, fun out shown => by cases Except.ok.inj shown⟩
  | listChats =>
    refine ⟨⟨rfl, rfl⟩, fun answer => ?_⟩
    cases answer with
    | error error => exact ⟨fun targeted => absurd rfl targeted, fun out shown => by contradiction⟩
    | ok sessions =>
      refine ⟨fun targeted => absurd rfl targeted, fun out shown => ⟨sessions, rfl, ?_⟩⟩
      exact (ApiResponse.sessions.inj (Except.ok.inj shown)).symm
  | getMessages chat limit offset =>
    exact post_of_gated (guarded_getMessages rfl rfl limit offset) fun _ _ => nofun
  | deleteChat chat => exact post_of_gated (guarded_deleteChat rfl rfl) fun _ _ => nofun
  | sendMessage chat message files =>
    exact post_of_gated (guarded_sendChatMessage rfl rfl message files) fun _ _ => nofun
  | streamMessage chat message files =>
    exact post_of_gated (guarded_streamChatMessage rfl rfl message files) fun _ _ => nofun
  | resume chat approved =>
    exact post_of_gated (guarded_resumeChat rfl rfl approved) fun _ _ => nofun
  | upload chat files =>
    exact post_of_gated (guarded_uploadDocuments rfl rfl files) fun _ _ => nofun
  | share chat agents => exact post_of_gated (guarded_shareChat rfl rfl agents) fun _ _ => nofun
  | chatEvents chat hasEventStream =>
    exact post_of_gated (guarded_streamChatEvents rfl rfl hasEventStream) fun _ _ => nofun

end OrchidApi
