import Mathlib.Algebra.BigOperators.Group.Finset.Basic
import Mathlib.Algebra.GroupWithZero.Nat
import OrchidApi.Chats

/-! `share_chat` for any namespaces and any failures of their promotions: what is promoted, what
is reported, and that the chat is marked in every case. -/
namespace OrchidApi
open Text Async

def Call.promotion? : Call → Option Promotion
  | .promoteScope promotion => some promotion
  | _ => none

def Call.marked? : Call → Option Str
  | .markShared id => some id
  | _ => none

/-- A vector store whose promotions fail as given, in front of one chat. -/
def promotionServer (chat : ChatSession) (outcome : Str → Except Failure Nat) : Server Api Unit
  | .getChat _, s => (.ok (some chat), s)
  | .promoteScope promotion, s => (answered (outcome promotion.ragNamespace), s)
  | .markShared _, s => (.ok (), s)
  | _, s => (.error .other, s)

/-- A backend that can promote scopes, with its client library. -/
structure Runtime.Promotes (runtime : Runtime) : Prop where
  repository : runtime.reader.isRepository = true
  supported : runtime.reader.supportsScopePromotion = true
  installed : runtime.qdrantInstalled = true

section Share
variable (chatId : Str) (auth : AuthContext) (settings : Settings) (runtime : Runtime)
  (agents : List RagConfig) (chat : ChatSession) (outcome : Str → Except Failure Nat)

/-- The namespace for uploads and those that an agent with retrieval names. -/
def ragNamespaces : Finset Str :=
  (settings.uploadNamespace :: (agents.filter fun rag => rag.enabled && !rag.ragNamespace.isEmpty).map
    RagConfig.ragNamespace).toFinset

def promotedPoints (ragNamespace : Str) : Nat :=
  match outcome ragNamespace with
  | .ok count => count
  | .error _ => 0

def shareRun : Except Exn Nat :=
  ((shareChat chatId auth settings runtime agents).exec (promotionServer chat outcome) ()).1

def shareCalls : List Call :=
  (shareChat chatId auth settings runtime agents).calls (promotionServer chat outcome) ()

def promotionOf (ragNamespace : Str) : Promotion := ⟨ragNamespace, chatId, auth.userId, auth.tenantKey⟩

/-- Each namespace is promoted once to the caller's scope, and the points of those that succeed
are reported. -/
structure PromotesEach : Prop where
  once : ((shareCalls chatId auth settings runtime agents chat outcome).filterMap Call.promotion?).Nodup
  exactly : ∀ promotion,
    promotion ∈ (shareCalls chatId auth settings runtime agents chat outcome).filterMap Call.promotion? ↔
      ∃ ragNamespace ∈ ragNamespaces settings agents, promotion = promotionOf chatId auth ragNamespace
  reported : shareRun chatId auth settings runtime agents chat outcome =
    .ok (∑ ragNamespace ∈ ragNamespaces settings agents, promotedPoints outcome ragNamespace)

/-- The chats that the request marks shared. -/
def markedShared : List Str :=
  (shareCalls chatId auth settings runtime agents chat outcome).filterMap Call.marked?

/-- The chat is marked if and only if no namespace failed. -/
def MarkedWhenPromoted : Prop :=
  chatId ∈ markedShared chatId auth settings runtime agents chat outcome ↔
    ∀ ragNamespace ∈ ragNamespaces settings agents, (outcome ragNamespace).isOk = true

end Share

/-! ## The loop -/

section Loop
variable {chatId : Str} {auth : AuthContext} {chat : ChatSession} {outcome : Str → Except Failure Nat}

/-- The body of the loop, for one namespace. -/
def promoteOne (promotion : Promotion) : Handler Nat :=
  (promoteScope promotion).attempt fun
    | .ok count => pure count
    | .error error => if error.isException then pure 0 else raise error

theorem promoteAll_cons (name : Str) (rest : List Str) :
    promoteAll chatId auth (name :: rest) = (do
      let count ← promoteOne (promotionOf chatId auth name)
      let later ← promoteAll chatId auth rest
      pure (count + later)) := rfl

theorem exec_promoteScope (promotion : Promotion) :
    (promoteScope promotion).exec (promotionServer chat outcome) () =
      (answered (outcome promotion.ragNamespace), ()) :=
  Prog.exec_await ..

/-- Whether it fails or not, a promotion is one call, and the loop goes on with its points. -/
theorem promoteOne_run (promotion : Promotion) :
    (promoteOne promotion).exec (promotionServer chat outcome) () =
        (.ok (promotedPoints outcome promotion.ragNamespace), ()) ∧
      (promoteOne promotion).calls (promotionServer chat outcome) () = [.promoteScope promotion] := by
  have alone : (promoteScope promotion).calls (promotionServer chat outcome) () = [.promoteScope promotion] :=
    Prog.calls_await ..
  rw [promoteOne, Prog.exec_attempt, Prog.calls_attempt, exec_promoteScope, alone, promotedPoints]
  cases outcome promotion.ragNamespace with
  | ok count => exact ⟨rfl, rfl⟩
  | error failure =>
    simp only [answered, failure.property]
    exact ⟨rfl, rfl⟩

theorem promoteAll_run (names : List Str) :
    (promoteAll chatId auth names).exec (promotionServer chat outcome) () =
        (.ok (names.map (promotedPoints outcome)).sum, ()) ∧
      (promoteAll chatId auth names).calls (promotionServer chat outcome) () =
        names.map fun name => .promoteScope (promotionOf chatId auth name) := by
  induction names with
  | nil => exact ⟨rfl, rfl⟩
  | cons name rest ih =>
    obtain ⟨tail, after⟩ := ih
    obtain ⟨first, call⟩ := @promoteOne_run chat outcome (promotionOf chatId auth name)
    rw [promoteAll_cons]
    constructor
    · rw [Prog.exec_bind_ok first, Prog.exec_bind_ok tail]
      rfl
    · rw [Prog.calls_bind_ok first, Prog.calls_bind_ok tail, call, after]
      exact congrArg _ (List.append_nil _)

end Loop

/-! ## The request -/

section Request
variable {chatId : Str} {auth : AuthContext} {settings : Settings} {runtime : Runtime}
  {agents : List RagConfig} {chat : ChatSession} {outcome : Str → Except Failure Nat}

theorem mem_allNamespaces (ragNamespace : Str) :
    ragNamespace ∈ allNamespaces settings agents ↔ ragNamespace ∈ ragNamespaces settings agents := by
  rw [allNamespaces, ragNamespaces, List.mem_dedup, List.mem_toFinset]

theorem shareChat_admitted (promotes : runtime.Promotes) :
    shareChat chatId auth settings runtime agents = (do
      let _ ← verifyChatOwnership chatId auth
      let promoted ← promoteAll chatId auth (allNamespaces settings agents)
      ChatRepo.markShared chatId
      pure promoted) := by
  rw [shareChat, promotes.repository, promotes.supported, promotes.installed]
  rfl

theorem calls_verifyChatOwnership (own : chat.OwnedBy auth) :
    (verifyChatOwnership chatId auth).calls (promotionServer chat outcome) () = [.getChat chatId] := by
  have read : (ChatRepo.getChat chatId).exec (promotionServer chat outcome) () = (.ok (some chat), ()) :=
    Prog.exec_await ..
  rw [verifyChatOwnership, Prog.calls_bind_ok read]
  dsimp only
  rw [if_pos own]
  exact congrArg (· ++ []) (Prog.calls_await ..)

/-- The request asks for the chat, promotes each namespace and marks the chat. -/
theorem shareChat_run (promotes : runtime.Promotes) (own : chat.OwnedBy auth) :
    shareRun chatId auth settings runtime agents chat outcome =
        .ok ((allNamespaces settings agents).map (promotedPoints outcome)).sum ∧
      shareCalls chatId auth settings runtime agents chat outcome =
        .getChat chatId :: (allNamespaces settings agents).map (fun name =>
          .promoteScope (promotionOf chatId auth name)) ++ [.markShared chatId] := by
  obtain ⟨loop, promoted⟩ := @promoteAll_run chatId auth chat outcome (allNamespaces settings agents)
  have gate : (verifyChatOwnership chatId auth).exec (promotionServer chat outcome) () = (.ok chat, ()) :=
    exec_verifyChatOwnership rfl own
  have marks : (ChatRepo.markShared chatId).exec (promotionServer chat outcome) () = (.ok (), ()) :=
    Prog.exec_await ..
  rw [shareRun, shareCalls, shareChat_admitted promotes]
  constructor
  · rw [Prog.exec_bind_ok gate, Prog.exec_bind_ok loop, Prog.exec_bind_ok marks]
    rfl
  · rw [Prog.calls_bind_ok gate, Prog.calls_bind_ok loop, Prog.calls_bind_ok marks,
      calls_verifyChatOwnership own, promoted]
    rfl

theorem promotions_of_calls (names : List Str) :
    (Call.getChat chatId :: names.map (fun name => Call.promoteScope (promotionOf chatId auth name)) ++
      [Call.markShared chatId]).filterMap Call.promotion? = names.map (promotionOf chatId auth) := by
  rw [List.filterMap_append, List.filterMap_cons_none rfl, List.filterMap_map, List.filterMap_cons_none rfl,
    List.filterMap_nil, List.append_nil]
  exact congrFun List.filterMap_eq_map names

theorem marked_of_calls (names : List Str) :
    (Call.getChat chatId :: names.map (fun name => Call.promoteScope (promotionOf chatId auth name)) ++
      [Call.markShared chatId]).filterMap Call.marked? = [chatId] := by
  rw [List.filterMap_append, List.filterMap_cons_none rfl, List.filterMap_map]
  exact congrArg (· ++ [chatId]) (List.filterMap_eq_nil_iff.mpr fun _ _ => rfl)

/-- Every namespace is promoted once, the points of those that succeed are reported, and the chat
is marked shared whichever of them failed. -/
theorem share_marks_always (promotes : runtime.Promotes) (own : chat.OwnedBy auth) :
    PromotesEach chatId auth settings runtime agents chat outcome ∧
      markedShared chatId auth settings runtime agents chat outcome = [chatId] := by
  obtain ⟨run, calls⟩ := @shareChat_run chatId auth settings runtime agents chat outcome promotes own
  have promoted : (shareCalls chatId auth settings runtime agents chat outcome).filterMap Call.promotion? =
      (allNamespaces settings agents).map (promotionOf chatId auth) := by
    rw [calls, promotions_of_calls]
  have distinct : (allNamespaces settings agents).Nodup := List.nodup_dedup _
  refine ⟨⟨?_, ?_, ?_⟩, ?_⟩
  · rw [promoted]
    refine distinct.map fun first second same => ?_
    exact congrArg Promotion.ragNamespace same
  · intro promotion
    rw [promoted, List.mem_map]
    simp only [mem_allNamespaces, eq_comm]
  · have summed := List.sum_toFinset (promotedPoints outcome) distinct
    have same : (allNamespaces settings agents).toFinset = ragNamespaces settings agents := by
      ext name
      rw [List.mem_toFinset, mem_allNamespaces]
    rw [run, ← summed, same]
  · rw [markedShared, calls, marked_of_calls]

end Request

def sharedChat : ChatSession := ⟨"c-1".toList, "acme".toList, "ann".toList, "New chat".toList, false⟩

theorem share_marks_always_failing :
    PromotesEach "c-1".toList ⟨"acme".toList, "ann".toList, []⟩ {} {} [] sharedChat
        (fun _ => .error ⟨.timeout, rfl⟩) ∧
      markedShared "c-1".toList ⟨"acme".toList, "ann".toList, []⟩ {} {} [] sharedChat
        (fun _ => .error ⟨.timeout, rfl⟩) = ["c-1".toList] :=
  share_marks_always ⟨rfl, rfl, rfl⟩ ⟨rfl, rfl⟩

/-- With the only namespace failing, the chat is marked all the same. -/
theorem marked_without_promotion :
    ¬(PromotesEach "c-1".toList ⟨"acme".toList, "ann".toList, []⟩ {} {} [] sharedChat
        (fun _ => .error ⟨.timeout, rfl⟩) ∧
      MarkedWhenPromoted "c-1".toList ⟨"acme".toList, "ann".toList, []⟩ {} {} [] sharedChat
        (fun _ => .error ⟨.timeout, rfl⟩)) := by
  rintro ⟨_, onlyWhen⟩
  have marked : "c-1".toList ∈ markedShared "c-1".toList ⟨"acme".toList, "ann".toList, []⟩ {} {} []
      sharedChat (fun _ => .error ⟨.timeout, rfl⟩) := by
    decide
  have uploads := onlyWhen.mp marked "uploads".toList (by decide)
  exact absurd uploads (by decide)

end OrchidApi
