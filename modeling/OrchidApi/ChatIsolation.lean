import OrchidApi.ChatGate
import OrchidApi.ChatStorage

/-! Requests of any identities interleaved over one chat storage: none of them changes,
runs or reveals a chat that its caller has not created. -/
namespace OrchidApi
open Text Async

variable {σ : Type}

/-! ## Who created what -/

/-- The thread that a call runs the graph on. -/
def Call.runsOn : Call → Option Str
  | .astream thread _ | .ainvoke thread _ => some thread
  | _ => none

/-- The storage, and for each chat ever seen the identity whose request brought it about. -/
structure Attributed (σ : Type) where
  store : σ
  creator : Str → Option (Str × Str)

/-- The chats already stored count as created by their owners. -/
def ChatStorage.found (storage : ChatStorage σ) (store : σ) : Attributed σ :=
  ⟨store, fun id => (storage.chat store id).map ChatSession.owner⟩

/-- Every endpoint of the API over the storage, for callers of any identity. -/
def chatSystem (storage : ChatStorage σ) : System Api Caller Gate ApiResponse (Attributed σ) where
  start := Caller.handle
  fresh := .untried
  learn := Caller.learn
  serves caller w c answer w' := storage.serves w.store c answer w'.store ∧
    ∀ id, w'.creator id =
      (w.creator id).or ((storage.chat w'.store id).map fun _ => caller.auth.identity)

/-- Whether the endpoint is open to the caller for a chat: to its creator, and for the
event stream to an admin of the creator's tenant as well. -/
def Caller.MayReach (caller : Caller) (w : Attributed σ) (chatId : Str) : Prop :=
  ∃ creator, w.creator chatId = some creator ∧
    if caller.endpoint.isEvents then
      creator.1 = caller.auth.tenantKey ∧
        (creator.2 = caller.auth.userId ∨ "admin".toList ∈ caller.auth.roles)
    else creator = caller.auth.identity

/-! ## The invariant -/

structure Faithful (storage : ChatStorage σ) (w : Attributed σ) : Prop where
  owner : ∀ {id stored}, storage.chat w.store id = some stored → w.creator id = some stored.owner
  issued : ∀ {id creator}, w.creator id = some creator → storage.issued w.store id

/-- What the gate's state says about the world. -/
def Caller.Means (w : Attributed σ) (caller : Caller) : Gate → Prop
  | .cleared => ∃ chatId, caller.endpoint.target = some chatId ∧ caller.MayReach w chatId
  | .listed sessions => ∀ listed ∈ sessions, w.creator listed.id = some caller.auth.identity
  | _ => True

theorem found_faithful (storage : ChatStorage σ) (store : σ) : Faithful storage (storage.found store) where
  owner stored := congrArg (Option.map ChatSession.owner) stored
  issued := by
    intro id creator created
    obtain ⟨stored, present, _⟩ := Option.map_eq_some_iff.mp created
    exact storage.stored_issued present

section Step
variable {storage : ChatStorage σ} {w w' : Attributed σ} {caller : Caller} {known : Gate}
  {c : Call} {answer : Except Exn c.Reply}

/-- Attributions are never withdrawn. -/
theorem creator_kept (served : (chatSystem storage).serves caller w c answer w') {id : Str}
    {creator : Str × Str} (created : w.creator id = some creator) : w'.creator id = some creator := by
  rw [served.2, created]
  rfl

theorem creator_new (served : (chatSystem storage).serves caller w c answer w') {id : Str}
    {stored : ChatSession} (absent : w.creator id = none)
    (appears : storage.chat w'.store id = some stored) :
    w'.creator id = some caller.auth.identity := by
  rw [served.2, absent, appears]
  rfl

theorem mayReach_kept (served : (chatSystem storage).serves caller w c answer w') {other : Caller}
    {chatId : Str} (reach : other.MayReach w chatId) : other.MayReach w' chatId := by
  obtain ⟨creator, created, admitted⟩ := reach
  exact ⟨creator, creator_kept served created, admitted⟩

theorem means_kept (served : (chatSystem storage).serves caller w c answer w') {other : Caller}
    {fact : Gate} (holds : other.Means w fact) : other.Means w' fact := by
  cases fact with
  | cleared =>
    obtain ⟨chatId, target, reach⟩ := holds
    exact ⟨chatId, target, mayReach_kept served reach⟩
  | listed sessions => exact fun listed member => creator_kept served (holds listed member)
  | untried | refused | failed => trivial

theorem faithful_step (faithful : Faithful storage w) (allowed : caller.Allowed known c)
    (served : (chatSystem storage).serves caller w c answer w') : Faithful storage w' where
  owner := by
    intro id stored present
    rcases storage.origin served.1 present with ⟨earlier, before, same⟩ | ⟨fresh, new⟩
    · rw [same]
      exact creator_kept served (faithful.owner before)
    · obtain ⟨tenant, user, title, rfl, owned⟩ := new
      obtain ⟨_, rfl, rfl⟩ := allowed
      have absent : w.creator id = none := by
        cases created : w.creator id with
        | none => rfl
        | some creator => exact absurd (faithful.issued created) fresh
      rw [owned]
      exact creator_new served absent present
  issued := by
    intro id creator created
    cases before : w.creator id with
    | some earlier => exact storage.issued_kept served.1 (faithful.issued before)
    | none =>
      rw [served.2, before] at created
      obtain ⟨stored, present, _⟩ := Option.map_eq_some_iff.mp created
      exact storage.stored_issued present

/-- A lookup clears the request only for a chat that its caller may reach. -/
theorem means_learn (faithful : Faithful storage w) (holds : caller.Means w known)
    (allowed : caller.Allowed known c) (served : (chatSystem storage).serves caller w c answer w') :
    caller.Means w' (caller.learn known c answer) := by
  cases known with
  | cleared | refused | failed | listed => exact means_kept served holds
  | untried =>
    cases c with
    | getChat id =>
      rcases answer with error | found
      · trivial
      · cases found with
        | none => trivial
        | some stored =>
          change caller.Means w' (if caller.Passes stored then .cleared else .refused)
          split
          · rename_i passes
            have present := storage.getChat_reply served.1
            refine means_kept served ⟨id, allowed, stored.owner, faithful.owner present.symm, ?_⟩
            simp only [Caller.Passes] at passes
            split at passes
            · rename_i events
              rw [if_pos events]
              exact passes
            · rename_i plain
              rw [if_neg plain]
              exact Prod.ext passes.1 passes.2
          · trivial
    | listChats tenant user =>
      rcases answer with error | sessions
      · trivial
      · intro listed member
        obtain ⟨present, owned⟩ := storage.listChats_reply served.1 listed member
        obtain ⟨rfl, rfl⟩ := allowed
        apply creator_kept served
        rw [faithful.owner present, owned]
        rfl
    | _ => trivial

theorem chat_discipline (storage : ChatStorage σ) :
    Discipline (chatSystem storage) Caller.Allowed Caller.Post (Faithful storage) Caller.Means where
  starts := guarded_handle
  means_fresh _ _ := trivial
  keeps faithful _ allowed served := faithful_step faithful allowed served
  stable _ _ _ served _ _ holds := means_kept served holds
  learns faithful holds allowed served := means_learn faithful holds allowed served

/-! ## What a call may do -/

/-- A chat or thread that a call acts on. -/
def Call.ActsOn (c : Call) (id : Str) : Prop := c.writes = some id ∨ c.runsOn = some id

theorem eventCall_reads {chatId id : Str} (reads : EventCall chatId c) : ¬c.ActsOn id := by
  cases c with
  | listBoundRuns | subscribe | emitBloom | now => rintro (writes | runs) <;> contradiction
  | _ => exact False.elim reads

theorem ownCall_acts {chatId id : Str} {auth : AuthContext} (own : OwnCall chatId auth c)
    (acts : c.ActsOn id) : id = chatId := by
  cases c with
  | deleteChat | addMessage | updateTitle | markShared =>
    obtain rfl : _ = chatId := own
    rcases acts with writes | runs
    · exact (Option.some.inj writes).symm
    · contradiction
  | astream | ainvoke =>
    obtain rfl : _ = chatId := own
    rcases acts with writes | runs
    · contradiction
    · exact (Option.some.inj runs).symm
  | _ => rcases acts with writes | runs <;> contradiction

/-- Whatever an allowed call acts on has been created by its caller. -/
theorem acts_on_own (holds : caller.Means w known) (allowed : caller.Allowed known c) {id : Str}
    (acts : c.ActsOn id) :
    caller.endpoint.isEvents = false ∧ w.creator id = some caller.auth.identity := by
  have gated : known = .cleared ∧ ∃ chatId, caller.endpoint.target = some chatId ∧
      caller.Behind chatId c := by
    cases c with
    | getChat | listChats | createChat => rcases acts with writes | runs <;> contradiction
    | _ => exact allowed
  obtain ⟨rfl, chatId, target, behind⟩ := gated
  obtain ⟨cleared, same, creator, created, admitted⟩ := holds
  obtain rfl : chatId = cleared := Option.some.inj (target.symm.trans same)
  by_cases events : caller.endpoint.isEvents = true
  · rw [Caller.Behind, if_pos events] at behind
    exact absurd acts (eventCall_reads behind)
  · rw [Caller.Behind, if_neg events] at behind
    rw [if_neg events] at admitted
    rw [ownCall_acts behind acts, created, admitted]
    exact ⟨Bool.eq_false_iff.mpr events, rfl⟩

/-- Chats that the caller has not created stay as they are. -/
theorem foreign_unchanged (faithful : Faithful storage w) (holds : caller.Means w known)
    (allowed : caller.Allowed known c) (served : (chatSystem storage).serves caller w c answer w')
    {id : Str} (foreign : w'.creator id ≠ some caller.auth.identity) :
    storage.Unchanged w.store w'.store id := by
  apply storage.untouched served.1
  · intro writes
    have own := (acts_on_own holds allowed (.inl writes)).2
    exact foreign (creator_kept served own)
  · cases created : w.creator id with
    | some creator => exact .inl (faithful.issued created)
    | none =>
      cases appears : storage.chat w'.store id with
      | none => exact .inr rfl
      | some stored => exact absurd (creator_new served created appears) foreign

theorem events_targeted (events : caller.endpoint.isEvents = true) :
    caller.endpoint.target ≠ none := by
  cases chosen : caller.endpoint <;> simp_all [Endpoint.isEvents, Endpoint.target]

/-- The event stream only reads. -/
theorem events_unchanged (holds : caller.Means w known)
    (allowed : caller.Allowed known c) (served : (chatSystem storage).serves caller w c answer w')
    (events : caller.endpoint.isEvents = true) (id : Str) :
    storage.Unchanged w.store w'.store id := by
  apply storage.untouched served.1
  · intro writes
    have plain := (acts_on_own holds allowed (.inl writes)).1
    rw [plain] at events
    contradiction
  · cases appears : storage.chat w'.store id with
    | none => exact .inr rfl
    | some later =>
      rcases storage.origin served.1 appears with ⟨earlier, before, _⟩ | ⟨_, new⟩
      · exact .inl (storage.stored_issued before)
      · obtain ⟨tenant, user, title, rfl, _⟩ := new
        exact absurd allowed.1 (events_targeted events)

end Step

/-! ## Isolation -/

/-- What holds of the requests in progress and of those that have ended. -/
structure Isolated (storage : ChatStorage σ)
    (pool : Pool Api Caller Gate ApiResponse (Attributed σ)) : Prop where
  /-- The next call of a request leaves every chat and row as it is, except where its
  caller has created the chat; the event stream makes no exception. -/
  unchanged : ∀ {caller c next known}, ⟨caller, .call c next, known⟩ ∈ pool.tasks →
    ∀ {answer after}, (chatSystem storage).serves caller pool.world c answer after →
    ∀ id, after.creator id ≠ some caller.auth.identity ∨ caller.endpoint.isEvents = true →
    storage.Unchanged pool.world.store after.store id
  /-- The graph runs only on threads of chats that its caller has created. -/
  runs : ∀ {caller c next known}, ⟨caller, .call c next, known⟩ ∈ pool.tasks →
    ∀ {thread}, c.runsOn = some thread → pool.world.creator thread = some caller.auth.identity
  /-- A chat out of reach and a chat that does not exist have the same answer, which
  depends on the request alone. Only the lookup's own failure is passed on. -/
  denied : ∀ {task}, task ∈ pool.tasks → ∀ {outcome}, task.outcome = some outcome →
    ∀ {chatId}, task.owner.endpoint.target = some chatId →
    ¬task.owner.MayReach pool.world chatId → outcome = .error task.owner.denied ∨
      ∃ error, task.known = .failed error ∧ outcome = .error error
  listed : ∀ {task}, task ∈ pool.tasks → ∀ {out}, task.outcome = some (.ok (.sessions out)) →
    ∀ entry ∈ out, pool.world.creator entry.id = some task.owner.auth.identity

section Pool
variable {storage : ChatStorage σ} {pool : Pool Api Caller Gate ApiResponse (Attributed σ)}

theorem isolated_of_inOrder
    (order : InOrder (chatSystem storage) Caller.Allowed Caller.Post (Faithful storage) Caller.Means
      pool) : Isolated storage pool where
  unchanged := by
    intro caller c next known member answer after served id reason
    obtain ⟨holds, allowed, _⟩ := order.tasks _ member
    rcases reason with foreign | events
    · exact foreign_unchanged order.world holds allowed served foreign
    · exact events_unchanged holds allowed served events id
  runs := by
    intro caller c next known member thread runs
    obtain ⟨holds, allowed, _⟩ := order.tasks _ member
    exact (acts_on_own holds allowed (.inr runs)).2
  denied := by
    intro task member outcome finished chatId target hidden
    obtain ⟨holds, gated, _⟩ := order.outcome member finished
    rcases gated (by simp [target]) with cleared | refused | failed
    · rw [cleared] at holds
      obtain ⟨reached, same, reach⟩ := holds
      obtain rfl : chatId = reached := Option.some.inj (target.symm.trans same)
      exact absurd reach hidden
    · exact .inl refused
    · exact .inr failed
  listed := by
    intro task member out finished entry shown
    obtain ⟨holds, _, listing⟩ := order.outcome member finished
    obtain ⟨sessions, known, rfl⟩ := listing out rfl
    rw [known] at holds
    obtain ⟨listed, inside, rfl⟩ := List.mem_map.mp shown
    exact holds listed inside

end Pool

/-- From any store, whatever requests of whatever callers start and in whatever order
they take their steps. -/
theorem chat_isolation (storage : ChatStorage σ) (store : σ)
    {pool : Pool Api Caller Gate ApiResponse (Attributed σ)}
    (reaches : Reaches (chatSystem storage) ⟨storage.found store, []⟩ pool) :
    Isolated storage pool := by
  apply isolated_of_inOrder
  apply inOrder_reaches (chat_discipline storage) _ reaches
  exact ⟨found_faithful storage store, fun task none => absurd none List.not_mem_nil⟩

/-! A stranger of the same tenant asks to delete a chat, once its lookup has been answered. -/

def sampleStored : ChatSession :=
  ⟨"chat-0".toList, "t".toList, "u".toList, "New chat".toList, false⟩

def sampleStorage : { store : MemoryStore // store.WellFormed } :=
  ⟨{ sessions := [sampleStored], issued := 1 }, {
    distinct := List.nodup_singleton _
    numbered := fun _ member => ⟨0, Nat.one_pos, List.mem_singleton.mp member ▸ rfl⟩ }⟩

def sampleStranger : Caller :=
  { auth := { tenantKey := "t".toList, userId := "v".toList }
    endpoint := .deleteChat "chat-0".toList }

def samplePool : Pool Api Caller Gate ApiResponse (Attributed { store : MemoryStore // store.WellFormed }) :=
  ⟨(memoryStorage {}).found sampleStorage, [⟨sampleStranger, raise chatNotFound, .refused⟩]⟩

theorem samplePool_reached :
    Reaches (chatSystem (memoryStorage {})) ⟨(memoryStorage {}).found sampleStorage, []⟩ samplePool := by
  apply Relation.ReflTransGen.tail (.single (.spawn _ sampleStranger))
  have served : (chatSystem (memoryStorage {})).serves sampleStranger
      ((memoryStorage {}).found sampleStorage) (.getChat "chat-0".toList) (.ok (some sampleStored))
      ((memoryStorage {}).found sampleStorage) := by
    refine ⟨⟨rfl, rfl⟩, fun id => ?_⟩
    simp only [ChatStorage.found]
    cases (memoryStorage {}).chat sampleStorage id <;> rfl
  exact @Step.advance Api Caller Gate ApiResponse _ (chatSystem (memoryStorage {})) _ _ [] []
    sampleStranger (.getChat "chat-0".toList) _ .untried (.ok (some sampleStored)) served

theorem chat_isolation_sample :
    Isolated (memoryStorage {}) samplePool ∧
      (memoryStorage {}).chat samplePool.world.store "chat-0".toList = some sampleStored ∧
      ¬sampleStranger.MayReach samplePool.world "chat-0".toList ∧
      sampleStranger.denied = chatNotFound := by
  refine ⟨chat_isolation (memoryStorage {}) sampleStorage samplePool_reached, rfl, ?_, rfl⟩
  rintro ⟨creator, created, same⟩
  obtain rfl : sampleStored.owner = creator := Option.some.inj created
  exact absurd same (by decide)

end OrchidApi
