import Mathlib.Data.List.Nodup
import OrchidApi.Storage

/-! What a chat storage documents about itself, as laws on any state, and the in-memory
storage as an instance of them. -/
namespace OrchidApi
open Text Async

def ChatSession.owner (chat : ChatSession) : Str × Str := (chat.tenantId, chat.userId)

/-- The chat that a call may change. -/
def Call.writes : Call → Option Str
  | .deleteChat id | .addMessage id _ | .updateTitle id _ | .markShared id => some id
  | _ => none

/-- A storage by what it documents. A call may also fail, with or without its effect, and
what lies outside the storage may answer anything. -/
structure ChatStorage (σ : Type) where
  chat : σ → Str → Option ChatSession
  rows : σ → Str → List Row
  /-- The ids handed out so far. -/
  issued : σ → Str → Prop
  serves : σ → (c : Call) → Except Exn c.Reply → σ → Prop
  getChat_reply : ∀ {s id reply s'}, serves s (.getChat id) (.ok reply) s' → reply = chat s id
  listChats_reply : ∀ {s tenant user s'} {sessions : List ChatSession},
    serves s (.listChats tenant user) (.ok sessions) s' →
    ∀ listed ∈ sessions, chat s listed.id = some listed ∧ listed.owner = (tenant, user)
  /-- Only the chat a call is given changes, and the chat that a creation adds. -/
  untouched : ∀ {s c answer s' id}, serves s c answer s' → c.writes ≠ some id →
    issued s id ∨ chat s' id = none → chat s' id = chat s id ∧ rows s' id = rows s id
  /-- A chat keeps its owner; a new one has an id never used and the owner it was given. -/
  origin : ∀ {s c answer s' id later}, serves s c answer s' → chat s' id = some later →
    (∃ earlier, chat s id = some earlier ∧ later.owner = earlier.owner) ∨
    (¬issued s id ∧ ∃ tenant user title, c = .createChat tenant user title ∧
      later.owner = (tenant, user))
  stored_issued : ∀ {s id stored}, chat s id = some stored → issued s id
  issued_kept : ∀ {s c answer s' id}, serves s c answer s' → issued s id → issued s' id

variable {σ : Type}

def ChatStorage.Unchanged (storage : ChatStorage σ) (s s' : σ) (id : Str) : Prop :=
  storage.chat s' id = storage.chat s id ∧ storage.rows s' id = storage.rows s id

/-! ## The in-memory storage -/

namespace MemoryStore

/-- An id handed out by the counter. -/
def Issued (store : MemoryStore) (id : Str) : Prop :=
  ∃ n < store.issued, id = "chat-".toList ++ Nat.toDigits 10 n

/-- Ids come from the counter, each once. -/
structure WellFormed (store : MemoryStore) : Prop where
  distinct : (store.sessions.map ChatSession.id).Nodup
  numbered : ∀ stored ∈ store.sessions, store.Issued stored.id

theorem freshId_not_issued (store : MemoryStore) : ¬store.Issued store.freshId := by
  rintro ⟨n, earlier, same⟩
  have digits := List.append_cancel_left same
  have value := congrArg (fun digits => Nat.ofDigitChars 10 digits 0) digits
  simp only [Nat.ofDigitChars_ten_toDigits] at value
  omega

/-- What a call leaves in the storage. -/
def after (store : MemoryStore) : Call → MemoryStore
  | .createChat tenant user title => (store.create tenant user title).1
  | .deleteChat id => store.delete id
  | .addMessage id row => store.addMessage id row
  | .updateTitle id title => store.updateTitle id title
  | .markShared id => store.markShared id
  | _ => store

theorem session_mem {store : MemoryStore} {id : Str} {stored : ChatSession}
    (found : store.session id = some stored) : stored ∈ store.sessions :=
  List.mem_of_find?_eq_some found

theorem session_of_mem {store : MemoryStore} (wf : store.WellFormed) {stored : ChatSession}
    (member : stored ∈ store.sessions) : store.session stored.id = some stored := by
  cases found : store.session stored.id with
  | none => exact absurd (decide_eq_true rfl) (List.find?_eq_none.mp found stored member)
  | some other =>
    have same := List.inj_on_of_nodup_map wf.distinct (session_mem found) member
      (store.session_id _ _ found)
    rw [same]

theorem session_delete (store : MemoryStore) (id other : Str) (distinct : other ≠ id) :
    (store.delete id).session other = store.session other := by
  rw [session, session, delete, List.find?_filter]
  congr 1
  funext stored
  by_cases same : stored.id = other <;> simp [same, distinct]

theorem session_delete_self (store : MemoryStore) (id : Str) : (store.delete id).session id = none := by
  simp [session, delete]

theorem rows_delete (store : MemoryStore) (id other : Str) (distinct : other ≠ id) :
    (store.delete id).rows other = store.rows other := by
  rw [rows, rows, delete, List.filter_filter]
  congr 2
  funext message
  by_cases same : message.1 = other <;> simp [same, distinct]

theorem session_modify_other (store : MemoryStore) (id other : Str) (change : ChatSession → ChatSession)
    (keeps : ∀ stored, (change stored).id = stored.id) (distinct : other ≠ id) :
    (store.modify id change).session other = store.session other := by
  rw [session_modify store id other change keeps]
  cases found : store.session other with
  | none => rfl
  | some stored =>
    have named := store.session_id other stored found
    simp [named, distinct]

theorem session_modify_owner (store : MemoryStore) (id other : Str)
    (change : ChatSession → ChatSession) (keeps : ∀ stored, (change stored).id = stored.id)
    (owned : ∀ stored, (change stored).owner = stored.owner) {later : ChatSession}
    (found : (store.modify id change).session other = some later) :
    ∃ earlier, store.session other = some earlier ∧ later.owner = earlier.owner := by
  rw [session_modify store id other change keeps] at found
  obtain ⟨earlier, before, rfl⟩ := Option.map_eq_some_iff.mp found
  refine ⟨earlier, before, ?_⟩
  split
  · exact owned earlier
  · rfl

theorem session_create (store : MemoryStore) (tenant user title other : Str) :
    (store.create tenant user title).1.session other =
      (store.session other).or (if store.freshId = other then
        some ⟨store.freshId, tenant, user, title, false⟩ else none) := by
  rw [session, create, List.find?_append]
  congr 1
  by_cases same : store.freshId = other <;> simp [same]

/-! ### The laws -/

theorem after_untouched {store : MemoryStore} {c : Call} {id : Str} (other : c.writes ≠ some id)
    (old : store.Issued id ∨ (store.after c).session id = none) :
    (store.after c).session id = store.session id ∧ (store.after c).rows id = store.rows id := by
  have distinct {given : Str} (writes : c.writes = some given) : id ≠ given := by
    rintro rfl
    exact other writes
  cases c with
  | deleteChat given =>
    exact ⟨store.session_delete _ _ (distinct rfl), store.rows_delete _ _ (distinct rfl)⟩
  | addMessage given row => simp [after, (distinct rfl).symm]
  | updateTitle given title =>
    exact ⟨store.session_modify_other _ _ _ (fun _ => rfl) (distinct rfl), rfl⟩
  | markShared given => exact ⟨store.session_modify_other _ _ _ (fun _ => rfl) (distinct rfl), rfl⟩
  | createChat tenant user title =>
    refine ⟨?_, rfl⟩
    have created := store.session_create tenant user title id
    have another : store.freshId ≠ id := by
      rintro rfl
      rcases old with issued | absent
      · exact store.freshId_not_issued issued
      · have present := created.symm.trans absent
        simp at present
    rw [if_neg another, Option.or_none] at created
    exact created
  | _ => exact ⟨rfl, rfl⟩

theorem after_origin {store : MemoryStore} {c : Call} {id : Str} {later : ChatSession}
    (found : (store.after c).session id = some later) :
    (∃ earlier, store.session id = some earlier ∧ later.owner = earlier.owner) ∨
    (¬store.Issued id ∧ ∃ tenant user title, c = .createChat tenant user title ∧
      later.owner = (tenant, user)) := by
  cases c with
  | createChat tenant user title =>
    have created := store.session_create tenant user title id
    rw [after, created] at found
    rcases Option.or_eq_some_iff.mp found with before | ⟨_, new⟩
    · exact .inl ⟨later, before, rfl⟩
    · split at new
      · rename_i same
        refine .inr ⟨same ▸ store.freshId_not_issued, tenant, user, title, rfl, ?_⟩
        rw [← Option.some.inj new]
        rfl
      · contradiction
  | deleteChat given =>
    by_cases same : id = given
    · rw [same, after, store.session_delete_self] at found
      contradiction
    · exact .inl ⟨later, store.session_delete given id same ▸ found, rfl⟩
  | updateTitle given title =>
    exact .inl (store.session_modify_owner given id (fun stored => { stored with title })
      (fun _ => rfl) (fun _ => rfl) found)
  | markShared given =>
    exact .inl (store.session_modify_owner given id (fun stored => { stored with isShared := true })
      (fun _ => rfl) (fun _ => rfl) found)
  | _ => exact .inl ⟨later, found, rfl⟩

theorem after_issued {store : MemoryStore} {c : Call} {id : Str} (issued : store.Issued id) :
    (store.after c).Issued id := by
  obtain ⟨n, earlier, named⟩ := issued
  refine ⟨n, ?_, named⟩
  cases c with
  | createChat => exact Nat.lt_succ_of_lt earlier
  | _ => exact earlier

theorem modify_ids (store : MemoryStore) (id : Str) (change : ChatSession → ChatSession)
    (keeps : ∀ stored, (change stored).id = stored.id) :
    (store.modify id change).sessions.map ChatSession.id = store.sessions.map ChatSession.id := by
  rw [modify, List.map_map]
  apply List.map_congr_left
  intro stored _
  simp only [Function.comp_apply]
  split
  · exact keeps stored
  · rfl

/-- Well-formedness by the ids alone. -/
theorem wellFormed_iff (store : MemoryStore) : store.WellFormed ↔
    (store.sessions.map ChatSession.id).Nodup ∧
      ∀ id ∈ store.sessions.map ChatSession.id, store.Issued id := by
  constructor
  · intro wf
    exact ⟨wf.distinct, List.forall_mem_map.mpr wf.numbered⟩
  · rintro ⟨distinct, numbered⟩
    exact ⟨distinct, List.forall_mem_map.mp numbered⟩

theorem modify_wellFormed {store : MemoryStore} (wf : store.WellFormed) (id : Str)
    (change : ChatSession → ChatSession) (keeps : ∀ stored, (change stored).id = stored.id) :
    (store.modify id change).WellFormed := by
  rw [wellFormed_iff, store.modify_ids id change keeps]
  exact store.wellFormed_iff.mp wf

theorem after_wellFormed {store : MemoryStore} (wf : store.WellFormed) (c : Call) :
    (store.after c).WellFormed := by
  cases c with
  | createChat tenant user title =>
    constructor
    · rw [after, create, List.map_append, List.nodup_append]
      refine ⟨wf.distinct, List.nodup_singleton _, ?_⟩
      rintro id old fresh new rfl
      obtain ⟨stored, member, rfl⟩ := List.mem_map.mp old
      have issued := wf.numbered stored member
      rw [List.mem_singleton.mp new] at issued
      exact store.freshId_not_issued issued
    · intro stored member
      rcases List.mem_append.mp member with old | new
      · exact after_issued (c := .createChat tenant user title) (wf.numbered stored old)
      · rw [List.mem_singleton.mp new]
        exact ⟨store.issued, Nat.lt_succ_self _, rfl⟩
  | deleteChat given =>
    constructor
    · exact wf.distinct.sublist (List.filter_sublist.map _)
    · intro stored member
      exact wf.numbered stored (List.mem_filter.mp member).1
  | updateTitle given title => exact modify_wellFormed wf _ _ fun _ => rfl
  | markShared given => exact modify_wellFormed wf _ _ fun _ => rfl
  | addMessage given row => exact ⟨wf.distinct, wf.numbered⟩
  | _ => exact wf

end MemoryStore

theorem server_store (b : Backend) (c : Call) (w : World) :
    (server b c w).2.store = w.store.after c := by
  cases c <;> rfl

/-- The in-memory storage keeps the documented behaviour, whatever lies outside it. -/
def memoryStorage (b : Backend) : ChatStorage { store : MemoryStore // store.WellFormed } where
  chat s := s.val.session
  rows s := s.val.rows
  issued s := s.val.Issued
  serves s c answer s' :=
    (server b c ⟨s.val, []⟩).1 = answer ∧ (server b c ⟨s.val, []⟩).2.store = s'.val
  getChat_reply served := (Except.ok.inj served.1).symm
  listChats_reply := by
    rintro s tenant user s' sessions ⟨answered, _⟩ listed member
    obtain rfl := Except.ok.inj answered
    obtain ⟨stored, pair⟩ := List.mem_filter.mp member
    have pair := of_decide_eq_true pair
    exact ⟨MemoryStore.session_of_mem s.property stored, Prod.ext pair.1 pair.2⟩
  untouched := by
    rintro s c answer s' id ⟨_, next⟩ other old
    rw [server_store] at next
    rw [← next] at old ⊢
    exact MemoryStore.after_untouched other old
  origin := by
    rintro s c answer s' id later ⟨_, next⟩ found
    rw [server_store] at next
    rw [← next] at found
    exact MemoryStore.after_origin found
  stored_issued {s id stored} found := by
    have issued := s.property.numbered stored (MemoryStore.session_mem found)
    rwa [s.val.session_id id stored found] at issued
  issued_kept := by
    rintro s c answer s' id ⟨_, next⟩ issued
    rw [server_store] at next
    rw [← next]
    exact MemoryStore.after_issued issued

/-- It answers every call. -/
theorem memoryStorage_serves (b : Backend) (s : { store : MemoryStore // store.WellFormed })
    (c : Call) : ∃ s', (memoryStorage b).serves s c (server b c ⟨s.val, []⟩).1 s' :=
  ⟨⟨s.val.after c, MemoryStore.after_wellFormed s.property c⟩, rfl, server_store b c _⟩

end OrchidApi
