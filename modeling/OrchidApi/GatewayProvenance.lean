import OrchidApi.GatewayPool
import OrchidApi.Slot

/-! What gateways read back over HTTP from a store that keeps its documented promises: whose
records, with whose changes, and each authorization code no more often than it was put. -/
namespace OrchidApi
open Text Async

/-! ## Slots -/

section Slots
variable {ρ δ : Type}

/-- A slot of the store that is empty at first, and what each call does to it. -/
structure Tracked (patched : ρ → δ → ρ) (slot : GatewayWorld → Option ρ)
    (effect : GatewayCall → Slot.Effect ρ δ) : Prop where
  empty : slot {} = none
  after : ∀ w c, slot (w.after c) = (effect c).apply patched (slot w)

/-- A request that was not refused had its effect, unless the store failed. -/
inductive Acts (cfg : GatewayStateConfig) (effect : GatewayCall → Slot.Effect ρ δ) :
    GatewayEntry → Slot.Effect ρ δ → Prop where
  | failed (request error) : Acts cfg effect (request, .error error) .keep
  | asked {authorization endpoint outcome c finish} (bears : Bears cfg.serviceToken authorization)
      (asks : Asks endpoint c finish) : Acts cfg effect (⟨authorization, endpoint⟩, outcome) (effect c)

variable {cfg : GatewayStateConfig} {patched : ρ → δ → ρ} {slot : GatewayWorld → Option ρ}
  {effect : GatewayCall → Slot.Effect ρ δ}

theorem Tracked.step (tracked : Tracked patched slot effect) {request : GatewayRequest}
    {outcome : Except Exn GatewayReply} {w w' : GatewayWorld}
    (run : Runs GatewayServes (request.handle cfg) w outcome w') :
    ∃ act, Acts cfg effect (request, outcome) act ∧ slot w' = act.apply patched (slot w) := by
  rcases runs_handle run with ⟨error, rfl, rfl⟩ | ⟨bears, c, finish, answer, asks, served, rfl⟩
  · exact ⟨.keep, .failed request error, rfl⟩
  · rcases answer with error | reply
    · rcases served with rfl | rfl
      · exact ⟨.keep, .failed request error, rfl⟩
      · exact ⟨effect c, .asked bears asks, tracked.after w c⟩
    · obtain ⟨_, rfl⟩ := served
      exact ⟨effect c, .asked bears asks, tracked.after w c⟩

/-- What a slot holds was put there by a request, and has only been changed since. -/
theorem Tracked.origin (tracked : Tracked patched slot effect) {order : List GatewayEntry}
    {w : GatewayWorld} (serial : Serial (documentedGateway cfg) {} order w) {value : ρ}
    (holds : slot w = some value) : Slot.HasOrigin (Acts cfg effect) patched order value := by
  revert value
  induction serial with
  | nil =>
    intro value holds
    rw [tracked.empty] at holds
    contradiction
  | snoc _ run ih =>
    intro value holds
    obtain ⟨act, acts, same⟩ := tracked.step run
    rw [same] at holds
    exact Slot.origin_step acts (fun _ => ih) holds

end Slots

/-! ### The three kinds -/

def clientEffect (clientId : Str) : GatewayCall → Slot.Effect GatewayClient Unit
  | .register record => if record.clientId = clientId then .set record else .keep
  | _ => .keep

def codeEffect (code : Str) : GatewayCall → Slot.Effect GatewayAuthCode GatewayAuthCodePatch
  | .put record => if record.code = code then .set record else .keep
  | .update other patch => if other = code then .change patch else .keep
  | .consume other => if other = code then .clear else .keep
  | _ => .keep

def tokenEffect (accessToken : Str) : GatewayCall → Slot.Effect GatewayToken Unit
  | .issue record => if record.accessToken = accessToken then .set record else .keep
  | .revoke other => if other = accessToken then .clear else .keep
  | _ => .keep

theorem clients_tracked (clientId : Str) :
    Tracked (fun record _ => record) (·.clients clientId) (clientEffect clientId) where
  empty := rfl
  after w c := by
    cases c with
    | register record =>
      by_cases same : record.clientId = clientId
      · simp [GatewayWorld.after, clientEffect, Slot.Effect.apply, same]
      · simp [GatewayWorld.after, clientEffect, Slot.Effect.apply, same, Ne.symm same]
    | _ => rfl

theorem codes_tracked (code : Str) :
    Tracked GatewayAuthCode.patched (·.codes code) (codeEffect code) where
  empty := rfl
  after w c := by
    cases c with
    | put record =>
      by_cases same : record.code = code
      · simp [GatewayWorld.after, codeEffect, Slot.Effect.apply, same]
      · simp [GatewayWorld.after, codeEffect, Slot.Effect.apply, same, Ne.symm same]
    | update other patch | consume other =>
      by_cases same : other = code
      · subst same
        simp [GatewayWorld.after, codeEffect, Slot.Effect.apply]
      · simp [GatewayWorld.after, codeEffect, Slot.Effect.apply, same, Ne.symm same]
    | _ => rfl

theorem tokens_tracked (accessToken : Str) :
    Tracked (fun record _ => record) (·.tokens accessToken) (tokenEffect accessToken) where
  empty := rfl
  after w c := by
    cases c with
    | issue record =>
      by_cases same : record.accessToken = accessToken
      · simp [GatewayWorld.after, tokenEffect, Slot.Effect.apply, same]
      · simp [GatewayWorld.after, tokenEffect, Slot.Effect.apply, same, Ne.symm same]
    | revoke other =>
      by_cases same : other = accessToken
      · subst same
        simp [GatewayWorld.after, tokenEffect, Slot.Effect.apply]
      · simp [GatewayWorld.after, tokenEffect, Slot.Effect.apply, same, Ne.symm same]
    | _ => rfl

/-! ## Whose records -/

section Sources
variable {cfg : GatewayStateConfig} {order : List GatewayEntry} {w : GatewayWorld}

/-- Patches of the code by admitted requests, in their order. Those that were accepted are
all there; one that failed may be. -/
inductive Patches (cfg : GatewayStateConfig) (code : Str) :
    List GatewayEntry → List GatewayAuthCodePatch → Prop where
  | nil : Patches cfg code [] []
  | took {request patch outcome late patches} (bears : Bears cfg.serviceToken request.authorization)
      (endpoint : request.endpoint = .patchAuthCode code patch) (rest : Patches cfg code late patches) :
      Patches cfg code ((request, outcome) :: late) (patch :: patches)
  | other {request outcome late patches}
      (idle : ∀ patch, request.endpoint = .patchAuthCode code patch → ∃ error, outcome = .error error)
      (rest : Patches cfg code late patches) : Patches cfg code ((request, outcome) :: late) patches

/-- The endpoints that put the code anew or take it out. -/
def Replaces (code : Str) : GatewayEndpoint → Prop
  | .putAuthCode payload => payload.code = code
  | .consumeAuthCode other => other = code
  | _ => False

theorem code_setter {code : Str} {entry : GatewayEntry} {first : GatewayAuthCode}
    (act : Acts cfg (codeEffect code) entry (.set first)) : ∃ payload,
      entry.1.endpoint = .putAuthCode payload ∧ payload.code = code ∧ payload.toRecord = first ∧
        Bears cfg.serviceToken entry.1.authorization := by
  generalize sets : Slot.Effect.set first = effect at act
  cases act with
  | failed => contradiction
  | asked bears asks =>
    cases asks with
    | putAuthCode payload =>
      simp only [codeEffect] at sets
      split at sets
      · rename_i same
        exact ⟨payload, rfl, same, (Slot.Effect.set.inj sets).symm, bears⟩
      · contradiction
    | patch other patch | consume other =>
      simp only [codeEffect] at sets
      split at sets <;> contradiction
    | _ => contradiction

/-- A request after the last put of the code that left it pending did not replace it. -/
theorem code_quiet {code : Str} {entry : GatewayEntry}
    {effect : Slot.Effect GatewayAuthCode GatewayAuthCodePatch}
    (act : Acts cfg (codeEffect code) entry effect) (quiet : effect.Quiet)
    (replaces : Replaces code entry.1.endpoint) : ∃ error, entry.2 = .error error := by
  cases act with
  | failed request error => exact ⟨error, rfl⟩
  | asked bears asks =>
    cases asks with
    | putAuthCode payload =>
      have sets : codeEffect code (.put payload.toRecord) = .set payload.toRecord := if_pos replaces
      rw [sets] at quiet
      exact False.elim quiet
    | consume other =>
      have clears : codeEffect code (.consume other) = .clear := if_pos replaces
      rw [clears] at quiet
      exact False.elim quiet
    | _ => exact False.elim replaces

theorem code_patches {code : Str} {late : List GatewayEntry}
    {effects : List (Slot.Effect GatewayAuthCode GatewayAuthCodePatch)}
    (acted : List.Forall₂ (Acts cfg (codeEffect code)) late effects) :
    Patches cfg code late (effects.filterMap Slot.Effect.patch?) := by
  induction acted with
  | nil => exact .nil
  | cons act _ ih =>
    cases act with
    | failed request error => exact .other (fun _ _ => ⟨error, rfl⟩) ih
    | asked bears asks =>
      cases asks with
      | patch other patch =>
        by_cases same : other = code
        · subst same
          simp only [codeEffect, List.filterMap_cons, Slot.Effect.patch?]
          exact .took bears rfl ih
        · simp only [codeEffect, if_neg same, List.filterMap_cons, Slot.Effect.patch?]
          refine .other ?_ ih
          intro patch given
          exact absurd (GatewayEndpoint.patchAuthCode.inj given).1 same
      | putAuthCode | consume =>
        simp only [codeEffect]
        split
        · exact .other nofun ih
        · exact .other nofun ih
      | _ => exact .other nofun ih

theorem patched_code (record : GatewayAuthCode) (patches : List GatewayAuthCodePatch) :
    (patches.foldl .patched record).code = record.code := by
  induction patches generalizing record with
  | nil => rfl
  | cons patch rest ih => exact ih (record.patched patch)

/-- An authorization code that was answered is one that an admitted request put, with the
patches since; nobody has taken it in between. -/
structure CodeSource (cfg : GatewayStateConfig) (before : List GatewayEntry) (dto : GatewayAuthCodeDTO)
    (early : List GatewayEntry) (setter : GatewayEntry) (payload : GatewayAuthCodeDTO)
    (late : List GatewayEntry) (patches : List GatewayAuthCodePatch) : Prop where
  split : before = early ++ setter :: late
  put : setter.1.endpoint = .putAuthCode payload
  code : payload.code = dto.code
  admitted : Bears cfg.serviceToken setter.1.authorization
  pending : ∀ entry ∈ late, Replaces dto.code entry.1.endpoint → ∃ error, entry.2 = .error error
  patched : Patches cfg dto.code late patches
  body : dto = .fromRecord (patches.foldl .patched payload.toRecord)

theorem code_source (serial : Serial (documentedGateway cfg) {} order w) {code : Str}
    {record : GatewayAuthCode} (holds : w.codes code = some record) : record.code = code ∧
      ∃ early setter payload late patches,
        CodeSource cfg order (.fromRecord record) early setter payload late patches := by
  obtain ⟨early, setter, first, late, effects, origin⟩ := (codes_tracked code).origin serial holds
  obtain ⟨payload, put, same, rfl, admitted⟩ := code_setter origin.sets
  have named : record.code = code := by
    rw [origin.value, patched_code]
    exact same
  refine ⟨named, early, setter, payload, late, effects.filterMap Slot.Effect.patch?, origin.split, put,
    same.trans named.symm, admitted, ?_, ?_, ?_⟩
  · intro entry member replaces
    obtain ⟨effect, act, quiet⟩ := origin.quiet_acts member
    exact code_quiet act quiet (named ▸ replaces)
  · change Patches cfg record.code late _
    rw [named]
    exact code_patches origin.acted
  · rw [← origin.value]

/-- A body that was answered is made of a reply of the store at that time. -/
theorem body_answered {before after : List GatewayEntry} {entry : GatewayEntry} {body : GatewayReply}
    (serial : Serial (documentedGateway cfg) {} (before ++ entry :: after) w)
    (answered : entry.2 = .ok body) : ∃ middle c finish reply,
      Serial (documentedGateway cfg) {} before middle ∧ Asks entry.1.endpoint c finish ∧
        middle.Answers c reply ∧ finish reply = .ok body := by
  obtain ⟨middle, next, earlier, run⟩ := serial.at
  rw [answered] at run
  rcases runs_handle run with ⟨error, impossible, _⟩ | ⟨_, c, finish, answer, asks, served, ends⟩
  · contradiction
  · rcases answer with error | reply
    · contradiction
    · exact ⟨middle, c, finish, reply, earlier, asks, served.1, ends.symm⟩

theorem wire_ok {render : α → GatewayReply} {missing : Exn} {reply : Option α} {body : GatewayReply}
    (ends : wire render missing reply = .ok body) : ∃ record, reply = some record ∧ render record = body := by
  rcases reply with _ | record
  · contradiction
  · exact ⟨record, rfl, Except.ok.inj ends⟩

/-- The code that the request names in its path or by its upstream state. -/
def AsksForCode (endpoint : GatewayEndpoint) (dto : GatewayAuthCodeDTO) : Prop :=
  endpoint = .consumeAuthCode dto.code ∨ endpoint = .lookupAuthCodeByUpstreamState dto.upstreamState

theorem code_answered {before after : List GatewayEntry} {entry : GatewayEntry} {dto : GatewayAuthCodeDTO}
    (serial : Serial (documentedGateway cfg) {} (before ++ entry :: after) w)
    (answered : entry.2 = .ok (.authCode dto)) : AsksForCode entry.1.endpoint dto ∧
      ∃ early setter payload late patches, CodeSource cfg before dto early setter payload late patches := by
  obtain ⟨middle, c, finish, reply, earlier, asks, answers, ends⟩ := body_answered serial answered
  generalize entry.1.endpoint = endpoint at asks
  cases asks with
  | lookup upstreamState =>
    obtain ⟨record, rfl, same⟩ := wire_ok ends
    obtain rfl := GatewayReply.authCode.inj same
    obtain ⟨code, holds, state⟩ := answers record rfl
    exact ⟨.inr (by rw [← state]; rfl), (code_source earlier holds).2⟩
  | consume code =>
    obtain ⟨record, rfl, same⟩ := wire_ok ends
    obtain rfl := GatewayReply.authCode.inj same
    obtain ⟨named, source⟩ := code_source earlier (answers record rfl)
    exact ⟨.inl (by rw [← named]; rfl), source⟩
  | getClient | byAccessToken | byRefreshToken =>
    obtain ⟨record, _, impossible⟩ := wire_ok ends
    contradiction
  | _ => simp at ends

/-! ### Tokens and clients -/

/-- The endpoints that issue the token anew or revoke it. -/
def Supersedes (accessToken : Str) : GatewayEndpoint → Prop
  | .issueToken payload => payload.accessToken = accessToken
  | .revokeToken other => other = accessToken
  | _ => False

/-- A token that was answered was issued as it is by an admitted request, and since then
neither revoked nor issued again. -/
structure TokenSource (cfg : GatewayStateConfig) (before : List GatewayEntry) (dto : GatewayTokenDTO)
    (early : List GatewayEntry) (setter : GatewayEntry) (late : List GatewayEntry) : Prop where
  split : before = early ++ setter :: late
  issued : setter.1.endpoint = .issueToken dto
  admitted : Bears cfg.serviceToken setter.1.authorization
  valid : ∀ entry ∈ late, Supersedes dto.accessToken entry.1.endpoint → ∃ error, entry.2 = .error error

theorem foldl_const (patches : List Unit) (record : α) :
    patches.foldl (fun record _ => record) record = record := by
  induction patches with
  | nil => rfl
  | cons _ _ ih => exact ih

theorem token_source (serial : Serial (documentedGateway cfg) {} order w) {accessToken : Str}
    {record : GatewayToken} (holds : w.tokens accessToken = some record) :
    record.accessToken = accessToken ∧
      ∃ early setter late, TokenSource cfg order (.fromRecord record) early setter late := by
  obtain ⟨early, setter, first, late, effects, origin⟩ := (tokens_tracked accessToken).origin serial holds
  obtain rfl : record = first := origin.value.trans (foldl_const _ _)
  have source : ∃ payload, setter.1.endpoint = .issueToken payload ∧ payload.toRecord = record ∧
      record.accessToken = accessToken ∧ Bears cfg.serviceToken setter.1.authorization := by
    have act := origin.sets
    generalize sets : Slot.Effect.set record = effect at act
    cases act with
    | failed => contradiction
    | asked bears asks =>
      cases asks with
      | issue payload =>
        simp only [tokenEffect] at sets
        split at sets
        · rename_i same
          obtain rfl := Slot.Effect.set.inj sets
          exact ⟨payload, rfl, rfl, same, bears⟩
        · contradiction
      | revoke other =>
        simp only [tokenEffect] at sets
        split at sets <;> contradiction
      | _ => contradiction
  obtain ⟨payload, issued, rfl, named, admitted⟩ := source
  refine ⟨named, early, setter, late, origin.split, issued, admitted, ?_⟩
  intro entry member supersedes
  obtain ⟨effect, act, quiet⟩ := origin.quiet_acts member
  cases act with
  | failed request error => exact ⟨error, rfl⟩
  | asked bears asks =>
    cases asks with
    | issue other =>
      have sets : tokenEffect accessToken (.issue other.toRecord) = .set other.toRecord :=
        if_pos (Eq.trans supersedes named)
      rw [sets] at quiet
      exact False.elim quiet
    | revoke other =>
      have clears : tokenEffect accessToken (.revoke other) = .clear := if_pos (Eq.trans supersedes named)
      rw [clears] at quiet
      exact False.elim quiet
    | _ => exact False.elim supersedes

/-- The request presented the one token or the other. -/
def Presents (endpoint : GatewayEndpoint) (dto : GatewayTokenDTO) : Prop :=
  ∃ body, endpoint = .introspectToken body ∧
    (body.accessToken = some dto.accessToken ∧ isGiven body.refreshToken = false ∨
      body.refreshToken = some dto.refreshToken ∧ isGiven body.accessToken = false)

theorem given_getD {text : Option Str} (given : isGiven text = true) : text = some (text.getD []) := by
  cases text with
  | none => contradiction
  | some _ => rfl

theorem token_answered {before after : List GatewayEntry} {entry : GatewayEntry} {dto : GatewayTokenDTO}
    (serial : Serial (documentedGateway cfg) {} (before ++ entry :: after) w)
    (answered : entry.2 = .ok (.token dto)) : Presents entry.1.endpoint dto ∧
      ∃ early setter late, TokenSource cfg before dto early setter late := by
  obtain ⟨middle, c, finish, reply, earlier, asks, answers, ends⟩ := body_answered serial answered
  generalize entry.1.endpoint = endpoint at asks
  cases asks with
  | byAccessToken body given alone =>
    obtain ⟨record, rfl, same⟩ := wire_ok ends
    obtain rfl := GatewayReply.token.inj same
    obtain ⟨named, source⟩ := token_source earlier (answers record rfl)
    refine ⟨⟨body, rfl, .inl ⟨?_, alone⟩⟩, source⟩
    rw [given_getD given, ← named]
    rfl
  | byRefreshToken body given alone =>
    obtain ⟨record, rfl, same⟩ := wire_ok ends
    obtain rfl := GatewayReply.token.inj same
    obtain ⟨accessToken, holds, refreshed⟩ := answers record rfl
    obtain ⟨_, source⟩ := token_source earlier holds
    refine ⟨⟨body, rfl, .inr ⟨?_, alone⟩⟩, source⟩
    rw [given_getD given, ← refreshed]
    rfl
  | getClient | lookup | consume =>
    obtain ⟨record, _, impossible⟩ := wire_ok ends
    contradiction
  | _ => simp at ends

/-- A client that was answered is the latest registration under the id. -/
structure ClientSource (cfg : GatewayStateConfig) (before : List GatewayEntry) (dto : GatewayClientDTO)
    (early : List GatewayEntry) (setter : GatewayEntry) (late : List GatewayEntry) : Prop where
  split : before = early ++ setter :: late
  registered : setter.1.endpoint = .registerClient dto
  admitted : Bears cfg.serviceToken setter.1.authorization
  latest : ∀ entry ∈ late, ∀ payload, entry.1.endpoint = .registerClient payload →
    payload.clientId = dto.clientId → ∃ error, entry.2 = .error error

theorem client_source (serial : Serial (documentedGateway cfg) {} order w) {clientId : Str}
    {record : GatewayClient} (holds : w.clients clientId = some record) :
    record.clientId = clientId ∧
      ∃ early setter late, ClientSource cfg order (.fromRecord record) early setter late := by
  obtain ⟨early, setter, first, late, effects, origin⟩ := (clients_tracked clientId).origin serial holds
  obtain rfl : record = first := origin.value.trans (foldl_const _ _)
  have source : ∃ payload, setter.1.endpoint = .registerClient payload ∧ payload.toRecord = record ∧
      record.clientId = clientId ∧ Bears cfg.serviceToken setter.1.authorization := by
    have act := origin.sets
    generalize sets : Slot.Effect.set record = effect at act
    cases act with
    | failed => contradiction
    | asked bears asks =>
      cases asks with
      | registerClient payload =>
        simp only [clientEffect] at sets
        split at sets
        · rename_i same
          obtain rfl := Slot.Effect.set.inj sets
          exact ⟨payload, rfl, rfl, same, bears⟩
        · contradiction
      | _ => contradiction
  obtain ⟨payload, registered, rfl, named, admitted⟩ := source
  refine ⟨named, early, setter, late, origin.split, registered, admitted, ?_⟩
  intro entry member other again same
  obtain ⟨effect, act, quiet⟩ := origin.quiet_acts member
  cases act with
  | failed request error => exact ⟨error, rfl⟩
  | asked bears asks =>
    obtain rfl : _ = GatewayEndpoint.registerClient other := again
    cases asks with
    | registerClient =>
      have sets : clientEffect clientId (.register other.toRecord) = .set other.toRecord :=
        if_pos (Eq.trans same named)
      rw [sets] at quiet
      exact False.elim quiet

theorem client_answered {before after : List GatewayEntry} {entry : GatewayEntry} {dto : GatewayClientDTO}
    (serial : Serial (documentedGateway cfg) {} (before ++ entry :: after) w)
    (answered : entry.2 = .ok (.client dto)) : entry.1.endpoint = .getClient dto.clientId ∧
      ∃ early setter late, ClientSource cfg before dto early setter late := by
  obtain ⟨middle, c, finish, reply, earlier, asks, answers, ends⟩ := body_answered serial answered
  generalize entry.1.endpoint = endpoint at asks
  cases asks with
  | getClient clientId =>
    obtain ⟨record, rfl, same⟩ := wire_ok ends
    obtain rfl := GatewayReply.client.inj same
    obtain ⟨named, source⟩ := client_source earlier (Eq.symm answers)
    exact ⟨by rw [← named]; rfl, source⟩
  | lookup | consume | byAccessToken | byRefreshToken =>
    obtain ⟨record, _, impossible⟩ := wire_ok ends
    contradiction
  | _ => simp at ends

end Sources

/-! ## One delivery a put -/

/-- The request took the code out and got it. -/
def delivers (code : Str) (entry : GatewayEntry) : Bool :=
  match entry.1.endpoint, entry.2 with
  | .consumeAuthCode other, .ok _ => other = code
  | _, _ => false

/-- The request was admitted to put the code; only the store can have kept it from that. -/
def puts (cfg : GatewayStateConfig) (code : Str) (entry : GatewayEntry) : Bool :=
  match entry.1.endpoint with
  | .putAuthCode payload => payload.code = code ∧ Bears cfg.serviceToken entry.1.authorization
  | _ => false

def GatewayWorld.pendingCount (w : GatewayWorld) (code : Str) : Nat := if (w.codes code).isSome then 1 else 0

section Counts
variable {cfg : GatewayStateConfig} {code : Str}

/-- A delivery takes out what was pending; only a put makes a code pending. -/
theorem pending_step {request : GatewayRequest} {outcome : Except GatewayApi.Exn GatewayReply}
    {w w' : GatewayWorld} (run : Runs GatewayServes (request.handle cfg) w outcome w') :
    w'.pendingCount code + (if delivers code (request, outcome) then 1 else 0) ≤
      w.pendingCount code + (if puts cfg code (request, outcome) then 1 else 0) := by
  by_cases delivered : delivers code (request, outcome) = true
  · obtain ⟨authorization, endpoint⟩ := request
    cases endpoint with
    | consumeAuthCode other =>
      rcases outcome with error | body
      · contradiction
      · obtain rfl : other = code := of_decide_eq_true delivered
        rcases runs_handle run with ⟨error, impossible, _⟩ | ⟨_, c, finish, answer, asks, served, ends⟩
        · contradiction
        · cases asks with
          | consume =>
            rcases answer with error | reply
            · contradiction
            · obtain ⟨answers, rfl⟩ := served
              obtain ⟨record, rfl, _⟩ := wire_ok ends.symm
              have before : w.codes other = some record := answers record rfl
              simp [GatewayWorld.pendingCount, GatewayWorld.after, before, delivered]
    | _ => contradiction
  · rw [if_neg delivered, Nat.add_zero]
    obtain ⟨act, acts, same⟩ := (codes_tracked code).step run
    change w'.codes code = act.apply .patched (w.codes code) at same
    rw [GatewayWorld.pendingCount, GatewayWorld.pendingCount, same]
    cases act with
    | set first =>
      obtain ⟨payload, put, named, _, bears⟩ := code_setter acts
      have counted : puts cfg code (request, outcome) = true := by
        have asked : request.endpoint = .putAuthCode payload := put
        have admitted : Bears cfg.serviceToken request.authorization := bears
        simp only [puts, asked, named, admitted, and_self, decide_true]
      rw [counted]
      simp [Slot.Effect.apply]
    | change patch => cases w.codes code <;> simp [Slot.Effect.apply]
    | clear => simp [Slot.Effect.apply]
    | keep => exact Nat.le_add_right _ _

theorem delivered_le {order : List GatewayEntry} {w : GatewayWorld}
    (serial : Serial (documentedGateway cfg) {} order w) :
    w.pendingCount code + order.countP (delivers code) ≤ order.countP (puts cfg code) := by
  induction serial with
  | nil => exact Nat.le_refl _
  | @snoc order owner outcome world world' _ run ih =>
    have step : world'.pendingCount code + (if delivers code (owner, outcome) then 1 else 0) ≤
        world.pendingCount code + (if puts cfg code (owner, outcome) then 1 else 0) := pending_step run
    rw [List.countP_append, List.countP_append, List.countP_singleton, List.countP_singleton]
    omega

end Counts

/-! ## Over any interleaving -/

structure CodesAccounted (cfg : GatewayStateConfig) (order : List GatewayEntry) : Prop where
  delivered : ∀ code, order.countP (delivers code) ≤ order.countP (puts cfg code)
  sourced : ∀ before entry after dto, order = before ++ entry :: after →
    entry.2 = .ok (.authCode dto) → AsksForCode entry.1.endpoint dto ∧
      ∃ early setter payload late patches, CodeSource cfg before dto early setter payload late patches

theorem auth_codes_accounted (cfg : GatewayStateConfig) {pool : GatewayPool GatewayWorld}
    (reaches : Reaches (documentedGateway cfg) ⟨{}, []⟩ pool) :
    ∃ order, Explains (documentedGateway cfg) {} order pool ∧ CodesAccounted cfg order := by
  obtain ⟨order, explains⟩ := serializable (handle_atomic cfg) (explains_start _) reaches
  refine ⟨[] ++ order, explains, ?_, ?_⟩
  · intro code
    exact Nat.le_trans (Nat.le_add_left _ _) (delivered_le explains.serial)
  · intro before entry after dto split answered
    exact code_answered (split ▸ explains.serial) answered

theorem auth_codes_accounted_shared :
    (sharedPool.tasks.filterMap Task.outcome).countP Except.isOk = 2 ∧
      ∃ order, Explains (documentedGateway sharedGateway) {} order sharedPool ∧
        CodesAccounted sharedGateway order :=
  ⟨by decide, auth_codes_accounted sharedGateway
    ((reaches_turns gatewayServer_serves _ _ _).trans (reaches_schedule gatewayServer_serves _ _))⟩

structure TokensAccounted (cfg : GatewayStateConfig) (order : List GatewayEntry) : Prop where
  tokens : ∀ before entry after dto, order = before ++ entry :: after →
    entry.2 = .ok (.token dto) → Presents entry.1.endpoint dto ∧
      ∃ early setter late, TokenSource cfg before dto early setter late
  clients : ∀ before entry after dto, order = before ++ entry :: after →
    entry.2 = .ok (.client dto) → entry.1.endpoint = .getClient dto.clientId ∧
      ∃ early setter late, ClientSource cfg before dto early setter late

theorem gateway_tokens_accounted (cfg : GatewayStateConfig) {pool : GatewayPool GatewayWorld}
    (reaches : Reaches (documentedGateway cfg) ⟨{}, []⟩ pool) :
    ∃ order, Explains (documentedGateway cfg) {} order pool ∧ TokensAccounted cfg order := by
  obtain ⟨order, explains⟩ := serializable (handle_atomic cfg) (explains_start _) reaches
  refine ⟨[] ++ order, explains, ?_, ?_⟩
  · intro before entry after dto split answered
    exact token_answered (split ▸ explains.serial) answered
  · intro before entry after dto split answered
    exact client_answered (split ▸ explains.serial) answered

def sharedToken : GatewayTokenDTO :=
  { accessToken := "at-1".toList, refreshToken := "rt-1".toList, clientId := "cli-abc".toList,
    subject := "u-42".toList, identity := [], scopes := [], expiresAt := 3600 }

def bearing (endpoint : GatewayEndpoint) : GatewayRequest := ⟨some "bearer sek".toList, endpoint⟩

/-- A token is issued, introspected, revoked and introspected again. -/
def tokenPool : GatewayPool GatewayWorld :=
  Pool.turns (documentedGateway sharedGateway) (fun _ => gatewayServer) {}
    ([.issueToken sharedToken, .introspectToken { accessToken := some "at-1".toList },
      .revokeToken "at-1".toList, .introspectToken { accessToken := some "at-1".toList }].map bearing)
    [0, 1, 2, 3]

theorem gateway_tokens_accounted_shared :
    (tokenPool.tasks.filterMap Task.outcome).map Except.isOk = [true, true, true, false] ∧
      ∃ order, Explains (documentedGateway sharedGateway) {} order tokenPool ∧
        TokensAccounted sharedGateway order :=
  ⟨by decide, gateway_tokens_accounted sharedGateway (reaches_turns gatewayServer_serves _ _ _)⟩

end OrchidApi
