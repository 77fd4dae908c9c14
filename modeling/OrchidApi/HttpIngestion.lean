import Mathlib.Data.Char
import Mathlib.Data.List.Lex
import Mathlib.Data.List.Sort
import OrchidApi.Async
import OrchidApi.IsoTime
import OrchidApi.JsonText
import OrchidApi.Uuid

/-! `events/producers/http.py`: the route that takes signals from registered sources, and the
gate that its checks form in front of the dispatcher. -/
namespace OrchidApi
open Text Async

/-! ## Data -/

/-- The headers of a request with names in lower case, as they came in. -/
abbrev Headers := List (Str × Str)

/-- `d[key] = value` -/
def setItem (d : Headers) (key value : Str) : Headers :=
  if d.any (·.1 = key) then d.map fun item => if item.1 = key then (key, value) else item
  else d ++ [(key, value)]

namespace Headers

/-- `headers.get(name)`, the first header of the name -/
def get (headers : Headers) (name : String) : Option Str := headers.lookup name.toList

/-- `{k.lower(): v for k, v in headers.items()}` -/
def lowered (headers : Headers) : Headers :=
  headers.foldl (fun d item => setItem d (lower item.1) item.2) []

end Headers

structure SignalAuthRequest where
  sourceId : Str
  rawBody : List UInt8
  headers : Headers

/-- `SignalSource`; a validator accepts or raises `SignalAuthValidationError` with a text. -/
structure SignalSource where
  validator : SignalAuthRequest → Except Str Unit
  allowedTypes : List Str := []

structure SignalEnvelope where
  type : Str
  payload : Json.Dict
  source : Str
  occurredAt : Datetime
  tenantKey : Str
  userId : Option Str
  correlationId : Option Str
  dedupeKey : Option Str
  identityClaim : Option Json.Dict
  chatBinding : Option Json.Dict

structure IngestResult where
  signalId : Uuid
  deduplicated : Bool

/-- The `JSONResponse` of an accepted signal. -/
structure IngestResponse where
  statusCode : Nat := 202
  signalId : Str
  deduplicated : Bool

inductive IngestExn where
  | http (status : Nat) (detail : Str)
  | authValidation (text : Str)
  | sourceUnknown (text : Str)
  | typeNotAllowed (text : Str)
  | malformed (text : Str)

/-- `str(exc)` -/
def IngestExn.text : IngestExn → Str
  | .http _ text | .authValidation text | .sourceUnknown text | .typeNotAllowed text
  | .malformed text => text

/-- `loads` is a call too, for the order in which things happen. -/
inductive IngestCall where
  | body
  | validate (source : SignalSource) (request : SignalAuthRequest)
  | loads (raw : List UInt8)
  | now
  | ingest (envelope : SignalEnvelope)

def IngestCall.Reply : IngestCall → Type
  | .body => List UInt8
  | .validate _ _ => Unit
  | .loads _ => Json.Value
  | .now => Datetime
  | .ingest _ => IngestResult

abbrev IngestApi : Signature := ⟨IngestCall, IngestCall.Reply, IngestExn⟩

abbrev IngestHandler (α : Type) : Type := Prog IngestApi α

namespace Ingest

def await (c : IngestCall) : IngestHandler c.Reply := Prog.await (S := IngestApi) c
def raise (error : IngestExn) : IngestHandler α := Prog.raise (S := IngestApi) error

def body : IngestHandler (List UInt8) := await .body
def validate (source : SignalSource) (request : SignalAuthRequest) : IngestHandler Unit :=
  await (.validate source request)
def loads (raw : List UInt8) : IngestHandler Json.Value := await (.loads raw)
def now : IngestHandler Datetime := await .now
def ingest (envelope : SignalEnvelope) : IngestHandler IngestResult := await (.ingest envelope)

end Ingest

/-! ## The route -/

structure HTTPIngestionProducer where
  registry : Str → Option SignalSource
  maxBody : Nat := 1000000
  started : Bool := true

/-- `_str_or_none(body.get(key))` -/
def strOrNone (fields : Json.Dict) (key : String) : Option Str :=
  match fields.lookup key.toList with
  | some (.str (c :: rest)) => some (c :: rest)
  | _ => none

/-- `body.get(key)` when that is a dictionary. -/
def dictOrNone (fields : Json.Dict) (key : String) : Option Json.Dict :=
  match fields.lookup key.toList with
  | some (.obj entries) => some entries
  | _ => none

/-- `headers.get("idempotency-key") or body.get("dedupe_key")`, when that is a text. -/
def dedupeKeyOf (headers : Headers) (fields : Json.Dict) : Option Str :=
  match headers.get "idempotency-key" with
  | some (c :: rest) => some (c :: rest)
  | _ => strOrNone fields "dedupe_key"

section Route
variable (fromIsoformat : Str → Option Datetime) (isPrintable : Char → Bool)

/-- `_parse_occurred_at(body.get("occurred_at"))` -/
def parseOccurredAt (fields : Json.Dict) : IngestHandler Datetime :=
  match strOrNone fields "occurred_at" with
  | some value =>
    match Datetime.parseAware fromIsoformat value with
    | some parsed => pure parsed
    | none => Ingest.now
  | none => Ingest.now

/-- `f"{sorted(types)}"` -/
def reprSorted (types : List Str) : Str :=
  '[' :: ", ".toList.intercalate ((types.insertionSort (· ≤ ·)).map (reprStr isPrintable)) ++ [']']

def notAllowed (type sourceId : Str) (allowed : List Str) : IngestExn :=
  .http 403 ("signal type ".toList ++ reprStr isPrintable type ++ " is not allowed for source ".toList ++
    reprStr isPrintable sourceId ++ " (allow-list: ".toList ++ reprSorted isPrintable allowed ++ ")".toList)

/-- The answer of the dispatcher, as the route passes it on. -/
def dispatch (envelope : SignalEnvelope) : IngestHandler IngestResponse :=
  (Ingest.ingest envelope).attempt fun
    | .ok result => pure { signalId := result.signalId.text, deduplicated := result.deduplicated }
    | .error (.sourceUnknown text) => Ingest.raise (.http 404 text)
    | .error (.typeNotAllowed text) => Ingest.raise (.http 403 text)
    | .error error => Ingest.raise error

def envelopeOf (headers : Headers) (sourceId type tenantKey : Str) (fields : Json.Dict)
    (occurredAt : Datetime) : SignalEnvelope where
  type
  payload := (dictOrNone fields "payload").getD []
  source := sourceId
  occurredAt
  tenantKey
  userId := strOrNone fields "user_id"
  correlationId := strOrNone fields "correlation_id"
  dedupeKey := dedupeKeyOf headers fields
  identityClaim := dictOrNone fields "identity_claim"
  chatBinding := dictOrNone fields "chat_binding"

def ingestSignal (headers : Headers) (sourceId type tenantKey : Str) (fields : Json.Dict) :
    IngestHandler IngestResponse := do
  let occurredAt ← parseOccurredAt fromIsoformat fields
  dispatch (envelopeOf headers sourceId type tenantKey fields occurredAt)

/-- The checks on the fields of the body. -/
def ingestFields (headers : Headers) (sourceId : Str) (source : SignalSource) (fields : Json.Dict) :
    IngestHandler IngestResponse :=
  match strOrNone fields "type", strOrNone fields "tenant_key" with
  | none, _ => Ingest.raise (.http 400 "missing required field 'type'".toList)
  | some _, none => Ingest.raise (.http 400 "missing required field 'tenant_key'".toList)
  | some type, some tenantKey =>
    if !source.allowedTypes.isEmpty && !source.allowedTypes.contains type then
      Ingest.raise (notAllowed isPrintable type sourceId source.allowedTypes)
    else ingestSignal fromIsoformat headers sourceId type tenantKey fields

/-- `raw_body or b"{}"` -/
def orEmptyObject (raw : List UInt8) : List UInt8 := if raw.isEmpty then [0x7b, 0x7d] else raw

def parseBody (headers : Headers) (sourceId : Str) (source : SignalSource) (rawBody : List UInt8) :
    IngestHandler IngestResponse :=
  (Ingest.loads (orEmptyObject rawBody)).attempt fun
    | .error error => Ingest.raise (.http 400 ("body is not valid JSON: ".toList ++ error.text))
    | .ok (.obj fields) => ingestFields fromIsoformat isPrintable headers sourceId source fields
    | .ok _ => Ingest.raise (.http 400 "body must be a JSON object".toList)

def authenticate (headers : Headers) (sourceId : Str) (source : SignalSource) (rawBody : List UInt8) :
    IngestHandler IngestResponse :=
  (Ingest.validate source ⟨sourceId, rawBody, headers.lowered⟩).attempt fun
    | .error (.authValidation text) => Ingest.raise (.http 401 text)
    | .error error => Ingest.raise error
    | .ok _ => parseBody fromIsoformat isPrintable headers sourceId source rawBody

namespace HTTPIngestionProducer

/-- `_ingest` -/
def ingest (producer : HTTPIngestionProducer) (headers : Headers) : IngestHandler IngestResponse :=
  if producer.started = false then
    Ingest.raise (.http 503 "events dispatcher not started".toList)
  else match headers.get "x-orchid-source" with
  | none | some [] => Ingest.raise (.http 400 "missing X-Orchid-Source header".toList)
  | some sourceId =>
    match producer.registry sourceId with
    | none => Ingest.raise (.http 404 ("unknown source ".toList ++ reprStr isPrintable sourceId))
    | some source => do
      let rawBody ← Ingest.body
      if rawBody.length > producer.maxBody then
        Ingest.raise (.http 413 "request body too large".toList)
      else authenticate fromIsoformat isPrintable headers sourceId source rawBody

end HTTPIngestionProducer
end Route

/-! ## The gate -/

/-- `json.loads` as far as the route depends on it. -/
structure JsonLoads where
  run : List UInt8 → Except Str Json.Value
  empty_fails : ∀ value, run [] ≠ .ok value
  empty_object : run [0x7b, 0x7d] = .ok (.obj [])

/-- What lies outside the route; the dispatcher accepts or raises one of its two source errors. -/
structure IngestEnv where
  rawBody : List UInt8
  loads : JsonLoads
  clock : Datetime
  dispatcher : SignalEnvelope → Except IngestExn IngestResult
  documented : ∀ envelope error, dispatcher envelope = .error error →
    (∃ text, error = .sourceUnknown text) ∨ ∃ text, error = .typeNotAllowed text

def IngestEnv.answer (env : IngestEnv) : (c : IngestCall) → IngestApi.Answer c
  | .body => .ok env.rawBody
  | .validate source request => (source.validator request).mapError .authValidation
  | .loads raw => (env.loads.run raw).mapError .malformed
  | .now => .ok env.clock
  | .ingest envelope => env.dispatcher envelope

/-- Each call is answered, and written to the log. -/
def IngestEnv.serve (env : IngestEnv) (p : IngestHandler α) (log : List IngestCall) :
    Except IngestExn α × List IngestCall :=
  p.exec (fun c log => (env.answer c, log ++ [c])) log

def ingested (log : List IngestCall) : List SignalEnvelope :=
  log.filterMap fun
    | .ingest envelope => some envelope
    | _ => none

/-- The documented answers to a request that is not passed on. -/
def DocumentedRefusal (outcome : Except IngestExn IngestResponse) : Prop :=
  ∃ status detail, outcome = .error (.http status detail) ∧
    status ∈ [400, 401, 403, 404, 413, 503]

/-- Everything that a request must have to be passed on. -/
structure Admitted (producer : HTTPIngestionProducer) (headers : Headers) (env : IngestEnv)
    (sourceId type tenantKey : Str) (fields : Json.Dict) : Prop where
  started : producer.started = true
  named : headers.get "x-orchid-source" = some sourceId ∧ sourceId ≠ []
  size : env.rawBody.length ≤ producer.maxBody
  accepted : ∃ source, producer.registry sourceId = some source ∧
    source.validator ⟨sourceId, env.rawBody, headers.lowered⟩ = .ok () ∧
    (source.allowedTypes = [] ∨ type ∈ source.allowedTypes)
  parsed : env.loads.run env.rawBody = .ok (.obj fields)
  typed : fields.lookup "type".toList = some (.str type) ∧ type ≠ []
  tenant : fields.lookup "tenant_key".toList = some (.str tenantKey) ∧ tenantKey ≠ []

/-- The envelope belongs to the source, the type and the tenant, and has the key of the header,
or else the one in the body. -/
structure SignalEnvelope.AttributedTo (envelope : SignalEnvelope) (headers : Headers)
    (sourceId type tenantKey : Str) (fields : Json.Dict) : Prop where
  source : envelope.source = sourceId
  type : envelope.type = type
  tenant : envelope.tenantKey = tenantKey
  fromHeader : ∀ key, headers.get "idempotency-key" = some key → key ≠ [] →
    envelope.dedupeKey = some key
  fromBody : (∀ key, headers.get "idempotency-key" = some key → key = []) → ∀ key,
    envelope.dedupeKey = some key ↔ fields.lookup "dedupe_key".toList = some (.str key) ∧ key ≠ []

theorem strOrNone_iff {fields : Json.Dict} {key : String} {text : Str} :
    strOrNone fields key = some text ↔ fields.lookup key.toList = some (.str text) ∧ text ≠ [] := by
  unfold strOrNone
  split
  · rename_i c rest found
    rw [found]
    constructor
    · rintro ⟨⟩
      exact ⟨rfl, by simp⟩
    · rintro ⟨same, _⟩
      simpa using same
  · rename_i other
    refine ⟨nofun, fun ⟨found, nonempty⟩ => ?_⟩
    cases text with
    | nil => exact absurd rfl nonempty
    | cons c rest => exact absurd found (other c rest)

theorem dedupeKeyOf_header {headers : Headers} {key : Str} (fields : Json.Dict)
    (present : headers.get "idempotency-key" = some key) (nonempty : key ≠ []) :
    dedupeKeyOf headers fields = some key := by
  cases key with
  | nil => exact absurd rfl nonempty
  | cons c rest => rw [dedupeKeyOf, present]

theorem dedupeKeyOf_body {headers : Headers} (fields : Json.Dict)
    (absent : ∀ key, headers.get "idempotency-key" = some key → key = []) :
    dedupeKeyOf headers fields = strOrNone fields "dedupe_key" := by
  unfold dedupeKeyOf
  split
  · rename_i c rest present
    exact absurd (absent _ present) (by simp)
  · rfl

section Gate
variable {fromIsoformat : Str → Option Datetime} {isPrintable : Char → Bool}
  {producer : HTTPIngestionProducer} {headers : Headers} {env : IngestEnv} {log : List IngestCall}
  {sourceId type tenantKey : Str} {source : SignalSource} {fields : Json.Dict}

theorem serve_ingestCall (c : IngestCall) :
    env.serve (Ingest.await c) log = (env.answer c, log ++ [c]) :=
  Prog.exec_await ..

/-! ## From the envelope back to the body -/

theorem serve_parseOccurredAt (fields : Json.Dict) :
    ∃ occurredAt clock, (clock = [] ∨ clock = [.now]) ∧
      env.serve (parseOccurredAt fromIsoformat fields) log = (.ok occurredAt, log ++ clock) := by
  unfold parseOccurredAt
  have asked : env.serve Ingest.now log = (.ok env.clock, log ++ [.now]) := serve_ingestCall _
  split
  · split
    · exact ⟨_, [], .inl rfl, by rw [List.append_nil]; rfl⟩
    · exact ⟨_, _, .inr rfl, asked⟩
  · exact ⟨_, _, .inr rfl, asked⟩

/-- The dispatcher is called once, and what it says is passed on. -/
theorem serve_dispatch (envelope : SignalEnvelope) :
    ∃ outcome, env.serve (dispatch envelope) log = (outcome, log ++ [.ingest envelope]) ∧
      (DocumentedRefusal outcome ∨ ∃ response, outcome = .ok response ∧ response.statusCode = 202) := by
  have called : (Ingest.ingest envelope).exec (fun c log => (env.answer c, log ++ [c])) log =
      (env.dispatcher envelope, log ++ [.ingest envelope]) := serve_ingestCall _
  rw [dispatch, IngestEnv.serve, Prog.exec_attempt, called]
  cases decided : env.dispatcher envelope with
  | ok result => exact ⟨_, rfl, .inr ⟨_, rfl, rfl⟩⟩
  | error error =>
    rcases env.documented envelope error decided with ⟨text, rfl⟩ | ⟨text, rfl⟩
    · exact ⟨_, rfl, .inl ⟨404, text, rfl, by decide⟩⟩
    · exact ⟨_, rfl, .inl ⟨403, text, rfl, by decide⟩⟩

theorem ingested_append (first second : List IngestCall) :
    ingested (first ++ second) = ingested first ++ ingested second := by simp [ingested]

/-- The rest of the route passes the signal on, once. -/
def PassesOn (headers : Headers) (sourceId type tenantKey : Str) (fields : Json.Dict)
    (log : List IngestCall) (ended : Except IngestExn IngestResponse × List IngestCall) : Prop :=
  (∃ envelope rest, ended.2 = log ++ rest ∧ ingested rest = [envelope] ∧
      envelope.AttributedTo headers sourceId type tenantKey fields) ∧
    (DocumentedRefusal ended.1 ∨ ∃ response, ended.1 = .ok response ∧ response.statusCode = 202)

/-- The rest of the route passes nothing on. -/
def TurnsAway (log : List IngestCall)
    (ended : Except IngestExn IngestResponse × List IngestCall) : Prop :=
  (∃ rest, ended.2 = log ++ rest ∧ ingested rest = []) ∧ DocumentedRefusal ended.1

/-- The rest of the route passes just the good signals on. -/
def Decides (headers : Headers) (sourceId : Str) (good : Str → Str → Json.Dict → Prop)
    (log : List IngestCall) (ended : Except IngestExn IngestResponse × List IngestCall) : Prop :=
  (∀ type tenantKey fields, good type tenantKey fields →
      PassesOn headers sourceId type tenantKey fields log ended) ∧
    ((∀ type tenantKey fields, ¬good type tenantKey fields) → TurnsAway log ended)

section Decides
variable {good better : Str → Str → Json.Dict → Prop}
  {ended : Except IngestExn IngestResponse × List IngestCall}

/-- Calls in front that ingest nothing change nothing. -/
theorem Decides.after {earlier : List IngestCall} (quiet : ingested earlier = [])
    (decides : Decides headers sourceId good (log ++ earlier) ended) :
    Decides headers sourceId good log ended := by
  constructor
  · intro type tenantKey fields admitted
    obtain ⟨⟨envelope, rest, grown, one, attributed⟩, answered⟩ := decides.1 type tenantKey fields admitted
    refine ⟨⟨envelope, earlier ++ rest, ?_, ?_, attributed⟩, answered⟩
    · rw [grown, List.append_assoc]
    · rw [ingested_append, quiet, one, List.nil_append]
  · intro none
    obtain ⟨⟨rest, grown, nothing⟩, refused⟩ := decides.2 none
    refine ⟨⟨earlier ++ rest, ?_, ?_⟩, refused⟩
    · rw [grown, List.append_assoc]
    · rw [ingested_append, quiet, nothing, List.nil_append]

theorem Decides.grown (decides : Decides headers sourceId good log ended) :
    ∃ rest, ended.2 = log ++ rest := by
  by_cases admitted : ∃ type tenantKey fields, good type tenantKey fields
  · obtain ⟨type, tenantKey, fields, admitted⟩ := admitted
    obtain ⟨⟨_, rest, grown, _⟩, _⟩ := decides.1 type tenantKey fields admitted
    exact ⟨rest, grown⟩
  · obtain ⟨⟨rest, grown, _⟩, _⟩ := decides.2 fun type tenantKey fields found =>
      admitted ⟨type, tenantKey, fields, found⟩
    exact ⟨rest, grown⟩

theorem Decides.congr (same : ∀ type tenantKey fields, better type tenantKey fields ↔
    good type tenantKey fields) (decides : Decides headers sourceId good log ended) :
    Decides headers sourceId better log ended :=
  ⟨fun type tenantKey fields admitted => decides.1 _ _ _ ((same type tenantKey fields).mp admitted),
    fun none => decides.2 fun _ _ _ admitted => none _ _ _ ((same _ _ _).mpr admitted)⟩

/-- A documented error where no signal is good. -/
theorem decides_raise {status : Nat} (detail : Str) (none : ∀ type tenantKey fields, ¬good type tenantKey fields)
    (documented : status ∈ [400, 401, 403, 404, 413, 503]) :
    Decides headers sourceId good log (env.serve (Ingest.raise (.http status detail)) log) :=
  ⟨fun type tenantKey fields admitted => absurd admitted (none type tenantKey fields),
    fun _ => ⟨⟨[], (List.append_nil _).symm, rfl⟩, status, detail, rfl, documented⟩⟩

end Decides

theorem serve_ingestSignal (sourceId type tenantKey : Str) (fields : Json.Dict) :
    PassesOn headers sourceId type tenantKey fields log
      (env.serve (ingestSignal fromIsoformat headers sourceId type tenantKey fields) log) := by
  obtain ⟨occurredAt, clock, asked, dated⟩ :=
    @serve_parseOccurredAt fromIsoformat env log fields
  rw [ingestSignal, IngestEnv.serve, Prog.exec_bind_ok dated]
  obtain ⟨outcome, dispatched, answered⟩ := @serve_dispatch env (log ++ clock)
    (envelopeOf headers sourceId type tenantKey fields occurredAt)
  rw [← IngestEnv.serve, dispatched]
  refine ⟨⟨envelopeOf headers sourceId type tenantKey fields occurredAt, clock ++ [_],
    List.append_assoc _ _ _, ?_, ?_⟩, answered⟩
  · rcases asked with rfl | rfl <;> rfl
  · refine ⟨rfl, rfl, rfl, fun key present nonempty => dedupeKeyOf_header fields present nonempty, ?_⟩
    intro absent key
    rw [envelopeOf, dedupeKeyOf_body fields absent]
    exact strOrNone_iff

/-- What the fields of a body have to be. -/
def FieldsGood (source : SignalSource) (type tenantKey : Str) (fields : Json.Dict) : Prop :=
  strOrNone fields "type" = some type ∧ strOrNone fields "tenant_key" = some tenantKey ∧
    (source.allowedTypes = [] ∨ type ∈ source.allowedTypes)

theorem serve_ingestFields (fields : Json.Dict) :
    Decides headers sourceId
      (fun type tenantKey body => body = fields ∧ FieldsGood source type tenantKey body) log
      (env.serve (ingestFields fromIsoformat isPrintable headers sourceId source fields) log) := by
  unfold ingestFields
  cases typed : strOrNone fields "type" with
  | none =>
    refine decides_raise _ ?_ (by decide)
    rintro type tenantKey _ ⟨rfl, present, _⟩
    rw [typed] at present
    cases present
  | some type =>
    cases owned : strOrNone fields "tenant_key" with
    | none =>
      refine decides_raise _ ?_ (by decide)
      rintro type tenantKey _ ⟨rfl, _, present, _⟩
      rw [owned] at present
      cases present
    | some tenantKey =>
      dsimp only
      split
      · rename_i outside
        refine decides_raise _ ?_ (by decide)
        rintro other _ _ ⟨rfl, present, _, inside⟩
        obtain rfl := Option.some.inj (typed.symm.trans present)
        simp only [Bool.and_eq_true, Bool.not_eq_true', ← Bool.not_eq_true, List.isEmpty_iff,
          List.contains_iff_mem] at outside
        exact inside.elim outside.1 outside.2
      · rename_i inside
        have allowed : source.allowedTypes = [] ∨ type ∈ source.allowedTypes := by
          by_contra outside
          exact inside (by simpa using not_or.mp outside)
        refine ⟨?_, fun none => absurd ⟨rfl, typed, owned, allowed⟩ (none type tenantKey fields)⟩
        rintro other tenant _ ⟨rfl, sameType, sameTenant, _⟩
        obtain rfl := Option.some.inj (typed.symm.trans sameType)
        obtain rfl := Option.some.inj (owned.symm.trans sameTenant)
        exact serve_ingestSignal sourceId type tenantKey _

/-- What the bytes of a body have to be. -/
def BodyGood (env : IngestEnv) (source : SignalSource) (type tenantKey : Str) (fields : Json.Dict) :
    Prop :=
  env.loads.run env.rawBody = .ok (.obj fields) ∧ FieldsGood source type tenantKey fields

/-- An empty body is read as the empty object, which has no type. -/
theorem bodyGood_iff (source : SignalSource) (type tenantKey : Str) (fields : Json.Dict) :
    BodyGood env source type tenantKey fields ↔
      env.loads.run (orEmptyObject env.rawBody) = .ok (.obj fields) ∧
        FieldsGood source type tenantKey fields := by
  unfold BodyGood orEmptyObject
  cases raw : env.rawBody with
  | nil =>
    refine iff_of_false (fun ⟨loaded, _⟩ => env.loads.empty_fails _ loaded) ?_
    rintro ⟨loaded, typed, _⟩
    obtain rfl : [] = fields := by simpa [env.loads.empty_object] using loaded
    cases typed
  | cons byte rest => exact Iff.rfl

theorem serve_parseBody :
    Decides headers sourceId (BodyGood env source) log
      (env.serve (parseBody fromIsoformat isPrintable headers sourceId source env.rawBody) log) := by
  have loaded : (Ingest.loads (orEmptyObject env.rawBody)).exec
      (fun c log => (env.answer c, log ++ [c])) log =
      ((env.loads.run (orEmptyObject env.rawBody)).mapError .malformed,
        log ++ [.loads (orEmptyObject env.rawBody)]) := serve_ingestCall _
  refine Decides.congr (bodyGood_iff source) ?_
  refine @Decides.after headers log sourceId _ _ [.loads (orEmptyObject env.rawBody)] rfl ?_
  rw [parseBody, IngestEnv.serve, Prog.exec_attempt, loaded]
  cases parsed : env.loads.run (orEmptyObject env.rawBody) with
  | error text => exact decides_raise _ (by simp) (by decide)
  | ok value =>
    cases value with
    | obj fields =>
      refine Decides.congr (fun type tenantKey body => ?_) (serve_ingestFields fields)
      simp [eq_comm]
    | _ => exact decides_raise _ (by simp) (by decide)

/-- What the validator of the source is asked, with the bytes as they came in. -/
def authRequest (headers : Headers) (env : IngestEnv) (sourceId : Str) : SignalAuthRequest :=
  ⟨sourceId, env.rawBody, headers.lowered⟩

/-- Nothing is parsed unless the validator of the named source has accepted the bytes before. -/
def ParsedAfterValidation (producer : HTTPIngestionProducer) (headers : Headers) (env : IngestEnv)
    (log : List IngestCall) : Prop :=
  ∀ before raw after, log = before ++ .loads raw :: after →
    ∃ sourceId source, headers.get "x-orchid-source" = some sourceId ∧
      producer.registry sourceId = some source ∧
      source.validator (authRequest headers env sourceId) = .ok () ∧
      .validate source (authRequest headers env sourceId) ∈ before

/-- The validator is asked first, and its verdict decides whether the body is parsed. -/
theorem serve_validated :
    env.serve (authenticate fromIsoformat isPrintable headers sourceId source env.rawBody) log =
      match source.validator (authRequest headers env sourceId) with
      | .error text => env.serve (Ingest.raise (.http 401 text))
          (log ++ [.validate source (authRequest headers env sourceId)])
      | .ok _ => env.serve (parseBody fromIsoformat isPrintable headers sourceId source env.rawBody)
          (log ++ [.validate source (authRequest headers env sourceId)]) := by
  have asked : (Ingest.validate source (authRequest headers env sourceId)).exec
      (fun c log => (env.answer c, log ++ [c])) log =
      ((source.validator (authRequest headers env sourceId)).mapError .authValidation,
        log ++ [.validate source (authRequest headers env sourceId)]) := serve_ingestCall _
  rw [authenticate, IngestEnv.serve, Prog.exec_attempt, ← authRequest, asked]
  cases source.validator (authRequest headers env sourceId) <;> rfl

theorem serve_authenticate :
    Decides headers sourceId (fun type tenantKey fields =>
        source.validator (authRequest headers env sourceId) = .ok () ∧
          BodyGood env source type tenantKey fields) log
      (env.serve (authenticate fromIsoformat isPrintable headers sourceId source env.rawBody) log) := by
  refine @Decides.after headers log sourceId _ _
    [.validate source (authRequest headers env sourceId)] rfl ?_
  rw [serve_validated]
  cases source.validator (authRequest headers env sourceId) with
  | error text => exact decides_raise _ (by simp) (by decide)
  | ok accepted => exact Decides.congr (by simp) serve_parseBody

/-- The log of an authentication: the validator first, and more only if it accepts. -/
theorem authenticate_log : ∃ rest,
    (env.serve (authenticate fromIsoformat isPrintable headers sourceId source env.rawBody) log).2 =
        log ++ .validate source (authRequest headers env sourceId) :: rest ∧
      (source.validator (authRequest headers env sourceId) = .ok () ∨ rest = []) := by
  rw [serve_validated]
  cases source.validator (authRequest headers env sourceId) with
  | error text => exact ⟨[], rfl, .inr rfl⟩
  | ok accepted =>
    obtain ⟨rest, grown⟩ := (@serve_parseBody fromIsoformat isPrintable headers env
      (log ++ [.validate source (authRequest headers env sourceId)]) sourceId source).grown
    refine ⟨rest, ?_, .inl rfl⟩
    rw [List.append_assoc] at grown
    exact grown

/-- Everything about one request: what is passed on and for whom, what is refused, and in
which order. -/
structure IngestionGate (producer : HTTPIngestionProducer) (headers : Headers) (env : IngestEnv)
    (ended : Except IngestExn IngestResponse × List IngestCall) : Prop where
  once : (ingested ended.2).length = 1 ↔ ∃ sourceId type tenantKey fields,
    Admitted producer headers env sourceId type tenantKey fields
  attributed : ∀ sourceId type tenantKey fields,
    Admitted producer headers env sourceId type tenantKey fields →
      ∃ envelope, ingested ended.2 = [envelope] ∧
        envelope.AttributedTo headers sourceId type tenantKey fields
  answered : (∃ response, ended.1 = .ok response ∧ response.statusCode = 202) ∨
    DocumentedRefusal ended.1
  refused : (¬∃ sourceId type tenantKey fields,
      Admitted producer headers env sourceId type tenantKey fields) →
    ingested ended.2 = [] ∧ DocumentedRefusal ended.1
  order : ParsedAfterValidation producer headers env ended.2

/-- Deciding over the admitted signals is the gate. -/
theorem gate_of_decides {ended : Except IngestExn IngestResponse × List IngestCall}
    (named : ∀ other type tenantKey fields,
      Admitted producer headers env other type tenantKey fields → other = sourceId)
    (decides : Decides headers sourceId (Admitted producer headers env sourceId) [] ended)
    (order : ParsedAfterValidation producer headers env ended.2) :
    IngestionGate producer headers env ended := by
  have attributed : ∀ other type tenantKey fields,
      Admitted producer headers env other type tenantKey fields →
        (∃ envelope, ingested ended.2 = [envelope] ∧
          envelope.AttributedTo headers other type tenantKey fields) ∧
        (DocumentedRefusal ended.1 ∨ ∃ response, ended.1 = .ok response ∧ response.statusCode = 202) := by
    intro other type tenantKey fields admitted
    obtain rfl := named other type tenantKey fields admitted
    obtain ⟨⟨envelope, rest, grown, one, for_⟩, answered⟩ := decides.1 type tenantKey fields admitted
    exact ⟨⟨envelope, (congrArg ingested grown).trans one, for_⟩, answered⟩
  have refused : (¬∃ sourceId type tenantKey fields,
      Admitted producer headers env sourceId type tenantKey fields) →
        ingested ended.2 = [] ∧ DocumentedRefusal ended.1 := by
    intro none
    obtain ⟨⟨rest, grown, nothing⟩, refused⟩ := decides.2 fun type tenantKey fields admitted =>
      none ⟨sourceId, type, tenantKey, fields, admitted⟩
    exact ⟨(congrArg ingested grown).trans nothing, refused⟩
  refine ⟨⟨fun one => ?_, ?_⟩, fun _ _ _ _ admitted => (attributed _ _ _ _ admitted).1, ?_, refused, order⟩
  · by_contra none
    rw [(refused none).1] at one
    exact absurd one (by decide)
  · rintro ⟨other, type, tenantKey, fields, admitted⟩
    obtain ⟨⟨envelope, one, _⟩, _⟩ := attributed other type tenantKey fields admitted
    rw [one]
    rfl
  · by_cases admitted : ∃ sourceId type tenantKey fields,
        Admitted producer headers env sourceId type tenantKey fields
    · obtain ⟨other, type, tenantKey, fields, admitted⟩ := admitted
      exact (attributed other type tenantKey fields admitted).2.symm
    · exact .inr (refused admitted).2

/-- A request that is refused before its body is read. -/
theorem gate_refused {log : List IngestCall} {status : Nat} (detail : Str)
    (none : ∀ sourceId type tenantKey fields,
      ¬Admitted producer headers env sourceId type tenantKey fields)
    (documented : status ∈ [400, 401, 403, 404, 413, 503]) (early : ∀ c ∈ log, c = .body) :
    IngestionGate producer headers env (.error (.http status detail), log) := by
  have quiet : ingested log = [] := by
    refine List.filterMap_eq_nil_iff.mpr fun c member => ?_
    rw [early c member]
  refine gate_of_decides
    (fun other _ _ _ admitted => show other = ([] : Str) from absurd admitted (none _ _ _ _))
    ⟨fun _ _ _ admitted => absurd admitted (none _ _ _ _), fun _ =>
      ⟨⟨log, rfl, quiet⟩, status, detail, rfl, documented⟩⟩ ?_
  rintro before raw after rfl
  exact absurd (early (.loads raw) (by simp)) (by simp)

/-- A signal is ingested once and for its source, or refused as documented with nothing
ingested, and nothing is parsed before it is validated. -/
theorem ingestion_gate (fromIsoformat : Str → Option Datetime) (isPrintable : Char → Bool)
    (producer : HTTPIngestionProducer) (headers : Headers) (env : IngestEnv) :
    IngestionGate producer headers env
      (env.serve (producer.ingest fromIsoformat isPrintable headers) []) := by
  unfold HTTPIngestionProducer.ingest
  by_cases started : producer.started = false
  · rw [if_pos started]
    refine gate_refused _ (fun _ _ _ _ admitted => ?_) (by decide) (by simp)
    rw [admitted.started] at started
    cases started
  rw [if_neg started]
  cases named : headers.get "x-orchid-source" with
  | none =>
    refine gate_refused _ (fun _ _ _ _ admitted => ?_) (by decide) (by simp)
    rw [admitted.named.1] at named
    cases named
  | some sourceId =>
    have same : ∀ other type tenantKey fields,
        Admitted producer headers env other type tenantKey fields → other = sourceId :=
      fun _ _ _ _ admitted => Option.some.inj (admitted.named.1.symm.trans named)
    cases sourceId with
    | nil =>
      refine gate_refused _ (fun other _ _ _ admitted => ?_) (by decide) (by simp)
      exact admitted.named.2 (same _ _ _ _ admitted)
    | cons c rest =>
      dsimp only
      cases registered : producer.registry (c :: rest) with
      | none =>
        refine gate_refused _ (fun other _ _ _ admitted => ?_) (by decide) (by simp)
        obtain ⟨source, found, _⟩ := admitted.accepted
        rw [same _ _ _ _ admitted, registered] at found
        cases found
      | some source =>
        have read : Ingest.body.exec (fun c log => (env.answer c, log ++ [c])) [] =
            (.ok env.rawBody, [.body]) := serve_ingestCall _
        dsimp only
        rw [IngestEnv.serve, Prog.exec_bind_ok read]
        by_cases large : env.rawBody.length > producer.maxBody
        · rw [if_pos large]
          refine gate_refused _ (fun _ _ _ _ admitted => ?_) (by decide) (by simp)
          exact absurd admitted.size (by omega)
        · rw [if_neg large]
          have decides := @serve_authenticate fromIsoformat isPrintable headers env [.body] (c :: rest) source
          obtain ⟨rest', grown, accepted⟩ := @authenticate_log fromIsoformat isPrintable headers env
            [.body] (c :: rest) source
          refine gate_of_decides same (Decides.congr (fun type tenantKey fields => ?_)
            (@Decides.after headers [] (c :: rest) _ _ [.body] rfl decides)) ?_
          · constructor
            · rintro ⟨_, _, _, ⟨chosen, found, valid, allowed⟩, parsed, typed, tenant⟩
              obtain rfl := Option.some.inj (registered.symm.trans found)
              exact ⟨valid, parsed, strOrNone_iff.mpr typed, strOrNone_iff.mpr tenant, allowed⟩
            · rintro ⟨valid, parsed, typed, tenant, allowed⟩
              exact ⟨by simpa using started, ⟨named, by simp⟩, by omega, ⟨source, registered, valid, allowed⟩,
                parsed, strOrNone_iff.mp typed, strOrNone_iff.mp tenant⟩
          · intro before raw after split
            rw [IngestEnv.serve] at grown
            rw [grown] at split
            rcases before with _ | ⟨first, _ | ⟨second, before⟩⟩
            · simp at split
            · simp at split
            · simp only [List.cons_append, List.nil_append, List.cons.injEq] at split
              obtain ⟨rfl, rfl, parsed⟩ := split
              refine ⟨c :: rest, source, named, registered, ?_, by simp⟩
              exact accepted.resolve_right fun empty => by simp [empty] at parsed

end Gate

/-! A source with a validator that wants a signature. -/

/-- The reader of bodies in ASCII, which are all that `json.dumps` writes. -/
def asciiLoads : JsonLoads where
  run raw := ((raw.mapM fun byte => if byte < 128 then some (Char.ofNat byte.toNat) else none).bind
    Json.loads).elim (.error "Expecting value".toList) .ok
  empty_fails := nofun
  empty_object := rfl

def ticket : Json.Dict :=
  [("type".toList, Json.text "ticket"), ("tenant_key".toList, Json.text "acme"),
    ("dedupe_key".toList, Json.text "t-42")]

def ticketBody : List UInt8 := ((Json.Value.obj ticket).dumps fun _ => []).map fun c => UInt8.ofNat c.toNat

def ticketEnv (rawBody : List UInt8) : IngestEnv where
  rawBody
  loads := asciiLoads
  clock := ⟨[], none⟩
  dispatcher _ := .ok ⟨⟨7⟩, false⟩
  documented := by simp

def supportSystem : HTTPIngestionProducer where
  registry _ := some ⟨fun request =>
    if (request.headers.get "x-signature").isSome then .ok () else .error "unsigned".toList, []⟩

def signedBy (names : List Str) : Headers :=
  ("x-orchid-source".toList, "support".toList) :: names.map fun name => (name, "sig".toList)

def ingestedFrom (headers : Headers) (rawBody : List UInt8) :
    Except IngestExn IngestResponse × List IngestCall :=
  (ticketEnv rawBody).serve (supportSystem.ingest (fun _ => none) Char.isAlphanum headers) []

theorem ingestion_gate_ticket :
    IngestionGate supportSystem (signedBy ["x-signature".toList]) (ticketEnv ticketBody)
        (ingestedFrom (signedBy ["x-signature".toList]) ticketBody) ∧
      (ingested (ingestedFrom (signedBy ["x-signature".toList]) ticketBody).2).map SignalEnvelope.dedupeKey =
        [some "t-42".toList] ∧
      ingested (ingestedFrom (signedBy []) ticketBody).2 = [] :=
  ⟨ingestion_gate (fun _ => none) Char.isAlphanum supportSystem _ _, by decide +kernel, rfl⟩

end OrchidApi
