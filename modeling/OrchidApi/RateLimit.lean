import Mathlib.Data.Rat.Floor
import OrchidApi.Effects

/-! `rate_limit.py`: token buckets per (tenant, user), and the limits of the two message
endpoints. Times are exact numbers of seconds on the monotonic clock. -/
namespace OrchidApi
open Text

/-- `_BucketState` -/
structure BucketState where
  tokens : ℚ
  lastRefill : ℚ
  deriving DecidableEq

/-- The constructor's two checks are its last two fields. Buckets stand in LRU order. -/
structure TokenBucketLimiter where
  capacity : ℚ
  refill : ℚ
  maxBuckets : Nat := 10000
  buckets : List (Str × BucketState) := []
  capable : 0 < capacity
  flows : 0 < refill

namespace TokenBucketLimiter

def init (capacity : Int) (refillPerSecond : ℚ) (maxBuckets : Nat := 10000) :
    Except Exn TokenBucketLimiter :=
  if capable : 0 < capacity then
    if flows : 0 < refillPerSecond then
      .ok { capacity, refill := refillPerSecond, maxBuckets, capable := Int.cast_pos.mpr capable, flows }
    else .error (.valueError "refill_per_second must be > 0".toList)
  else .error (.valueError "capacity must be > 0".toList)

/-- The tokens that a request for the key finds. -/
def available (l : TokenBucketLimiter) (key : Str) (now : ℚ) : ℚ :=
  match l.buckets.lookup key with
  | none => l.capacity
  | some state => min l.capacity (state.tokens + (now - state.lastRefill) * l.refill)

/-- The loop that makes room for a new key. An empty map has nothing to pop. -/
def popOldest (maxBuckets : Nat) :
    List (Str × BucketState) → Except Exn (List (Str × BucketState))
  | [] => if maxBuckets = 0 then .error .other else .ok []
  | oldest :: rest =>
    if maxBuckets ≤ rest.length + 1 then popOldest maxBuckets rest else .ok (oldest :: rest)

/-- The buckets of the other keys: a new key first evicts the least recently used. -/
def others (l : TokenBucketLimiter) (key : Str) : List (Str × BucketState) :=
  match l.buckets.lookup key with
  | none => l.buckets.drop (l.buckets.length + 1 - l.maxBuckets)
  | some _ => l.buckets.filter (·.1 ≠ key)

def store (l : TokenBucketLimiter) (key : Str) (state : BucketState) : TokenBucketLimiter :=
  { l with buckets := l.others key ++ [(key, state)] }

/-- Whether the request is allowed, and after how many seconds to retry. -/
def acquire (l : TokenBucketLimiter) (key : Str) (now : ℚ) : (Bool × ℚ) × TokenBucketLimiter :=
  if 1 ≤ l.available key now then
    ((true, 0), l.store key ⟨l.available key now - 1, now⟩)
  else
    ((false, (1 - l.available key now) / l.refill), l.store key ⟨l.available key now, now⟩)

end TokenBucketLimiter

/-- The dependency that `rate_limit` returns; without a bucket it is the no-op. -/
structure RateLimit where
  name : Str
  calls : Int
  period : ℚ
  bucket : Option TokenBucketLimiter

def rateLimit (name : Str) (calls : Int) (period : ℚ) : Except Exn RateLimit :=
  if calls ≤ 0 then .ok ⟨name, calls, period, none⟩
  else (TokenBucketLimiter.init calls (calls / period)).map (⟨name, calls, period, some ·⟩)

/-- The 429 response, with its `Retry-After` header. -/
structure TooManyRequests where
  detail : Str
  retryAfter : Nat
  deriving DecidableEq, Repr

def bucketKey (name : Str) (auth : AuthContext) : Str :=
  name ++ ":".toList ++ auth.tenantKey ++ ":".toList ++ auth.userId

def tooManyRequests (limit : RateLimit) (wait : ℚ) : TooManyRequests :=
  let seconds := max 1 (⌊wait⌋ + 1).toNat
  { detail := "Rate limit exceeded for `".toList ++ limit.name ++ "` (".toList ++
      Nat.toDigits 10 limit.calls.toNat ++ "/".toList ++ Nat.toDigits 10 ⌊limit.period⌋.toNat ++
      "s per user). Retry in ~".toList ++ Nat.toDigits 10 seconds ++ "s.".toList
    retryAfter := seconds }

/-- `_enforce`, or `_noop` -/
def RateLimit.enforce (limit : RateLimit) (auth : AuthContext) (now : ℚ) :
    Except TooManyRequests AuthContext × RateLimit :=
  match limit.bucket with
  | none => (.ok auth, limit)
  | some bucket =>
    let acquired := bucket.acquire (bucketKey limit.name auth) now
    (if acquired.1.1 then .ok auth else .error (tooManyRequests limit acquired.1.2),
      { limit with bucket := some acquired.2 })

/-! ## The message endpoints -/

/-- `POST /chats/{id}/messages` and `POST /chats/{id}/messages/stream` -/
inductive MessageRoute where
  | messages
  | stream
  deriving DecidableEq, Repr

/-- `_messages_rate_limit` and `_stream_rate_limit`, built where each module is imported. -/
structure MessageLimits where
  messages : RateLimit
  stream : RateLimit

def messagesLimit : Str := "messages".toList

def importLimits (callsPerMinute : Int) : Except Exn MessageLimits :=
  match rateLimit messagesLimit callsPerMinute 60, rateLimit messagesLimit callsPerMinute 60 with
  | .ok messages, .ok stream => .ok ⟨messages, stream⟩
  | .error error, _ => .error error
  | _, .error error => .error error

structure Arrival where
  route : MessageRoute
  auth : AuthContext
  time : ℚ

namespace MessageLimits

def on (limits : MessageLimits) : MessageRoute → RateLimit
  | .messages => limits.messages
  | .stream => limits.stream

def replace (limits : MessageLimits) (limit : RateLimit) : MessageRoute → MessageLimits
  | .messages => { limits with messages := limit }
  | .stream => { limits with stream := limit }

/-- One request at the gate of its endpoint: the new limits, and the request if admitted. -/
def arrive (limits : MessageLimits) (q : Arrival) : MessageLimits × List Arrival :=
  (limits.replace ((limits.on q.route).enforce q.auth q.time).2 q.route,
    match ((limits.on q.route).enforce q.auth q.time).1 with
    | .ok _ => [q]
    | .error _ => [])

end MessageLimits
end OrchidApi
