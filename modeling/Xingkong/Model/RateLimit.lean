import Mathlib.Logic.Function.Basic
import Mathlib.Data.List.Basic

/-!
# Rate limiters

`common/rate-limit.go` keeps a queue of Unix seconds per key in memory. The middleware
uses it when there is no Redis; with Redis it keeps a list of millisecond stamps per key
and issues one command after the other (`middleware/rate-limit.go`), and the limiter of
model requests has a handler of its own for either store
(`middleware/model-rate-limit.go`).

Times are what `time.Now()` returns, in milliseconds; a Unix second is the quotient by
1000 (`unix`). The text format of the stamps keeps milliseconds, so a stamp is its number.
-/

namespace Xingkong

def unix (ms : Int) : Int := ms / 1000

/-! ## In memory -/

structure InMemoryRateLimiter where
  /-- The queues, oldest second first; a nil map before `Init`. -/
  store : Option (String → Option (List Int))
  expirationDuration : Int

namespace InMemoryRateLimiter

/-- The first call decides; later ones find the store and do nothing. -/
def init (l : InMemoryRateLimiter) (expirationDuration : Int) : InMemoryRateLimiter :=
  match l.store with
  | some _ => l
  | none => { store := some fun _ => none, expirationDuration := expirationDuration }

/-- `int64(l.expirationDuration.Seconds())`. -/
def expirationSeconds (l : InMemoryRateLimiter) : Int := l.expirationDuration.tdiv 1000000000

def expired (l : InMemoryRateLimiter) (now : Int) (queue : List Int) : Bool :=
  match queue.getLast? with
  | none => true
  | some newest => l.expirationSeconds < now - newest

/-- One pass of the cleaner. `Init` starts it for a positive duration only. -/
def clearExpiredItems (l : InMemoryRateLimiter) (now : Int) : InMemoryRateLimiter :=
  if l.expirationDuration ≤ 0 then l
  else
    { l with
      store := l.store.map fun store key =>
        (store key).bind fun queue => if l.expired now queue then none else some queue }

/-- Is the request accepted, and the limiter after it. `none` is a panic: a write to the nil
map, or the oldest entry of an empty queue. -/
def request (l : InMemoryRateLimiter) (key : String) (maxRequestNum : Nat) (duration : Int)
    (now : Int) : Option (Bool × InMemoryRateLimiter) :=
  match l.store with
  | none => none
  | some store =>
    let write (queue : List Int) : InMemoryRateLimiter :=
      { l with store := some (Function.update store key (some queue)) }
    match store key with
    | some queue =>
      if queue.length < maxRequestNum then some (true, write (queue ++ [now]))
      else
        match queue with
        | [] => none
        | oldest :: rest =>
          if duration ≤ now - oldest then some (true, write (rest ++ [now]))
          else some (false, l)
    | none => some (true, write [now])

end InMemoryRateLimiter

/-! ## Model requests -/

inductive RateVerdict where
  | passed
  | successLimited
  | totalLimited
  | failed
  deriving DecidableEq

/-- A model request of one user: when it arrives, when the handlers behind the middleware
are done, and whether they answer with a status below 400. -/
structure ModelRequest where
  arrival : Int
  completion : Int
  succeeds : Bool
  deriving DecidableEq

structure ModelRateLimit where
  duration : Int
  totalMaxCount : Nat
  successMaxCount : Nat
  deriving DecidableEq

def totalKey (userId : String) : String := "MRRL" ++ userId

def successKey (userId : String) : String := "MRRLS" ++ userId

def checkKey (userId : String) : String := successKey userId ++ "_check"

/-- The verdict and the limiter afterwards; `none` is a panic. -/
def memoryRateLimitHandler (cfg : ModelRateLimit) (userId : String) (l : InMemoryRateLimiter)
    (r : ModelRequest) : Option (RateVerdict × InMemoryRateLimiter) :=
  let admitted (l : InMemoryRateLimiter) : Option (RateVerdict × InMemoryRateLimiter) :=
    match l.request (checkKey userId) cfg.successMaxCount cfg.duration (unix r.arrival) with
    | none => none
    | some (false, l) => some (.successLimited, l)
    | some (true, l) =>
      if r.succeeds then
        match l.request (successKey userId) cfg.successMaxCount cfg.duration
            (unix r.completion) with
        | none => none
        | some (_, l) => some (.passed, l)
      else some (.passed, l)
  if 0 < cfg.totalMaxCount then
    match l.request (totalKey userId) cfg.totalMaxCount cfg.duration (unix r.arrival) with
    | none => none
    | some (false, l) => some (.totalLimited, l)
    | some (true, l) => admitted l
  else admitted l

/-- The token bucket of `rate_limit.lua`: tokens and the second they were counted. -/
structure TokenBucket where
  tokens : Int
  lastTime : Int
  deriving DecidableEq

/-- What the script finds at `now`: a full bucket the first time, else what flowed in. -/
def TokenBucket.refill (bucket : Option TokenBucket) (rate capacity now : Int) : Int :=
  match bucket with
  | none => capacity
  | some b => min capacity (b.tokens + (now - b.lastTime) * rate)

def TokenBucket.allow (bucket : Option TokenBucket) (requested rate capacity now : Int) :
    Bool × TokenBucket :=
  let tokens := refill bucket rate capacity now
  if requested ≤ tokens then (true, ⟨tokens - requested, now⟩) else (false, ⟨tokens, now⟩)

/-- `int64(now.Sub(old).Seconds())`. -/
def secondsSince (old now : Int) : Int := (now - old).tdiv 1000

theorem le_secondsSince_iff {old now : Int} (h : old ≤ now) (d : Int) :
    d ≤ secondsSince old now ↔ old + 1000 * d ≤ now := by
  unfold secondsSince
  rw [Int.tdiv_eq_ediv_of_nonneg (by omega)]
  omega

/-- The stamps under a key, newest first, as `LPUSH` leaves them. `none` is a stamp that does
not parse, such as the missing element of an empty list. -/
def checkRedisRateLimit (stamps : List Int) (maxCount : Nat) (duration now : Int) :
    Option Bool :=
  if maxCount = 0 then some true
  else if stamps.length < maxCount then some true
  else
    match stamps.getLast? with
    | none => none
    | some old => some (duration ≤ secondsSince old now)

/-- `LTRIM key 0 maxCount-1`; the index -1 is the last element. -/
def ltrim (stamps : List Int) (maxCount : Nat) : List Int :=
  if maxCount = 0 then stamps else stamps.take maxCount

def recordRedisRequest (stamps : List Int) (maxCount : Nat) (now : Int) : List Int :=
  if maxCount = 0 then stamps else ltrim (now :: stamps) maxCount

/-- The user's keys in Redis. -/
structure RedisRateStore where
  success : List Int
  total : Option TokenBucket
  deriving DecidableEq

/-- A request over the total limit is aborted but the handler goes on: nothing runs behind
it and its status 429 is not recorded. -/
def redisRateLimitHandler (cfg : ModelRateLimit) (store : RedisRateStore) (r : ModelRequest) :
    RateVerdict × RedisRateStore :=
  let processed (store : RedisRateStore) : RateVerdict × RedisRateStore :=
    (.passed,
      if r.succeeds then
        { store with
          success := recordRedisRequest store.success cfg.successMaxCount r.completion }
      else store)
  match checkRedisRateLimit store.success cfg.successMaxCount cfg.duration r.arrival with
  | none => (.failed, store)
  | some false => (.successLimited, store)
  | some true =>
    if 0 < cfg.totalMaxCount then
      let (allowed, bucket) := TokenBucket.allow store.total cfg.duration cfg.totalMaxCount
        (cfg.totalMaxCount * cfg.duration) (unix r.arrival)
      if allowed then processed { store with total := some bucket }
      else (.totalLimited, { store with total := some bucket })
    else processed store

/-! ## One Redis key shared by many clients -/

/-- A key with its stamps, newest first, and when it expires. The clock and the stamps of
all accepted requests are part of the world, not of Redis. -/
structure RedisKey where
  stamps : List Int
  deadline : Option Int
  clock : Int
  accepted : List Int
  deriving DecidableEq

/-- Where a call of `redisRateLimiter` stands: what its last command gave it. -/
inductive LimiterCall where
  | idle
  | counted (listLength : Nat)
  | oldestRead (oldTime : Int)
  | allowed
  | stamped (trim : Bool) (now : Int)
  | pushed (trim : Bool)
  | trimmed
  | rejecting
  deriving DecidableEq

namespace RedisKey

def due (k : RedisKey) : Bool :=
  match k.deadline with
  | none => false
  | some deadline => deadline ≤ k.clock

/-- Time goes on; a key whose time has come is gone before the next command. -/
def elapse (k : RedisKey) (elapsed : Nat) : RedisKey :=
  let k := { k with clock := k.clock + elapsed }
  if k.due then { k with stamps := [], deadline := none } else k

/-- `EXPIRE` on a key that does not exist does nothing. -/
def expire (k : RedisKey) (ttl : Int) : RedisKey :=
  if k.stamps = [] then k else { k with deadline := some (k.clock + ttl) }

end RedisKey

structure RedisLimit where
  maxRequestNum : Nat
  duration : Int
  /-- `RateLimitKeyExpirationDuration`, in milliseconds. -/
  keyExpiration : Int
  deriving DecidableEq

/-- One command of a call, or one reading of the clock. A call that has run its course is
idle again. -/
def redisRateLimiter (cfg : RedisLimit) (call : LimiterCall) (k : RedisKey) :
    LimiterCall × RedisKey :=
  match call with
  | .idle => (.counted k.stamps.length, k)
  | .counted listLength =>
    if listLength < cfg.maxRequestNum then (.stamped false k.clock, k)
    else
      match k.stamps.getLast? with
      -- the empty text does not parse: the request ends with status 500
      | none => (.idle, k)
      | some oldTime => (.oldestRead oldTime, k)
  | .oldestRead oldTime =>
    if secondsSince oldTime k.clock < cfg.duration then (.rejecting, k) else (.allowed, k)
  | .allowed => (.stamped true k.clock, k)
  | .stamped trim now =>
    (.pushed trim, { k with stamps := now :: k.stamps, accepted := k.accepted ++ [now] })
  | .pushed trim =>
    if trim then (.trimmed, { k with stamps := ltrim k.stamps cfg.maxRequestNum })
    else (.idle, k.expire cfg.keyExpiration)
  | .trimmed => (.idle, k.expire cfg.keyExpiration)
  | .rejecting => (.idle, k.expire cfg.keyExpiration)

/-- A step of the shared system: time goes on, then one command. -/
def redisRateLimiterStep (cfg : RedisLimit) (call : LimiterCall) (elapsed : Nat)
    (k : RedisKey) : LimiterCall × RedisKey :=
  redisRateLimiter cfg call (k.elapse elapsed)

end Xingkong
