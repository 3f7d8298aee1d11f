import Mathlib.Algebra.Order.Field.Rat

namespace Knights.Net

/-!
# Net — token bucket and circuit breaker

The limiters of `server/core/net/resilience_controls.hpp`.  The bucket counts in doubles; here it
counts in rationals.  Every call is made under the object's mutex, so that it is one step.
-/

/-- A token bucket with a fixed burst and refill rate. -/
structure TokenBucket where
  refillPerSec : ℚ := 0
  burstTokens : ℚ := 0
  tokens : ℚ := 0
  lastRefillMs : UInt64 := 0
  deriving DecidableEq, Repr

namespace TokenBucket

/-- A bucket that is full. -/
def configure (tokensPerSec burstTokens : ℚ) : TokenBucket where
  refillPerSec := max 0 tokensPerSec
  burstTokens := max 0 burstTokens
  tokens := max 0 burstTokens

variable (b : TokenBucket) (now : UInt64)

/-- Add what has flowed in since the last refill; the first call only sets the clock. -/
def refill : TokenBucket :=
  if b.lastRefillMs = 0 then { b with lastRefillMs := now }
  else if now ≤ b.lastRefillMs then b
  else
    let elapsedMs : ℚ := (now - b.lastRefillMs).toNat
    { b with
      tokens := min b.burstTokens (b.tokens + b.refillPerSec * (elapsedMs / 1000))
      lastRefillMs := now }

/-- Take tokens out, if there are enough. -/
def consume (amount : ℚ := 1) : TokenBucket × Bool :=
  let b := b.refill now
  let required := max 0 amount
  if b.tokens < required then (b, false) else ({ b with tokens := b.tokens - required }, true)

/-- The tokens that are there. -/
def available : TokenBucket × ℚ :=
  let b := b.refill now
  (b, b.tokens)

end TokenBucket

/-- A circuit breaker that opens after a number of failures in a row. -/
structure CircuitBreaker where
  enabled : Bool := true
  failureThreshold : UInt32 := 5
  openWindowMs : UInt64 := 10000
  consecutiveFailures : UInt32 := 0
  openUntilMs : UInt64 := 0
  deriving DecidableEq, Repr

namespace CircuitBreaker

/-- A closed breaker. -/
def configure (enabled : Bool) (failureThreshold : UInt32) (openWindowMs : UInt64) :
    CircuitBreaker where
  enabled := enabled
  failureThreshold := max 1 failureThreshold
  openWindowMs := max 1 openWindowMs

variable (b : CircuitBreaker) (now : UInt64)

/-- The breaker is closed and has seen no failure. -/
def reset : CircuitBreaker :=
  { b with openUntilMs := 0, consecutiveFailures := 0 }

/-- May a connection be made?  A window that is over closes the breaker. -/
def allow : CircuitBreaker × Bool :=
  if !b.enabled then (b, true)
  else if b.openUntilMs = 0 then (b, true)
  else if b.openUntilMs ≤ now then (b.reset, true)
  else (b, false)

/-- A failure; the answer says whether it opened the breaker. -/
def recordFailure : CircuitBreaker × Bool :=
  if !b.enabled then (b, false)
  else if b.openUntilMs ≠ 0 ∧ now < b.openUntilMs then (b, false)
  else
    let b := if b.openUntilMs ≠ 0 then b.reset else b
    let b := { b with consecutiveFailures := b.consecutiveFailures + 1 }
    if b.failureThreshold ≤ b.consecutiveFailures then
      ({ b with openUntilMs := now + b.openWindowMs, consecutiveFailures := 0 }, true)
    else (b, false)

/-- A success. -/
def recordSuccess : CircuitBreaker :=
  if !b.enabled then b else b.reset

/-- Is the breaker open?  A window that is over closes it. -/
def isOpen : CircuitBreaker × Bool :=
  if !b.enabled then (b, false)
  else if b.openUntilMs = 0 then (b, false)
  else if b.openUntilMs ≤ now then (b.reset, false)
  else (b, true)

end CircuitBreaker

end Knights.Net
