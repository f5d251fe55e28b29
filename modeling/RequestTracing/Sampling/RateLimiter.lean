import RequestTracing.Text.Description

/-!
This module contains the sampler that grants a number of traces per second. Time is cut into windows
of one second; a window starts with the first decision after the last one ended. Within a window the
allowance grows in ten steps, so that a burst at its start cannot use up the whole second; a limit
below ten is available at once.
-/

namespace RequestTracing

inductive Allowance where
  | flat (limit : Nat)
  | stepped (totals : List Nat)
  deriving DecidableEq

namespace Allowance

/--
The allowance for a limit per second. What ten does not divide is granted in the first tenth.
-/
def ofLimit (limit : Nat) : Allowance :=
  if limit < 10 then
    .flat limit
  else
    .stepped ((List.range 10).map fun i => limit / 10 + limit % 10 + i * (limit / 10))

def total (allowance : Allowance) (elapsedNanos : Nat) : Nat :=
  match allowance with
  | .flat limit => limit
  | .stepped totals => totals.getD (min (elapsedNanos / 100000000) 9) 0

def describe : Allowance → String
  | .flat limit => Description.tagged "LessThan10" [toString limit]
  | .stepped totals => Description.tagged "AtLeast10" [Description.list (totals.map toString)]

end Allowance

/--
The window that is open and what was granted in it. Times are nanoseconds since the sampler was
made.
-/
structure RateLimiter where
  allowance : Allowance
  granted : Nat
  nextReset : Nat
  deriving DecidableEq

inductive ClockOverflow where
  | windowEnd
  deriving DecidableEq

namespace RateLimiter

def secondNanos : Nat :=
  1000000000

def ofLimit (limit : UInt32) : RateLimiter :=
  ⟨Allowance.ofLimit limit.toNat, 0, secondNanos⟩

/--
The sampler with a window that holds the given time: the open one, or a new one from that time on
when the open one has ended.
-/
def windowAt (limiter : RateLimiter) (now : UInt64) : Except ClockOverflow RateLimiter :=
  if limiter.nextReset ≤ now.toNat then
    if now.toNat + secondNanos < UInt64.size then
      .ok { limiter with granted := 0, nextReset := now.toNat + secondNanos }
    else
      .error .windowEnd
  else
    .ok limiter

def grant (limiter : RateLimiter) (now : UInt64) : Bool × RateLimiter :=
  let elapsed := secondNanos - (limiter.nextReset - now.toNat)
  if limiter.granted < limiter.allowance.total elapsed then
    (true, { limiter with granted := limiter.granted + 1 })
  else
    (false, limiter)

def checkAvailability (limiter : RateLimiter) (now : UInt64) :
    Except ClockOverflow (Bool × RateLimiter) := do
  let limiter ← limiter.windowAt now
  return limiter.grant now

def checkRepeatedly (limiter : RateLimiter) (now : UInt64) :
    Nat → Except ClockOverflow (Nat × RateLimiter)
  | 0 => .ok (0, limiter)
  | times + 1 => do
    let (sampled, limiter) ← limiter.checkAvailability now
    let (count, limiter) ← limiter.checkRepeatedly now times
    return (count + sampled.toNat, limiter)

def sample (limiter : RateLimiter) (now : UInt64) : Bool × RateLimiter :=
  match limiter.checkAvailability now with
  | .ok result => result
  | .error _ => (false, limiter)

def describe (limiter : RateLimiter) : String :=
  Description.record "RateLimitingSampler"
    [("max", limiter.allowance.describe), ("usage", toString limiter.granted)]

end RateLimiter

end RequestTracing
