import RequestTracing.Number.FloatText
import RequestTracing.Sampling.Counting
import RequestTracing.Sampling.RateLimiter
import RequestTracing.Trace.Error
import RequestTracing.Trace.Identifier

/-!
This module contains the samplers that decide whether a new trace is reported. A sampler sees no
more than the trace ID; where no trace ID is known yet, a random one takes its place.
-/

namespace RequestTracing

inductive Sampler where
  | always
  | never
  | ratio (share : Float)
  | counting (sampler : CountingSampler)
  | rateLimited (limiter : RateLimiter)

namespace Sampler

def ratioChecked (share : Float) : Except TraceError Sampler :=
  if 0 ≤ share ∧ share ≤ 1 then .ok (.ratio share)
  else .error (.ratioOutOfRange (Number.plain share))

/--
A share of every hundred decisions, cut to whole percent. The share is 0, 1 or at least 0.01 and
below 1.
-/
def ofRate (rate : Float) (draws : Draws) : Except TraceError (Sampler × Draws) :=
  if rate == 0 then
    .ok (.never, draws)
  else if rate == 1 then
    .ok (.always, draws)
  else if 0.01 ≤ rate ∧ rate < 1 then
    -- a product such as 0.57 * 100 falls just short of the whole number
    let count := (rate * 100 + 1e-9).toUInt64.toNat
    let (sampler, draws) := CountingSampler.choose draws count
    .ok (.counting sampler, draws)
  else
    .error (.rateOutOfRange (Number.plain rate))

def ofLimit (tracesPerSecond : UInt32) : Sampler :=
  if tracesPerSecond = 0 then .never else .rateLimited (.ofLimit tracesPerSecond)

def threshold (share : Float) : Nat :=
  let positive := if 0 < share then share else 0
  (positive * 9223372036854775808).toUInt64.toNat

/--
The decision of a share for a trace ID, which goes by the upper 63 bits of its lower half.
-/
def ratioSamples (share : Float) (traceId : TraceId) : Bool :=
  if 1 ≤ share then true else traceId.low.toNat / 2 < threshold share

def sample (sampler : Sampler) (now : UInt64) (traceId : TraceId) : Bool × Sampler :=
  match sampler with
  | always => (true, always)
  | never => (false, never)
  | ratio share => (ratioSamples share traceId, ratio share)
  | counting counter =>
    let (sampled, counter) := counter.sample
    (sampled, counting counter)
  | rateLimited limiter =>
    let (sampled, limiter) := limiter.sample now
    (sampled, rateLimited limiter)

def sampleUntraced (sampler : Sampler) (now : UInt64) (draws : Draws) : Bool × Sampler × Draws :=
  match sampler with
  | ratio share =>
    let (word, draws) := draws.next
    (ratioSamples share (TraceId.ofNat word.toNat), ratio share, draws)
  | _ =>
    let (sampled, sampler) := sampler.sample now .invalid
    (sampled, sampler, draws)

def sampleAll (sampler : Sampler) (now : UInt64) : List TraceId → List Bool
  | [] => []
  | traceId :: rest =>
    let (sampled, sampler) := sampler.sample now traceId
    sampled :: sampler.sampleAll now rest

def samplesPerHundred (sampler : Sampler) (now : UInt64) (rounds : Nat) : List Nat :=
  let decisions := sampler.sampleAll now (List.replicate (100 * rounds) .invalid)
  (List.range rounds).map fun round => ((decisions.drop (100 * round)).take 100).count true

def describe : Sampler → String
  | always => "AlwaysSample"
  | never => "NeverSample"
  | ratio share => Description.tagged "TraceIdRatioBased" [Number.described share]
  | counting sampler => Description.tagged "Counting" [sampler.describe]
  | rateLimited limiter => Description.tagged "RateLimited" [limiter.describe]

end Sampler

inductive SamplerSpec where
  | always
  | never
  | ratio (share : Float)
  | ratioChecked (share : Float)
  | counting (rate : Float)
  | limit (tracesPerSecond : UInt32)

namespace SamplerSpec

def build (spec : SamplerSpec) (draws : Draws) : Except TraceError (Sampler × Draws) :=
  match spec with
  | always => .ok (.always, draws)
  | never => .ok (.never, draws)
  | ratio share => .ok (.ratio share, draws)
  | ratioChecked share => do return (← Sampler.ratioChecked share, draws)
  | counting rate => Sampler.ofRate rate draws
  | limit tracesPerSecond => .ok (Sampler.ofLimit tracesPerSecond, draws)

end SamplerSpec

end RequestTracing
