import RequestTracing.Text.Description

/-!
This module contains the sampling flags that travel with the identifiers of a trace. The decision to
sample has three states: yes, no, and left to the next process.
-/

namespace RequestTracing

structure SamplingFlags where
  bits : BitVec 8
  deriving DecidableEq

namespace SamplingFlags

def sampledBit : BitVec 8 := 0x02

def decidedBit : BitVec 8 := 0x04

def debugBit : BitVec 8 := 0x08

def localBit : BitVec 8 := 0x20

def empty : SamplingFlags :=
  ⟨0⟩

def sampledYes : SamplingFlags :=
  ⟨decidedBit ||| sampledBit⟩

def sampledNo : SamplingFlags :=
  ⟨decidedBit⟩

def forced : SamplingFlags :=
  ⟨decidedBit ||| sampledBit ||| debugBit⟩

instance : Inhabited SamplingFlags :=
  ⟨empty⟩

def ofDecision : Option Bool → SamplingFlags
  | some true => sampledYes
  | some false => sampledNo
  | none => empty

def sampled (f : SamplingFlags) : Option Bool :=
  if f.bits &&& decidedBit = 0 then none else some (f.bits &&& sampledBit ≠ 0)

def sampledLocal (f : SamplingFlags) : Bool :=
  f.bits &&& localBit ≠ 0

def debug (f : SamplingFlags) : Bool :=
  f.bits &&& debugBit ≠ 0

def and (f g : SamplingFlags) : SamplingFlags :=
  ⟨f.bits &&& g.bits⟩

def or (f g : SamplingFlags) : SamplingFlags :=
  ⟨f.bits ||| g.bits⟩

def not (f : SamplingFlags) : SamplingFlags :=
  ⟨~~~f.bits⟩

def withSampled (f : SamplingFlags) (decision : Option Bool) : SamplingFlags :=
  (f.and forced.not).or (ofDecision decision)

def withDebug (f : SamplingFlags) (debug : Bool) : SamplingFlags :=
  if debug then f.or forced else ⟨f.bits &&& ~~~debugBit⟩

def withSampledLocal (f : SamplingFlags) (sampledLocal : Bool) : SamplingFlags :=
  if sampledLocal then ⟨f.bits ||| localBit⟩ else ⟨f.bits &&& ~~~localBit⟩

def describe (f : SamplingFlags) : String :=
  Description.record "SamplingFlags"
    [("sampled", Description.option (f.sampled.map Description.bool)),
     ("sampled_local", Description.bool f.sampledLocal),
     ("debug", Description.bool f.debug)]

end SamplingFlags

end RequestTracing
