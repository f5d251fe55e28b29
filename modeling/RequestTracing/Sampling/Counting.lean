import RequestTracing.Sampling.Draws
import RequestTracing.Text.Description

/-!
This module contains the sampler that samples an exact share of every hundred decisions, at places
that are chosen at random when it is made.
-/

namespace RequestTracing

structure CountingSampler where
  decisions : Vector Bool 100
  counter : UInt64
  deriving DecidableEq

namespace CountingSampler

def ofPlaces (places : List Nat) : CountingSampler :=
  ⟨Vector.ofFn fun i => decide (i.val ∈ places), 0⟩

def choose (draws : Draws) (count : Nat) : CountingSampler × Draws :=
  let (places, draws) := draws.choose count (List.range 100)
  (ofPlaces places, draws)

def sample (sampler : CountingSampler) : Bool × CountingSampler :=
  (sampler.decisions.get ⟨sampler.counter.toNat % 100, Nat.mod_lt _ (by decide)⟩,
    { sampler with counter := sampler.counter + 1 })

def describe (sampler : CountingSampler) : String :=
  Description.record "CountingSampler"
    [("decisions", Description.list (sampler.decisions.toList.map Description.bool)),
     ("counter", toString sampler.counter.toNat)]

end CountingSampler

end RequestTracing
