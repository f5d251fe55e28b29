import Mathlib
import RequestTracing.Trace.Flags

/-!
This module contains what the operations on sampling flags do to the decision and to debug. Setting
either of them keeps debug flags sampled.
-/

namespace RequestTracing.SamplingFlags

def Coherent (flags : SamplingFlags) : Prop :=
  flags.debug → flags.sampled = some true

theorem coherent_ofDecision (decision : Option Bool) : (ofDecision decision).Coherent := by
  unfold Coherent
  revert decision
  decide

theorem coherent_forced : forced.Coherent := by
  unfold Coherent
  decide

theorem sampled_ofDecision (decision : Option Bool) : (ofDecision decision).sampled = decision := by
  revert decision
  decide

theorem sampled_withSampled (flags : SamplingFlags) (decision : Option Bool) :
    (flags.withSampled decision).sampled = decision := by
  obtain ⟨bits⟩ := flags
  revert bits decision
  decide +kernel

theorem debug_withSampled (flags : SamplingFlags) (decision : Option Bool) :
    (flags.withSampled decision).debug = false := by
  obtain ⟨bits⟩ := flags
  revert bits decision
  decide +kernel

theorem sampled_withSampledLocal (flags : SamplingFlags) (value : Bool) :
    (flags.withSampledLocal value).sampled = flags.sampled := by
  obtain ⟨bits⟩ := flags
  revert bits value
  decide +kernel

theorem debug_withSampledLocal (flags : SamplingFlags) (value : Bool) :
    (flags.withSampledLocal value).debug = flags.debug := by
  obtain ⟨bits⟩ := flags
  revert bits value
  decide +kernel

theorem debug_withDebug (flags : SamplingFlags) (value : Bool) :
    (flags.withDebug value).debug = value := by
  obtain ⟨bits⟩ := flags
  revert bits value
  decide +kernel

theorem coherent_withSampled (flags : SamplingFlags) (decision : Option Bool) :
    (flags.withSampled decision).Coherent := by
  intro hdebug
  rw [debug_withSampled] at hdebug
  simp at hdebug

theorem Coherent.withSampledLocal {flags : SamplingFlags} (h : flags.Coherent) (value : Bool) :
    (flags.withSampledLocal value).Coherent := by
  unfold Coherent
  rw [debug_withSampledLocal, sampled_withSampledLocal]
  exact h

theorem Coherent.withDebug {flags : SamplingFlags} (h : flags.Coherent) (value : Bool) :
    (flags.withDebug value).Coherent := by
  revert h
  unfold Coherent
  obtain ⟨bits⟩ := flags
  revert bits value
  decide +kernel

end RequestTracing.SamplingFlags
