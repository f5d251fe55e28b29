import Mathlib
import RequestTracing.Proofs.Trace.Context
import RequestTracing.Proofs.Trace.Flags

/-!
This module contains when a context that is built step by step forces its trace to be sampled. The
steps that write the flags may come in any order and any number: what counts is the last one that
forces, and what came after it.
-/

namespace RequestTracing

variable {β : Type}

namespace ContextSetting

def forces : ContextSetting β → Bool
  | .debug value => value
  | .samplingFlags flags => flags.debug
  | _ => false

def negates : ContextSetting β → Bool
  | .sampled decision => decision != some true
  | .debug value => !value
  | .samplingFlags flags => !flags.debug
  | _ => false

def replaces : ContextSetting β → Bool
  | .sampled _ => true
  | setting => setting.negates

end ContextSetting

namespace ContextBuilder

/--
The trace was forced, by the values at the start or by a step, and no step since the last one that
forced it undoes that.
-/
structure DebugStands (undoes : ContextSetting β → Bool) (start : ContextBuilder β)
    (settings : List (ContextSetting β)) : Prop where
  forced : start.flags.debug ∨ ∃ setting ∈ settings, setting.forces
  kept : ∀ setting ∈ settings.rtakeWhile (!·.forces), undoes setting = false

section DebugStands

variable {undoes : ContextSetting β → Bool} {start : ContextBuilder β}
  {settings : List (ContextSetting β)} {setting : ContextSetting β}

theorem debugStands_nil : DebugStands undoes start [] ↔ start.flags.debug := by
  constructor
  . intro h
    simpa using h.forced
  . intro h
    exact ⟨.inl h, by simp⟩

theorem debugStands_of_forces (h : setting.forces) :
    DebugStands undoes start (settings ++ [setting]) := by
  refine ⟨.inr ⟨setting, by simp, h⟩, ?_⟩
  rw [List.rtakeWhile_concat_neg _ _ _ (by simpa using h)]
  simp

theorem debugStands_of_not_forces (h : ¬setting.forces) :
    DebugStands undoes start (settings ++ [setting]) ↔
      undoes setting = false ∧ DebugStands undoes start settings := by
  have hafter : (settings ++ [setting]).rtakeWhile (!·.forces) =
      settings.rtakeWhile (!·.forces) ++ [setting] :=
    List.rtakeWhile_concat_pos _ _ _ (by simpa using h)
  have hforced : (∃ other ∈ settings ++ [setting], other.forces) ↔
      ∃ other ∈ settings, other.forces := by
    simp [or_and_right, exists_or, h]
  constructor
  . intro hstands
    have hkept := hstands.kept
    rw [hafter] at hkept
    refine ⟨hkept setting (by simp), ?_, fun other hmem => hkept other (by simp [hmem])⟩
    simpa only [hforced] using hstands.forced
  . intro ⟨hsetting, hstands⟩
    refine ⟨by simpa only [hforced] using hstands.forced, ?_⟩
    rw [hafter]
    intro other hmem
    obtain hmem | rfl := by simpa using hmem
    . exact hstands.kept other hmem
    . exact hsetting

end DebugStands

theorem debug_set (builder : ContextBuilder β) (setting : ContextSetting β) :
    (builder.set setting).flags.debug =
      (setting.forces || !setting.replaces && builder.flags.debug) := by
  unfold set ContextSetting.forces ContextSetting.replaces ContextSetting.negates
  cases setting with
  | sampled decision => exact SamplingFlags.debug_withSampled _ decision
  | sampledLocal value => exact SamplingFlags.debug_withSampledLocal _ value
  | debug value =>
    dsimp only
    rw [SamplingFlags.debug_withDebug]
    cases value <;> rfl
  | samplingFlags flags =>
    dsimp only
    cases flags.debug <;> rfl
  | _ => rfl

theorem setAll_concat (start : ContextBuilder β) (settings : List (ContextSetting β))
    (setting : ContextSetting β) :
    start.setAll (settings ++ [setting]) = (start.setAll settings).set setting :=
  List.foldl_concat ..

theorem debug_setAll (start : ContextBuilder β) (settings : List (ContextSetting β)) :
    (start.setAll settings).flags.debug ↔ DebugStands ContextSetting.replaces start settings := by
  -- From the end of the list, where the steps that count stand.
  induction settings using List.reverseRecOn with
  | nil => exact debugStands_nil.symm
  | append_singleton settings setting ih =>
    rw [setAll_concat, debug_set]
    by_cases hforces : setting.forces
    . simp [hforces, debugStands_of_forces]
    . rw [debugStands_of_not_forces hforces, ← ih]
      simp [hforces]

/--
A context forces its trace exactly when its builder was told so and no step undid it since. To
confirm the decision undoes it as well.
-/
theorem debug_of_build {start : ContextBuilder β} {settings : List (ContextSetting β)}
    {context : TraceContext β} (h : (start.setAll settings).build = .ok context) :
    context.debug ↔ DebugStands ContextSetting.replaces start settings := by
  obtain ⟨_, _, rfl⟩ := build_eq_ok_iff.1 h
  exact debug_setAll start settings

theorem debug_of_build_forced_again :
    let settings : List (ContextSetting BaggageFields) :=
      [.traceId ⟨1⟩, .spanId ⟨2⟩, .debug true, .sampled none, .debug true, .sampledLocal true]
    let context := (setAll {} settings).toContext
    (setAll {} settings).build = .ok context ∧ context.debug ∧
      DebugStands ContextSetting.replaces {} settings := by
  intro settings context
  have hbuild : (setAll {} settings).build = .ok context := by decide
  have hdebug : context.debug := by decide
  exact ⟨hbuild, hdebug, (debug_of_build hbuild).1 hdebug⟩

/--
The decision is confirmed, neither cleared nor negated, and debug is lost.
-/
theorem debug_lost_to_confirmation :
    let settings : List (ContextSetting BaggageFields) :=
      [.traceId ⟨1⟩, .spanId ⟨2⟩, .debug true, .sampled (some true)]
    let context := (setAll {} settings).toContext
    (setAll {} settings).build = .ok context ∧ context.debug = false ∧
      DebugStands ContextSetting.negates {} settings := by
  intro settings context
  have hafter : settings.rtakeWhile (!·.forces) = [.sampled (some true)] := by decide
  refine ⟨by decide, by decide, .inr ⟨.debug true, by simp [settings], rfl⟩, ?_⟩
  rw [hafter]
  decide

end ContextBuilder

end RequestTracing
