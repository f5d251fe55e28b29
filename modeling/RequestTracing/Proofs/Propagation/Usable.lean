import Mathlib
import RequestTracing.Proofs.Propagation.PartHeaders
import RequestTracing.Proofs.Trace.Context
import RequestTracing.Proofs.Trace.Flags
import RequestTracing.Propagation.Baggage
import RequestTracing.Trace.Plan

/-!
This module contains the contexts that come about without a tracer, by construction or by reading a
carrier. Main statement: all of them are usable. No identifier in them stands for nothing, and debug
implies sampled.
-/

namespace RequestTracing

variable {β : Type}

inductive SamplingFlags.Named : SamplingFlags → Prop where
  | empty : Named .empty
  | sampledNo : Named .sampledNo
  | sampledYes : Named .sampledYes
  | forced : Named .forced

theorem SamplingFlags.named_ofDecision (decision : Option Bool) : (ofDecision decision).Named := by
  rcases decision with _ | _ | _
  . exact .empty
  . exact .sampledNo
  . exact .sampledYes

theorem SamplingFlags.Named.coherent {flags : SamplingFlags} (h : flags.Named) :
    flags.Coherent := by
  cases h with
  | empty => exact coherent_ofDecision none
  | sampledNo => exact coherent_ofDecision (some false)
  | sampledYes => exact coherent_ofDecision (some true)
  | forced => exact coherent_forced

structure TraceContext.Usable (context : TraceContext β) : Prop extends context.Valid where
  localRootId : context.localRootId ≠ some .invalid
  coherent : context.flags.Coherent

namespace ContextBuilder

structure Tidy (builder : ContextBuilder β) : Prop where
  parentId : builder.parentId ≠ some .invalid
  localRootId : builder.localRootId ≠ some .invalid
  coherent : builder.flags.Coherent

variable {builder : ContextBuilder β}

theorem tidy_empty : Tidy ({} : ContextBuilder β) where
  parentId := by simp
  localRootId := by simp
  coherent := SamplingFlags.coherent_ofDecision none

theorem tidy_ofContext {context : TraceContext β} (h : context.Usable) :
    (ofContext context).Tidy :=
  ⟨h.parentId, h.localRootId, h.coherent⟩

theorem Tidy.set (h : builder.Tidy) {setting : ContextSetting β}
    (hflags : ∀ flags, setting = .samplingFlags flags → flags.Named) :
    (builder.set setting).Tidy := by
  cases setting with
  | parentId id => exact ⟨SpanId.present_ne id, h.localRootId, h.coherent⟩
  | localRootId id => exact ⟨h.parentId, SpanId.present_ne id, h.coherent⟩
  | sampled decision =>
    exact ⟨h.parentId, h.localRootId, SamplingFlags.coherent_withSampled builder.flags decision⟩
  | sampledLocal value => exact ⟨h.parentId, h.localRootId, h.coherent.withSampledLocal value⟩
  | debug value => exact ⟨h.parentId, h.localRootId, h.coherent.withDebug value⟩
  | samplingFlags flags => exact ⟨h.parentId, h.localRootId, (hflags flags rfl).coherent⟩
  | _ => exact ⟨h.parentId, h.localRootId, h.coherent⟩

theorem Tidy.usable (h : builder.Tidy) {context : TraceContext β}
    (hbuild : builder.build = .ok context) : context.Usable := by
  obtain ⟨htrace, hspan, rfl⟩ := build_eq_ok_iff.1 hbuild
  exact ⟨⟨htrace, hspan, h.parentId⟩, h.localRootId, h.coherent⟩

end ContextBuilder

def ContextStep.SetsNamed (step : ContextStep) : Prop :=
  ∀ flags, step = .set (.samplingFlags flags) → flags.Named

theorem ContextStep.setting_samplingFlags {step : ContextStep} {flags : SamplingFlags}
    (h : step.setting = .ok (.samplingFlags flags)) : step = .set (.samplingFlags flags) := by
  cases step with
  | set setting =>
    cases h
    rfl
  | addExtra plan =>
    cases hmake : plan.make with
    | error fault => simp [setting, hmake, bind, Except.bind] at h
    | ok extra => simp [setting, hmake, bind, Except.bind, pure, Except.pure] at h

namespace Heap

theorem importSetting_samplingFlags {heap : Heap} {setting : ContextSetting BaggageFields}
    {flags : SamplingFlags} (h : (heap.importSetting setting).1 = .samplingFlags flags) :
    setting = .samplingFlags flags := by
  cases setting with
  | samplingFlags own =>
    cases h
    rfl
  | _ => cases h

theorem tidy_follow {heap last : Heap} {builder built : ContextBuilder BaggageRef}
    (h : builder.Tidy) {plan : List ContextStep} (hplan : ∀ step ∈ plan, step.SetsNamed)
    (hfollow : heap.follow builder plan = .ok (built, last)) : built.Tidy := by
  induction plan generalizing heap builder with
  | nil =>
    cases hfollow
    exact h
  | cons step steps ih =>
    rw [List.forall_mem_cons] at hplan
    unfold follow at hfollow
    cases hsetting : step.setting with
    | error fault =>
      rw [hsetting] at hfollow
      cases hfollow
    | ok setting =>
      rw [hsetting] at hfollow
      refine ih (h.set ?_) hplan.2 hfollow
      intro flags hflags
      have hset := importSetting_samplingFlags hflags
      exact hplan.1 flags (ContextStep.setting_samplingFlags (hset ▸ hsetting))

theorem usable_build {heap last : Heap} {builder : ContextBuilder BaggageRef} (h : builder.Tidy)
    {plan : List ContextStep} (hplan : ∀ step ∈ plan, step.SetsNamed) {source : ContextInstance}
    (hbuild : heap.build builder plan = .ok (source, last)) : source.context.Usable := by
  unfold build at hbuild
  cases hfollow : heap.follow builder plan with
  | error fault =>
    rw [hfollow] at hbuild
    cases hbuild
  | ok followed =>
    obtain ⟨built, between⟩ := followed
    have htidy := tidy_follow h hplan hfollow
    rw [hfollow] at hbuild
    cases hcontext : built.build with
    | error fault =>
      simp [hcontext, bind, Except.bind] at hbuild
    | ok context =>
      simp only [hcontext, bind, Except.bind, pure, Except.pure] at hbuild
      cases hbuild
      exact htidy.usable hcontext

end Heap

/--
Holds for what may be read from a carrier: a context without a local root, or flags, which have a
name.
-/
def Extracted.Usable : Extracted (TraceContext β) → Prop
  | .context own => own.Valid ∧ own.localRootId = none ∧ own.flags.Named
  | .flags own => own.Named

theorem Extracted.Usable.context {own : TraceContext β} (h : (Extracted.context own).Usable) :
    own.Usable := by
  obtain ⟨hvalid, hroot, hflags⟩ := h
  refine ⟨hvalid, ?_, hflags.coherent⟩
  rw [hroot]
  simp

theorem Extraction.usable_withExtra {reading : Extraction (TraceContext β) β}
    (h : reading.found.Usable) (extra : Extra β) : (reading.withExtra extra).found.Usable := by
  unfold withExtra
  cases hfound : reading.found with
  | context context =>
    rw [hfound] at h
    obtain ⟨hvalid, hroot, hflags⟩ := h
    exact ⟨⟨hvalid.traceId, hvalid.spanId, hvalid.parentId⟩, hroot, hflags⟩
  | flags flags =>
    rw [hfound] at h
    exact h

namespace B3

theorem StateLetter.named {letter : Char} {flags : SamplingFlags} (h : StateLetter letter flags) :
    flags.Named := by
  cases h with
  | no => exact .sampledNo
  | yes => exact .sampledYes
  | debug => exact .forced

theorem HeaderRest.usable {rest : List (List Char)} {flags : SamplingFlags}
    {parentId : Option SpanId} (h : HeaderRest rest flags parentId) :
    flags.Named ∧ parentId ≠ some .invalid := by
  cases h with
  | none => exact ⟨.empty, by simp⟩
  | state hletter => exact ⟨hletter.named, by simp⟩
  | parent hid => exact ⟨.empty, SpanId.present_ne _⟩
  | both hletter hid => exact ⟨hletter.named, SpanId.present_ne _⟩

theorem SingleHeader.usable {value : List Char} {reading : Extraction (TraceContext β) β}
    (h : SingleHeader value reading) : reading.found.Usable := by
  cases h with
  | state hletter => exact hletter.named
  | context hparts =>
    cases hparts with
    | mk _ htrace _ hspan hrest =>
      obtain ⟨hflags, hparent⟩ := hrest.usable
      exact ⟨⟨htrace, hspan, hparent⟩, rfl, hflags⟩

theorem named_headerFlags (flags : Option String) (decision : Option Bool) :
    (headerFlags flags decision).Named := by
  unfold headerFlags
  split
  . exact .forced
  . exact SamplingFlags.named_ofDecision decision

theorem PartHeaders.usable {get : String → Option String} {reading : Extraction (TraceContext β) β}
    (h : PartHeaders get reading) : reading.found.Usable := by
  cases h with
  | context hcontext =>
    cases hcontext with
    | mk _ _ htrace _ _ hspan hparent _ =>
      refine ⟨⟨htrace, hspan, ?_⟩, rfl, named_headerFlags ..⟩
      dsimp only
      generalize get parentIdHeader = header at hparent
      cases hparent with
      | absent => simp
      | present hid => exact SpanId.present_ne _
  | flags hflags =>
    cases hflags with
    | mk _ _ => exact named_headerFlags ..
  | malformed _ _ => exact .empty

theorem usable_extract (get : String → Option String) :
    (extract get : Logged Reading).value.found.Usable := by
  rcases value_extract_eq_iff.1 (Eq.refl (extract get : Logged Reading).value) with
    ⟨value, _, hsingle⟩ | ⟨_, hparts⟩
  . rw [parseSingle?_eq_some_iff] at hsingle
    exact hsingle.usable
  . exact hparts.usable

end B3

namespace Propagator

theorem usable_paired (key : String) (get : String → Option String) :
    ((paired key).extract get).value.found.Usable := by
  unfold paired
  dsimp only
  split
  . next context hcontext =>
    simp only [Option.bind_eq_bind, Option.bind_eq_some_iff] at hcontext
    obtain ⟨value, _, ⟨trace, span⟩, _, traceId, _, spanId, _, hbuild⟩ := hcontext
    obtain ⟨htrace, hspan, rfl⟩ := ContextBuilder.toOption_build_eq_some_iff.1 hbuild
    exact ⟨⟨htrace, hspan, by simp [ContextBuilder.toContext]⟩, rfl, .empty⟩
  . exact SamplingFlags.Named.empty

/--
The propagators that there are.
-/
inductive Provided : Propagator → Prop where
  | b3 (encoding : B3.Encoding) : Provided (B3.propagator encoding)
  | paired (key : String) : Provided (paired key)
  | baggage {delegate : Propagator} (policy : BaggagePolicy) :
      Provided delegate → Provided (policy.propagator delegate)

theorem Provided.usable {propagator : Propagator} (h : propagator.Provided)
    (get : String → Option String) : (propagator.extract get).value.found.Usable := by
  induction h with
  | b3 encoding => exact B3.usable_extract get
  | paired key => exact usable_paired key get
  | baggage policy _ ih => exact Extraction.usable_withExtra ih _

end Propagator

end RequestTracing
