import Mathlib
import RequestTracing.Proofs.Tracer.Faithful
import RequestTracing.Proofs.Tracer.Hops
import RequestTracing.Session.Command

/-!
This module contains what the commands of a session do to its registries, those that stand alone and
those of tracings. Main statement: after any program, every span of every registry knows its
context.
-/

set_option mvcgen.warning false

open Std.Do

namespace RequestTracing

namespace Session

def recorders (session : Session) : List Registry :=
  session.registries ++ session.tracings.map (·.registry)

def Faithful (session : Session) : Prop :=
  ∀ registry ∈ session.recorders, registry.Faithful

variable {session : Session}

theorem faithful_iff :
    session.Faithful ↔ (∀ registry ∈ session.registries, registry.Faithful) ∧
      ∀ tracing ∈ session.tracings, tracing.registry.Faithful := by
  unfold Faithful recorders
  rw [List.forall_mem_append, List.forall_mem_map]

theorem faithful_start : start.Faithful := by
  simp [faithful_iff, start]

namespace Faithful

theorem registry (h : session.Faithful) {place : Nat} {registry : Registry}
    (hplace : session.registries[place]? = some registry) : registry.Faithful :=
  (faithful_iff.1 h).1 registry (List.mem_of_getElem? hplace)

theorem tracing (h : session.Faithful) {place : Nat} {tracing : Tracing}
    (hplace : session.tracings[place]? = some tracing) : tracing.registry.Faithful :=
  (faithful_iff.1 h).2 tracing (List.mem_of_getElem? hplace)

theorem setRegistry (h : session.Faithful) (place : Nat) {registry : Registry}
    (hregistry : registry.Faithful) :
    Faithful { session with registries := session.registries.set place registry } := by
  rw [faithful_iff] at h ⊢
  refine ⟨?_, h.2⟩
  intro other hother
  cases List.mem_or_eq_of_mem_set hother with
  | inl hmem => exact h.1 other hmem
  | inr heq => rwa [heq]

theorem setTracing (h : session.Faithful) (place : Nat) {tracing : Tracing}
    (htracing : tracing.registry.Faithful) :
    Faithful { session with tracings := session.tracings.set place tracing } := by
  rw [faithful_iff] at h ⊢
  refine ⟨h.1, ?_⟩
  intro other hother
  cases List.mem_or_eq_of_mem_set hother with
  | inl hmem => exact h.2 other hmem
  | inr heq => rwa [heq]

theorem addRegistry (h : session.Faithful) {registry : Registry} (hregistry : registry.Faithful) :
    Faithful { session with registries := session.registries ++ [registry] } := by
  rw [faithful_iff] at h ⊢
  exact ⟨List.forall_mem_append.2 ⟨h.1, List.forall_mem_singleton.2 hregistry⟩, h.2⟩

theorem addTracing (h : session.Faithful) {tracing : Tracing}
    (htracing : tracing.registry.Faithful) :
    Faithful { session with tracings := session.tracings ++ [tracing] } := by
  rw [faithful_iff] at h ⊢
  exact ⟨h.1, List.forall_mem_append.2 ⟨h.2, List.forall_mem_singleton.2 htracing⟩⟩

theorem forgetAll (h : session.Faithful) (name : String) :
    let clear (registry : Registry) : Registry :=
      { registry with chain := registry.chain.forgetAll name }
    Faithful { session with
      tracings := session.tracings.map fun tracing =>
        { tracing with registry := clear tracing.registry }
      registries := session.registries.map clear } := by
  rw [faithful_iff] at h
  intro clear
  rw [faithful_iff, List.forall_mem_map, List.forall_mem_map]
  exact ⟨fun registry hregistry => (h.1 registry hregistry).forgetAll name,
    fun tracing htracing => (h.2 tracing htracing).forgetAll name⟩

end Faithful

end Session

theorem Tracing.faithful_close {tracing : Tracing} (h : tracing.registry.Faithful) :
    tracing.close.value.registry.Faithful := by
  unfold close
  split
  . exact h
  . exact h.setNoop true

namespace SessionM

variable {α β : Type}

abbrev Keeps (m : SessionM α) : Prop :=
  ⦃fun session => ⌜session.Faithful⌝⦄
  m
  ⦃post⟨fun _ session => ⌜session.Faithful⌝, fun _ session => ⌜session.Faithful⌝⟩⦄

abbrev Gives (P : α → Prop) (m : SessionM α) : Prop :=
  ⦃fun session => ⌜session.Faithful⌝⦄
  m
  ⦃post⟨fun a session => ⌜session.Faithful ∧ P a⌝, fun _ session => ⌜session.Faithful⌝⟩⦄

theorem Keeps.run {m : SessionM α} (h : Keeps m) {session : Session}
    (hsession : session.Faithful) : (m.run session).2.Faithful := by
  have hpost := h session hsession
  simp only [wp, PredTrans.apply_pushExcept, PredTrans.apply_pushArg, PredTrans.apply_Pure_pure]
    at hpost
  revert hpost
  cases (StateT.run (ExceptT.run m) session).run.1 with
  | ok a => exact id
  | error e => exact id

@[spec]
theorem keeps_fail (failure : Failure) : Keeps (fail failure : SessionM α) := by
  unfold fail
  mvcgen

@[spec low]
theorem keeps_require (result : Except TraceError α) : Keeps (require result) := by
  unfold require
  mvcgen

@[spec]
theorem keeps_requireOrder (result : Except OutOfOrderClose α) : Keeps (requireOrder result) := by
  unfold requireOrder
  mvcgen

@[spec]
theorem keeps_noFault (fault : Option OutOfOrderClose) : Keeps (noFault fault) := by
  unfold noFault
  mvcgen

@[spec]
theorem keeps_enter (entry : JournalEntry) : Keeps (enter entry) := by
  unfold enter
  mvcgen

@[spec]
theorem keeps_log (record : LogRecord) : Keeps (log record) :=
  keeps_enter _

@[spec]
theorem keeps_logAll (records : List LogRecord) : Keeps (records.forM log) := by
  induction records with
  | nil =>
    unfold List.forM
    mvcgen
  | cons record records ih =>
    unfold List.forM
    mvcgen [ih]

@[spec low]
theorem keeps_logged (x : Logged α) : Keeps (logged x) := by
  unfold logged
  mvcgen

@[spec]
theorem keeps_lookup (name : String) : Keeps (lookup name) := by
  unfold lookup
  mvcgen

@[spec]
theorem keeps_define (name : String) (value : Named) : Keeps (define name value) := by
  unfold define
  mvcgen

@[spec]
theorem keeps_undefine (name : String) : Keeps (undefine name) := by
  unfold undefine
  mvcgen

@[spec]
theorem keeps_find (name : String) (view : Named → Option α) : Keeps (find name view) := by
  unfold find
  mvcgen

@[spec]
theorem keeps_inHeap (f : Heap → β × Heap) : Keeps (inHeap f) := by
  unfold inHeap
  mvcgen

@[spec]
theorem keeps_inAmbient (f : (ContextInstance → Snapshot) → Ambient ContextInstance →
    β × Ambient ContextInstance) : Keeps (inAmbient f) := by
  unfold inAmbient
  mvcgen

@[spec]
theorem keeps_inRegistry [Inhabited β] (place : Nat)
    {f : (Nat → Bool) → Heap → Registry → β × Registry × List SpanNotice}
    (hf : ∀ alive heap registry, registry.Faithful → (f alive heap registry).2.1.Faithful) :
    Keeps (inRegistry place f) := by
  unfold inRegistry
  mvcgen
  next session hsession after =>
  dsimp only [after]
  split
  . exact hsession
  . next registry hplace =>
    have hregistry := hsession.registry hplace
    exact hsession.setRegistry place (hf session.alive session.heap registry hregistry)

@[spec]
theorem keeps_inTracing [Inhabited β] (place : Nat) {f : (Nat → Bool) → Tracer β}
    (hf : ∀ alive, (f alive).Keeps) : Keeps (inTracing place f) := by
  unfold inTracing
  mvcgen
  next session hsession after =>
  dsimp only [after]
  split
  . exact hsession
  . next tracing hplace =>
    exact hsession.setTracing place ((hf session.alive).run (hsession.tracing hplace))

-- each of these is a look-up or a piece of work under another name, and is unfolded
attribute [spec] context extraction baggageField current registry tracing span pendingPlace
  taskNamed correlationField customizerNamed scopedSpanNamed closeScope inWorker strictAccess
  openScope

@[spec]
theorem keeps_context? (name : String) : Keeps (context? name) := by
  unfold context?
  mvcgen

@[spec]
theorem keeps_optionalContext (name : Option String) : Keeps (optionalContext name) := by
  unfold optionalContext
  mvcgen

@[spec]
theorem keeps_view (source : ContextInstance) : Keeps (view source) := by
  unfold view
  mvcgen

@[spec]
theorem keeps_instantiate (context : TraceContext BaggageRef) : Keeps (instantiate context) := by
  unfold instantiate
  mvcgen

@[spec]
theorem keeps_currentIn (current : CurrentContext) : Keeps (currentIn current) := by
  unfold currentIn
  mvcgen

@[spec low]
theorem keeps_tracingAt (place : Nat) : Keeps (tracingAt place) := by
  unfold tracingAt
  mvcgen

@[spec]
theorem keeps_registryAt (place : Nat) : Keeps (registryAt place) := by
  unfold registryAt
  mvcgen

@[spec]
theorem keeps_dropValue (value : Named) : Keeps (dropValue value) := by
  unfold dropValue
  mvcgen

@[spec]
theorem keeps_drop (name : String) : Keeps (drop name) := by
  unfold drop
  mvcgen

@[spec]
theorem keeps_describe (value : Named) : Keeps (describe value) := by
  unfold describe
  mvcgen

@[spec]
theorem keeps_defineContext (result : String) (source : ContextInstance) :
    Keeps (defineContext result source) := by
  unfold defineContext
  mvcgen

@[spec]
theorem keeps_makeExtra (plan : ExtraPlan) : Keeps (makeExtra plan) := by
  unfold makeExtra
  mvcgen

@[spec]
theorem keeps_makePropagator (plan : PropagationPlan) : Keeps (makePropagator plan) := by
  unfold makePropagator
  mvcgen

@[spec]
theorem keeps_baggageRef (target : BaggageTarget) : Keeps (baggageRef target) := by
  unfold baggageRef
  mvcgen

@[spec]
theorem keeps_makeDecorator (plan : DecoratorPlan) : Keeps (makeDecorator plan) := by
  unfold makeDecorator
  mvcgen

@[spec]
theorem keeps_decorateAccess (access : CurrentContext) (plans : List DecoratorPlan) :
    Keeps (decorateAccess access plans) := by
  induction plans generalizing access with
  | nil =>
    unfold decorateAccess
    mvcgen
  | cons plan plans ih =>
    unfold decorateAccess
    mvcgen [ih]

@[spec]
theorem keeps_openNumbered (current : CurrentContext) (first : Nat) (opened : List Scope)
    (count : Nat) : Keeps (openNumbered current first opened count) := by
  induction count generalizing first opened with
  | zero =>
    unfold openNumbered
    mvcgen
  | succ count ih =>
    unfold openNumbered
    mvcgen [ih]

@[spec]
theorem keeps_attached (current : CurrentContext) (attachment : Attachment) :
    Keeps (attached current attachment) := by
  unfold attached
  mvcgen

@[spec]
theorem keeps_globalReport (access : CurrentContext) : Keeps (globalReport access) := by
  unfold globalReport
  mvcgen

@[spec]
theorem keeps_pendingAt (registry place : Nat) : Keeps (pendingAt registry place) := by
  unfold pendingAt
  mvcgen

@[spec]
theorem keeps_registryReport (place : Nat) : Keeps (registryReport place) := by
  unfold registryReport
  mvcgen

@[spec]
theorem keeps_foundReport (registry : Nat) (place : Option Nat) :
    Keeps (foundReport registry place) := by
  unfold foundReport
  mvcgen

@[spec]
theorem keeps_makeConfig (plan : TracingPlan) : Keeps (makeConfig plan) := by
  unfold makeConfig
  mvcgen

@[spec]
theorem keeps_remembered (name : String) : Keeps (remembered name) := by
  unfold remembered
  mvcgen

@[spec]
theorem keeps_clearRemembered (name : String) : Keeps (clearRemembered name) := by
  unfold clearRemembered
  mvcgen
  next session hsession _ => exact hsession.forgetAll name

@[spec]
theorem keeps_defineSpan (tracing : Nat) (result : String) (span : SpanHandle) :
    Keeps (defineSpan tracing result span) := by
  unfold defineSpan
  mvcgen

@[spec]
theorem keeps_record (tracing : Nat) (place : Option Nat) (entry : SpanRecord)
    (absent : EditAnswer) : Keeps (record tracing place entry absent) := by
  unfold record
  mvcgen
  next place _ _ _ _ => exact Tracer.keeps_of_run fun _ h => h.record (some place) entry absent

@[spec]
theorem keeps_endSpan (tracing : Nat) (span : SpanHandle) (ending : SpanEnding) :
    Keeps (endSpan tracing span ending) := by
  unfold endSpan
  mvcgen
  next alive => exact Tracer.keeps_of_run fun _ h => h.endSpan alive span ending

theorem gives_require (result : Except TraceError α) :
    Gives (fun a => result = .ok a) (require result) := by
  cases result with
  | ok a =>
    unfold require
    mvcgen
  | error e =>
    unfold require fail
    mvcgen

theorem gives_tracingAt (place : Nat) :
    Gives (fun tracing => tracing.registry.Faithful) (tracingAt place) := by
  unfold tracingAt fail
  mvcgen
  next hsession tracing hplace => exact ⟨hsession, hsession.tracing hplace⟩

theorem gives_logged (x : Logged α) : Gives (fun a => a = x.value) (logged x) := by
  unfold logged
  mvcgen

end SessionM

open SessionM

@[spec]
theorem GeneralCommand.keeps_run (command : GeneralCommand) : Keeps command.run := by
  unfold run
  mvcgen

@[spec]
theorem ContextCommand.keeps_run (command : ContextCommand) : Keeps command.run := by
  unfold run
  mvcgen

@[spec]
theorem ExtractionCommand.keeps_run (command : ExtractionCommand) : Keeps command.run := by
  unfold run run.defineExtraction
  mvcgen

@[spec]
theorem BaggageCommand.keeps_run (command : BaggageCommand) : Keeps command.run := by
  unfold run
  mvcgen

@[spec]
theorem ScopeCommand.keeps_run (command : ScopeCommand) : Keeps command.run := by
  unfold run
  mvcgen

@[spec]
theorem CorrelationCommand.keeps_run (command : CorrelationCommand) : Keeps command.run := by
  unfold run
  mvcgen

@[spec]
theorem RegistryCommand.keeps_run (command : RegistryCommand) : Keeps command.run := by
  -- what is left of each case is its operation on the registry
  cases command with
  | create template plans result =>
    unfold run
    mvcgen
    next session hsession _ => exact hsession.addRegistry (Registry.faithful_ofHandlers _ _ _)
  | getOrCreate name parent context start result =>
    unfold run
    mvcgen
    next parent _ _ source _ _ =>
      intro alive heap registry h
      exact h.getOrCreate alive (parent.map heap.view) heap source start
  | get name context =>
    unfold run
    mvcgen
    exact fun alive _ registry h => h.sweep alive
  | remove name context =>
    unfold run
    mvcgen
    exact fun alive _ registry h => h.remove alive _
  | endSpan name context ending =>
    unfold run
    mvcgen
    exact fun alive heap registry h => h.endSpan alive _ ending
  | sweep name =>
    unfold run
    mvcgen
    exact fun alive _ registry h => h.sweep alive
  | setNoop name value =>
    unfold run
    mvcgen
    exact fun _ _ registry h => h.setNoop value
  | record name edits =>
    unfold run
    mvcgen
    exact fun _ _ registry h => h.performAll _ edits
  | _ =>
    unfold run
    mvcgen

@[spec]
theorem TracingCommand.keeps_run (command : TracingCommand) : Keeps command.run := by
  cases command with
  | create plan result =>
    unfold run
    mvcgen [gives_require]
    next session hsession _ => exact hsession.1.addTracing (Tracing.faithful_of_ofConfig hsession.2)
  | setNoop name value =>
    unfold run
    mvcgen [gives_tracingAt]
    next session hsession _ => exact hsession.1.setTracing _ (hsession.2.setNoop value)
  | close name =>
    unfold run
    mvcgen [gives_tracingAt, gives_logged]
    . next hfound => exact hfound.1
    . next hfound _ session hsession _ =>
      apply hsession.1.setTracing
      rw [hsession.2]
      exact Tracing.faithful_close hfound.2
  | _ =>
    unfold run
    mvcgen

@[spec]
theorem SpanRequest.keeps_run (place : Nat) (request : SpanRequest) :
    Keeps (request.run place) := by
  unfold run
  mvcgen

@[spec]
theorem TracerCommand.keeps_run (command : TracerCommand) : Keeps command.run := by
  unfold run
  mvcgen

@[spec]
theorem SpanCommand.keeps_run (command : SpanCommand) : Keeps command.run := by
  unfold run
  mvcgen

theorem SessionCommand.keeps_run (command : SessionCommand) : Keeps command.run := by
  unfold run
  mvcgen

namespace Session

variable {session : Session}

theorem Faithful.step (h : session.Faithful) (command : SessionCommand) :
    (session.step command).2.Faithful :=
  command.keeps_run.run h

theorem Faithful.runAll (h : session.Faithful) (commands : List SessionCommand) :
    (session.runAll commands).2.Faithful := by
  induction commands generalizing session with
  | nil => exact h
  | cons command commands ih => exact ih (h.step command)

theorem faithful_runAll (commands : List SessionCommand) : (start.runAll commands).2.Faithful :=
  faithful_start.runAll commands

end Session

end RequestTracing
