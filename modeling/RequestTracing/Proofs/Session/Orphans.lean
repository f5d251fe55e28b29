import Mathlib
import RequestTracing.Proofs.Recorder.Orphans
import RequestTracing.Proofs.Session.Faithful

/-!
This module contains the handles that keep contexts alive in a session. Main statement: whatever
program was run, an operation on a registry reports exactly the tracked spans that no such handle is
left of, and the registry itself holds none.
-/

namespace RequestTracing

open SpanNotice (endings)

inductive Named.Holds : Named → ContextInstance → Prop where
  | context (source : ContextInstance) : Holds (.context source) source
  | extraction {e : HeldExtraction} {source : ContextInstance} (found : e.found = .context source) :
      Holds (.extraction e) source
  | span (tracing : Nat) (span : SpanHandle) : Holds (.span tracing span) span.source
  | scopedSpan (tracing : Nat) (scopedSpan : ScopedSpan) :
      Holds (.scopedSpan tracing scopedSpan) scopedSpan.span.source
  | task (current : CurrentContext) (source : ContextInstance) :
      Holds (.task current (some source)) source

/--
Holds for instances that a session has a handle of: a value with a name or one that lost it without
an end, or a context that a scope made current or keeps for later.
-/
inductive Session.Holds (session : Session) : ContextInstance → Prop where
  | named {name : String} {value : Named} {source : ContextInstance}
      (hvalue : (name, value) ∈ session.names) (holds : value.Holds source) : Holds session source
  | leaked {value : Named} {source : ContextInstance} (hvalue : value ∈ session.leaked)
      (holds : value.Holds source) : Holds session source
  | current {slot : Nat} {stack : ContextStack ContextInstance} {source : ContextInstance}
      (hstack : (slot, stack) ∈ session.ambient.thread.slots)
      (hcurrent : stack.current = some source) : Holds session source
  | saved {slot : Nat} {stack : ContextStack ContextInstance} {source : ContextInstance}
      (hstack : (slot, stack) ∈ session.ambient.thread.slots)
      (hsaved : some (some source) ∈ stack.saved) : Holds session source

theorem Named.mem_held {value : Named} {source : ContextInstance} :
    source ∈ value.held ↔ value.Holds source := by
  constructor
  . intro h
    cases value with
    | context known =>
      rw [List.mem_singleton.1 h]
      exact .context known
    | extraction e =>
      have hsome : e.context? = some source := Option.mem_toList.1 h
      unfold Extraction.context? at hsome
      split at hsome
      . next found =>
        rw [Option.some.inj hsome] at found
        exact .extraction found
      . cases hsome
    | span tracing span =>
      rw [List.mem_singleton.1 h]
      exact .span tracing span
    | scopedSpan tracing scopedSpan =>
      rw [List.mem_singleton.1 h]
      exact .scopedSpan tracing scopedSpan
    | task current captured =>
      rw [Option.mem_toList.1 h]
      exact .task current source
    | _ => cases h
  . intro h
    cases h with
    | extraction found =>
      apply Option.mem_toList.2
      show Extraction.context? _ = _
      unfold Extraction.context?
      rw [found]
    | _ => exact List.mem_singleton_self _

theorem ThreadState.mem_contexts {α : Type} {thread : ThreadState α} {source : α} :
    source ∈ thread.contexts ↔ ∃ entry ∈ thread.slots,
      entry.2.current = some source ∨ some (some source) ∈ entry.2.saved := by
  unfold contexts
  rw [List.mem_flatMap]
  have hjoin : ∀ kept : Option (Option α), kept.join = some source ↔ kept = some (some source) :=
    fun kept => Option.join_eq_some_iff
  simp [List.mem_append, List.mem_filterMap, hjoin]

namespace Session

theorem alive_iff (session : Session) (number : Nat) :
    session.alive number = true ↔ ∃ source, session.Holds source ∧ source.number = number := by
  -- the list by which a session decides who is alive holds the instances of names, leaks and stacks
  have hholds : ∀ source, session.Holds source ↔
      source ∈ (session.names.map (·.2) ++ session.leaked).flatMap Named.held ++
        session.ambient.thread.contexts := by
    intro source
    rw [List.mem_append, List.mem_flatMap, ThreadState.mem_contexts]
    constructor
    . intro h
      cases h with
      | named hvalue holds =>
        exact .inl ⟨_, List.mem_append_left _ (List.mem_map_of_mem hvalue), Named.mem_held.2 holds⟩
      | leaked hvalue holds =>
        exact .inl ⟨_, List.mem_append_right _ hvalue, Named.mem_held.2 holds⟩
      | current hstack hcurrent => exact .inr ⟨_, hstack, .inl hcurrent⟩
      | saved hstack hsaved => exact .inr ⟨_, hstack, .inr hsaved⟩
    . rintro (⟨value, hvalue, hheld⟩ | ⟨entry, hentry, hcurrent | hsaved⟩)
      . cases List.mem_append.1 hvalue with
        | inl hnamed =>
          obtain ⟨entry, hentry, rfl⟩ := List.mem_map.1 hnamed
          exact .named hentry (Named.mem_held.1 hheld)
        | inr hleaked => exact .leaked hleaked (Named.mem_held.1 hheld)
      . exact .current hentry hcurrent
      . exact .saved hentry hsaved
  unfold alive held
  rw [List.contains_iff_mem, List.mem_map]
  simp only [hholds]

/--
An operation on a registry reports the tracked spans that the session has no handle of, each once,
and leaves the others alone; what it does besides, it does as if there had been no orphans. `now` is
the session when the operation starts, be it in the middle of a command.
-/
theorem orphans_reclaimed (commands : List SessionCommand) {registry : Registry}
    (hregistry : registry ∈ (start.runAll commands).2.recorders) {source : FlushClock}
    {logs : Bool} {rest : List SpanHandler} (headed : registry.Headed source logs rest)
    (now : Session) {action : RegistryAction} (operates : action.Operates) :
    let swept := (registry.sweep now.alive).1
    let own := (RegistryState.mk swept now.alive).step action
    (∀ number, now.alive number = true ↔ ∃ holder, now.Holds holder ∧ holder.number = number) ∧
    ∃ orphans passes,
      Registry.Reclaims now.alive source logs rest registry swept orphans passes ∧
      (RegistryState.mk registry now.alive).step action = (own.1, passes.flatten ++ own.2) ∧
      ∀ call ∈ endings own.2, call.occasion ≠ .ending .orphaned := by
  intro swept own
  have ⟨orphans, passes, hreclaims, hnotices⟩ :=
    (faithful_runAll commands registry hregistry).reclaims headed now.alive
  refine ⟨now.alive_iff, orphans, passes, hreclaims, ?_, ?_⟩
  . rw [RegistryState.step_eq_of_sweep operates, hnotices]
  . intro call
    exact RegistryState.occasion_of_settled (registry.settled_sweep now.alive)

theorem orphans_reclaimed_marked :
    let commands : List SessionCommand :=
      [.registry (.create [] [.orphanTracker false, .made (.memory "spans" false false [])]
          "registry"),
        .context (.build none [.set (.traceId ⟨1⟩), .set (.spanId ⟨2⟩), .set (.sampled (some true)),
          .addExtra (.marker 7)] "context"),
        .registry (.getOrCreate "registry" none "context" true "span"),
        .registry (.record "span" [.tag "key" "value"]), .general (.drop "context")]
    let session := (start.runAll commands).2
    ∃ registry ∈ session.recorders,
      registry.Headed (.fixed 42) false [.memory "spans" false false []] ∧
      RegistryAction.Operates .sweep ∧
      ∃ orphans passes,
        Registry.Reclaims session.alive (.fixed 42) false [.memory "spans" false false []] registry
          (registry.sweep session.alive).1 orphans passes ∧
        (registry.sweep session.alive).2 = passes.flatten ∧
        orphans.map (·.1) = [⟨⟨1⟩, ⟨2⟩, false⟩] ∧
        (registry.sweep session.alive).1.pendings.map (·.span.annotations) =
          [[(42, "brave.flush")]] := by
  intro commands session
  have hlt : 0 < session.registries.length := by decide +kernel
  have hregistry : session.registries[0] ∈ session.recorders :=
    List.mem_append_left _ (List.getElem_mem hlt)
  have headed : session.registries[0].Headed (.fixed 42) false [.memory "spans" false false []] :=
    ⟨by with_unfolding_all rfl, by with_unfolding_all rfl⟩
  have operates : RegistryAction.Operates .sweep := trivial
  obtain ⟨_, orphans, passes, hreclaims, hstep, _⟩ :=
    orphans_reclaimed commands hregistry headed session operates
  have hgone : session.registries[0].tracked.filter
      (fun entry => !session.registries[0].isLive session.alive entry.2) =
        [(⟨⟨1⟩, ⟨2⟩, false⟩, 0)] := by with_unfolding_all rfl
  have horphans := hreclaims.gone
  rw [hgone, List.perm_singleton] at horphans
  refine ⟨_, hregistry, headed, operates, orphans, passes, hreclaims, ?_, ?_, ?_⟩
  . have hnotices : (session.registries[0].sweep session.alive).2 =
        passes.flatten ++ ((session.registries[0].sweep session.alive).1.sweep session.alive).2 :=
      congrArg Prod.snd hstep
    rwa [session.registries[0].settled_sweep session.alive, List.append_nil] at hnotices
  . rw [horphans]
    rfl
  . with_unfolding_all rfl

end Session

end RequestTracing
