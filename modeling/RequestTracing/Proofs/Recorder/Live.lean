import Mathlib
import RequestTracing.Proofs.Recorder.Ends

/-!
This module contains tracked spans whose instances are alive. Main statement: to ask for such a span
gives the one that there is, and nothing begins. No operation on other spans touches it, and
handlers are told of its end when it is finished.
-/

namespace RequestTracing

open SpanNotice (beginnings endings)

def PendingSpan.recordAll (pending : PendingSpan) (entries : List SpanRecord) : PendingSpan :=
  { pending with
    span := entries.foldl (fun span entry => (span.perform (entry.toEdit pending.clock.now)).2)
      pending.span }

namespace Registry

variable {registry : Registry} {alive : Nat → Bool} {entry : SpanKey × Nat}

theorem Sound.live?_eq (h : registry.Sound) (hentry : entry ∈ registry.tracked)
    (hlive : registry.isLive alive entry.2) : registry.live? alive entry.1 = some entry.2 := by
  unfold live?
  apply Lookup.lookup_eq_some_of_mem
  . exact h.keys.sublist (List.filter_sublist.map _)
  . exact List.mem_filter.2 ⟨hentry, hlive⟩

/--
To finish a live span hands it to the handlers once, as it was and with the time of its end.
-/
theorem Sound.pass_finish (h : registry.Sound) (hentry : entry ∈ registry.tracked)
    (hlive : registry.isLive alive entry.2) (hon : registry.chain.noop = false)
    {pending : PendingSpan} (hpending : registry.pendings[entry.2]? = some pending)
    {context : Snapshot} (hkey : context.key = entry.1) (timestamp : Option UInt64) :
    Pass 0 (registry.chain.handlers.map SpanHandler.role) context .finished
      (stamped timestamp pending) (callsAbout entry.1 (registry.finish alive context timestamp).2) := by
  let left := ((registry.sweep alive).1.untrack context.key).stamp timestamp entry.2
  have hleft : left.pendings[entry.2]? = some { pending with span := stamped timestamp pending } := by
    have hswept : ((registry.sweep alive).1.untrack context.key).pendings[entry.2]? = some pending :=
      (pendings_sweep_of_isLive hlive).trans hpending
    dsimp only [left]
    rw [pendings_stamp, hswept]
    rfl
  have horphans : callsAbout entry.1 (registry.sweep alive).2 = [] := by
    apply (h.announced_sweep alive).silent
    intro other hother hsame
    rw [h.eq_of_key_eq hother hentry hsame]
    exact fate?_stay_eq_none_iff.2 hlive
  have hfind : registry.live? alive context.key = some entry.2 := by
    rw [hkey]
    exact h.live?_eq hentry hlive
  unfold finish depart
  rw [remove_eq, find?_sweep, hfind]
  dsimp only
  rw [callsAbout_append, horphans, List.nil_append, ← hkey, callsAbout_report hleft]
  have halike := alike_sweep alive registry
  have hactive : left.chain.noop = false := halike.noop.trans hon
  have hpass := HandlerChain.pass_finish hactive context .finished (stamped timestamp pending)
  rw [← halike.roles]
  exact hpass

end Registry

end RequestTracing
