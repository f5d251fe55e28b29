import Mathlib
import RequestTracing.Proofs.Scope.Correlation
import RequestTracing.Proofs.Scope.Run

/-!
This module contains runs of a thread whose scopes copy fields to where log lines take values from.
Closing a scope puts back what the scope found under the names that it changed, whatever other
scopes did there meanwhile. Main statement: once all scopes are closed, what was current before the
run is current again, but a name has the value that the last scope to close found there, of those
that changed it; this is the value from before the run where the first scope to change the name is
closed after all others that did.
-/

namespace RequestTracing

variable {α : Type}

structure CorrelatedScope (α : Type) extends OpenScope α where
  found : CorrelationValues

/--
A scope that was closed, with the scopes above and below it that were open then, the last one first.
-/
structure ScopeClosing (α : Type) where
  entry : CorrelatedScope α
  above : List (CorrelatedScope α)
  below : List (CorrelatedScope α)

namespace CorrelatedScope

def opening (view : α → Snapshot) (current : CurrentContext) (context : Option α)
    (ambient : Ambient α) : CorrelatedScope α :=
  ⟨⟨(current.openScope view context ambient).1, context⟩, ambient.thread.correlation⟩

def keeps (name : String) (entry : CorrelatedScope α) : Bool :=
  (entry.scope.kept.lookup name).isSome

def kept? (name : String) (entry : CorrelatedScope α) : Option (Option String) :=
  if entry.keeps name then some (entry.found.get? name) else none

theorem get?_of_opening_keeps {view : α → Snapshot} {current : CurrentContext} {context : Option α}
    {ambient : Ambient α} {name : String}
    (h : (opening view current context ambient).keeps name = false) :
    (current.openScope view context ambient).2.thread.correlation.get? name =
      ambient.thread.correlation.get? name := by
  obtain ⟨hkept, hvalues⟩ := current.openScope_correlation view context ambient
  unfold keeps opening at h
  dsimp only at h
  rw [hkept] at h
  rw [hvalues]
  cases CorrelationField.lookup_apply _ _ _ name with
  | inl hkeeps =>
    rw [hkeeps] at h
    cases h
  | inr hsame => exact hsame.2

end CorrelatedScope

/--
Holds for closings that keep the order in which scopes changed a name: while another scope that
changed it is open above, so is one below.
-/
def ScopeClosing.InOrderFor (name : String) (closing : ScopeClosing α) : Prop :=
  closing.entry.keeps name →
    (∃ other ∈ closing.below, other.keeps name) ∨
      ∀ other ∈ closing.above, other.keeps name = false

instance (name : String) (closing : ScopeClosing α) : Decidable (closing.InOrderFor name) :=
  inferInstanceAs (Decidable (_ → _ ∨ _))

theorem ScopeClosing.InOrderFor.filter_above_eq_nil {name : String} {closing : ScopeClosing α}
    (h : closing.InOrderFor name) (hkeeps : closing.entry.keeps name)
    (hbelow : closing.below.filter (·.keeps name) = []) :
    closing.above.filter (·.keeps name) = [] := by
  rw [List.filter_eq_nil_iff] at hbelow ⊢
  cases h hkeeps with
  | inl hother =>
    obtain ⟨other, hmem, hother⟩ := hother
    exact absurd hother (hbelow other hmem)
  | inr hnone =>
    intro other hmem
    rw [hnone other hmem]
    exact Bool.false_ne_true

/--
A run of a thread: what it comes to, the open scopes, and the closings, the last one first. Any
instance may open a scope, and any open scope may be the next to close. In between anything may
happen that changes neither stacks nor the values that log lines carry.
-/
inductive CorrelatedRun (first : Ambient α) :
    Ambient α → List (CorrelatedScope α) → List (ScopeClosing α) → Prop where
  | start : CorrelatedRun first first [] []
  | opening {ambient opened closings} (view : α → Snapshot) (current : CurrentContext)
      (context : Option α) :
      CorrelatedRun first ambient opened closings →
      CorrelatedRun first (current.openScope view context ambient).2
        (.opening view current context ambient :: opened) closings
  | closing {ambient closings} (above : List (CorrelatedScope α)) (entry : CorrelatedScope α)
      (below : List (CorrelatedScope α)) :
      CorrelatedRun first ambient (above ++ entry :: below) closings →
      CorrelatedRun first (CurrentContext.closeScope entry.scope ambient).2 (above ++ below)
        (⟨entry, above, below⟩ :: closings)
  | elsewhere {ambient opened closings} (other : Ambient α) :
      other.thread.stack? = ambient.thread.stack? →
      other.thread.correlation = ambient.thread.correlation →
      CorrelatedRun first ambient opened closings →
      CorrelatedRun first other opened closings

variable {first ambient : Ambient α} {opened : List (CorrelatedScope α)}
  {closings : List (ScopeClosing α)}

theorem ContextStack.Tracks.current_eq {stack? : Option (ContextStack α)}
    {opened : List (Nat × Option α)} (h : Tracks stack? opened) :
    stack?.bind (·.current) = latest opened := by
  cases stack? with
  | none =>
    dsimp [Tracks] at h
    rw [h]
    rfl
  | some stack => exact h.2.current_eq

theorem ThreadState.Follows.get_eq {thread other : ThreadState α} {opened : List (OpenScope α)}
    (h : thread.Follows opened) (hother : other.Follows opened) (access : CurrentContext) :
    access.get thread = access.get other :=
  (h access.slot).current_eq.trans (hother access.slot).current_eq.symm

namespace CorrelatedRun

theorem follows (run : CorrelatedRun first ambient opened closings) {outer : List (OpenScope α)}
    (h : first.thread.Follows outer) :
    ambient.thread.Follows (opened.map (·.toOpenScope) ++ outer) := by
  induction run with
  | start => exact h
  | opening view current context _ ih => exact ih.openScope current context
  | closing above entry below _ ih =>
    rw [List.map_append, List.append_assoc, List.map_cons] at ih
    rw [List.map_append, List.append_assoc]
    exact ih.closeScope
  | elsewhere other hstack _ _ ih =>
    intro slot
    rw [hstack]
    exact ih slot

theorem lookup_kept (run : CorrelatedRun first ambient opened closings) (name : String) :
    ∀ entry ∈ opened, ∀ before, entry.scope.kept.lookup name = some before →
      before = entry.found.get? name := by
  induction run with
  | start => simp
  | @opening ambient _ _ view current context _ ih =>
    intro entry hentry before hbefore
    cases List.mem_cons.1 hentry with
    | inl heq =>
      subst heq
      unfold CorrelatedScope.opening at *
      dsimp only at *
      rw [(current.openScope_correlation view context ambient).1] at hbefore
      cases CorrelationField.lookup_apply _ _ _ name with
      | inl hkept => exact Option.some.inj (hbefore.symm.trans hkept)
      | inr hkept => cases hbefore.symm.trans hkept.1
    | inr hmem => exact ih entry hmem before hbefore
  | closing above entry below _ ih =>
    intro other hother
    apply ih other
    exact ((List.sublist_cons_self entry below).append_left above).subset hother
  | elsewhere _ _ _ _ ih => exact ih

theorem get?_closeScope (run : CorrelatedRun first ambient opened closings)
    {entry : CorrelatedScope α} (hentry : entry ∈ opened) (name : String) :
    (CurrentContext.closeScope entry.scope ambient).2.thread.correlation.get? name =
      (entry.kept? name).getD (ambient.thread.correlation.get? name) := by
  rw [CurrentContext.correlation_closeScope, CorrelationField.get?_restore]
  unfold CorrelatedScope.kept? CorrelatedScope.keeps
  cases hkept : entry.scope.kept.lookup name with
  | none => rfl
  | some before => rw [run.lookup_kept name entry hentry before hkept]; rfl

theorem get?_eq_put_back (run : CorrelatedRun first ambient opened closings) {name : String}
    (hopened : ∀ entry ∈ opened, entry.keeps name = false) :
    ambient.thread.correlation.get? name =
      (closings.findSome? fun closing => closing.entry.kept? name).getD
        (first.thread.correlation.get? name) := by
  induction run with
  | start => rfl
  | @opening ambient opened closings view current context _ ih =>
    specialize ih fun entry hentry => hopened entry (List.mem_cons_of_mem _ hentry)
    rw [CorrelatedScope.get?_of_opening_keeps (hopened _ (List.mem_cons_self ..)), ih]
  | @closing ambient closings above entry below run ih =>
    rw [run.get?_closeScope (by simp) name, List.findSome?_cons]
    cases hkept : entry.kept? name with
    | some before => rfl
    | none =>
      apply ih
      intro other hother
      cases List.mem_append.1 hother with
      | inl habove => exact hopened other (List.mem_append_left below habove)
      | inr hrest =>
        cases List.mem_cons.1 hrest with
        | inl heq =>
          unfold CorrelatedScope.kept? at hkept
          rw [heq]
          simpa using hkept
        | inr hbelow => exact hopened other (List.mem_append_right above hbelow)
  | elsewhere other _ hvalues _ ih =>
    rw [hvalues]
    exact ih hopened

/--
The open scope that changed a name first found the value from before the run there, and without such
a scope the name has that value.
-/
theorem outermost (run : CorrelatedRun first ambient opened closings) {name : String}
    (h : ∀ closing ∈ closings, closing.InOrderFor name) :
    ((opened.filter (·.keeps name)).getLast?.map (·.found.get? name)).getD
        (ambient.thread.correlation.get? name) =
      first.thread.correlation.get? name := by
  induction run with
  | start => rfl
  | @opening ambient opened closings view current context _ ih =>
    specialize ih h
    rw [List.filter_cons]
    cases hkeeps : (CorrelatedScope.opening view current context ambient).keeps name with
    | true =>
      rw [if_pos rfl, List.getLast?_cons, Option.map_some, Option.getD_some]
      generalize (opened.filter (·.keeps name)).getLast? = last? at ih ⊢
      cases last? <;> exact ih
    | false =>
      rw [if_neg Bool.false_ne_true, CorrelatedScope.get?_of_opening_keeps hkeeps]
      exact ih
  | @closing ambient closings above entry below run ih =>
    specialize ih fun closing hclosing => h closing (List.mem_cons_of_mem _ hclosing)
    have horder := h _ (List.mem_cons_self ..)
    rw [run.get?_closeScope (by simp) name]
    rw [List.filter_append, List.filter_cons, List.getLast?_append] at ih
    rw [List.filter_append, List.getLast?_append]
    unfold CorrelatedScope.kept?
    by_cases hkeeps : entry.keeps name
    . rw [if_pos hkeeps, List.getLast?_cons] at ih
      rw [if_pos hkeeps]
      generalize hbelow : (below.filter (·.keeps name)).getLast? = last? at ih ⊢
      cases last? with
      | some last => exact ih
      | none =>
        -- it was the outermost one to change the name, so it closes as the last of those
        rw [List.getLast?_eq_none_iff] at hbelow
        rw [horder.filter_above_eq_nil hkeeps hbelow]
        exact ih
    . rw [if_neg hkeeps] at ih
      rw [if_neg hkeeps]
      exact ih
  | elsewhere other _ hvalues _ ih =>
    rw [hvalues]
    exact ih h

/--
Once all scopes of a run are closed, in whatever order, what was current before is current again. A
name has the value that the scope closed last found there, of those that changed it. That is the
value from before the run if the first scope to change the name outlasts the others that did.
-/
theorem get?_of_all_closed (run : CorrelatedRun first ambient [] closings)
    (outer : List (OpenScope α)) (follows : first.thread.Follows outer) :
    (∀ access : CurrentContext, access.get ambient.thread = access.get first.thread) ∧
    ∀ name,
      ambient.thread.correlation.get? name =
        (closings.findSome? fun closing => closing.entry.kept? name).getD
          (first.thread.correlation.get? name) ∧
      ((∀ closing ∈ closings, closing.InOrderFor name) →
        ambient.thread.correlation.get? name = first.thread.correlation.get? name) := by
  refine ⟨?_, ?_⟩
  . intro access
    exact (run.follows follows).get_eq follows access
  . intro name
    exact ⟨run.get?_eq_put_back (by simp), run.outermost⟩

theorem crossing (first : Ambient α) (view : α → Snapshot) (current : CurrentContext)
    (outer inner : Option α) :
    let outside := CorrelatedScope.opening view current outer first
    let between := (current.openScope view outer first).2
    let inside := CorrelatedScope.opening view current inner between
    let both := (current.openScope view inner between).2
    let left := (CurrentContext.closeScope outside.scope both).2
    CorrelatedRun first (CurrentContext.closeScope inside.scope left).2 []
      [⟨inside, [], []⟩, ⟨outside, [inside], []⟩] := by
  intro outside between inside both left
  have run : CorrelatedRun first first [] [] := .start
  have run := run.opening view current outer
  have run := run.opening view current inner
  have run := CorrelatedRun.closing [inside] outside [] run
  exact CorrelatedRun.closing [] inside [] run

theorem get?_of_all_closed_crossing :
    let access := CurrentContext.shared.withDecorator (.correlation CorrelationField.defaults)
    ∃ (ambient : Ambient Nat) (closings : List (ScopeClosing Nat)),
      CorrelatedRun (.fresh "main") ambient [] closings ∧
      (Ambient.fresh "main" : Ambient Nat).thread.Follows [] ∧
      closings.length = 2 ∧
      access.get ambient.thread = none ∧
      (∀ closing ∈ closings, closing.InOrderFor CorrelationField.traceIdName) ∧
      ambient.thread.correlation.get? CorrelationField.traceIdName = none := by
  intro access
  have run := crossing (.fresh "main")
    (fun n => { (default : Snapshot) with traceId := .ofNat 1, spanId := .ofNat n }) access
    (some 1) (some 2)
  have follows : (Ambient.fresh "main" : Ambient Nat).thread.Follows [] := fun _ => rfl
  obtain ⟨hcurrent, hvalue⟩ := get?_of_all_closed run [] follows
  specialize hvalue CorrelationField.traceIdName
  refine ⟨_, _, run, follows, rfl, hcurrent access, ?order, hvalue.2 ?order⟩
  decide

/--
The scope opened second puts back the span ID of the first, which is closed already.
-/
theorem get?_left_behind :
    let access := CurrentContext.shared.withDecorator (.correlation CorrelationField.defaults)
    ∃ (ambient : Ambient Nat) (closings : List (ScopeClosing Nat)),
      CorrelatedRun (.fresh "main") ambient [] closings ∧
      (∀ closing ∈ closings,
        closing.entry.scope.position? CurrentContext.sharedSlot ≠
          some ContextStack.overflowPosition) ∧
      access.get ambient.thread = none ∧
      (Ambient.fresh "main" : Ambient Nat).thread.correlation.get?
        CorrelationField.spanIdName = none ∧
      ambient.thread.correlation.get? CorrelationField.spanIdName = some "0000000000000001" := by
  intro access
  have run := crossing (.fresh "main")
    (fun n => { (default : Snapshot) with traceId := .ofNat 1, spanId := .ofNat n }) access
    (some 1) (some 2)
  exact ⟨_, _, run, by decide, by decide, rfl, by decide⟩

end CorrelatedRun

end RequestTracing
