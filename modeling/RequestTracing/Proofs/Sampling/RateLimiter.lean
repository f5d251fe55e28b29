import Mathlib
import RequestTracing.Sampling.RateLimiter

/-!
This module contains sequences of decisions of a sampler that grants a number of traces per second.
Main statement: what is granted in a window never exceeds what may be granted up to then, and
nothing is refused before that much was granted.
-/

namespace RequestTracing

def Allowance.permitted (limit tenth : Nat) : Nat :=
  if limit < 10 then limit else limit / 10 + limit % 10 + tenth * (limit / 10)

namespace Allowance

theorem total_ofLimit (limit : Nat) {elapsed : Nat} (h : elapsed < RateLimiter.secondNanos) :
    (ofLimit limit).total elapsed = permitted limit (elapsed / 100000000) := by
  unfold RateLimiter.secondNanos at h
  unfold ofLimit permitted
  split
  . rfl
  . have htenth : elapsed / 100000000 < 10 := by omega
    unfold total
    dsimp only
    rw [Nat.min_eq_left (by omega), List.getD_eq_getElem?_getD, List.getElem?_map,
      List.getElem?_range htenth]
    rfl

theorem permitted_mono (limit : Nat) {tenth later : Nat} (h : tenth ≤ later) :
    permitted limit tenth ≤ permitted limit later := by
  unfold permitted
  split
  . exact Nat.le_refl limit
  . exact Nat.add_le_add_left (Nat.mul_le_mul_right _ h) _

theorem permitted_le (limit : Nat) {tenth : Nat} (h : tenth ≤ 9) :
    permitted limit tenth ≤ limit := by
  apply Nat.le_trans (permitted_mono limit h)
  unfold permitted
  split
  . exact Nat.le_refl limit
  . omega

end Allowance

namespace RateLimiter

/--
One decision: when it was asked for, when the window of that time started, and whether a trace was
granted.
-/
structure Call where
  time : Nat
  window : Nat
  granted : Bool

def openWindow : List Call → Nat
  | [] => 0
  | call :: _ => call.window

/--
The start of the window of a time: that of the open one, or the time itself when the open one has
lasted for a second.
-/
def windowStart (start now : Nat) : Nat :=
  if start + secondNanos ≤ now then now else start

def grants (window time : Nat) (calls : List Call) : Nat :=
  calls.countP fun call => call.granted ∧ call.window = window ∧ call.time ≤ time

def call (state : RateLimiter × List Call) (now : UInt64) :
    Except ClockOverflow (RateLimiter × List Call) := do
  let (granted, limiter) ← state.1.checkAvailability now
  return (limiter, ⟨now.toNat, windowStart (openWindow state.2) now.toNat, granted⟩ :: state.2)

def callAll (limiter : RateLimiter) (times : List UInt64) :
    Except ClockOverflow (RateLimiter × List Call) :=
  times.foldlM call (limiter, [])

structure Answers (limit : Nat) (call : Call) (earlier : List Call) : Prop where
  ordered : ∀ other ∈ earlier, other.time ≤ call.time
  window : call.window = windowStart (openWindow earlier) call.time
  granted : call.granted =
    decide (grants call.window call.time earlier <
      Allowance.permitted limit ((call.time - call.window) / 100000000))

structure Fair (limit : Nat) (calls : List Call) : Prop where
  answers : ∀ call earlier, call :: earlier <:+ calls → Answers limit call earlier
  span : ∀ call ∈ calls, call.window ≤ call.time ∧ call.time < call.window + secondNanos
  latest : ∀ call ∈ calls, call.window ≤ openWindow calls
  within : ∀ window time, window ≤ time → time < window + secondNanos →
    grants window time calls ≤ Allowance.permitted limit ((time - window) / 100000000)

structure Follows (limit : Nat) (limiter : RateLimiter) (calls : List Call) : Prop where
  allowance : limiter.allowance = .ofLimit limit
  nextReset : limiter.nextReset = openWindow calls + secondNanos
  granted : ∀ time, (∀ call ∈ calls, call.time ≤ time) →
    limiter.granted = grants (openWindow calls) time calls

variable {limit : Nat} {limiter : RateLimiter} {calls : List Call}

theorem openWindow_cons (call : Call) (calls : List Call) :
    openWindow (call :: calls) = call.window :=
  rfl

theorem grants_cons (window time : Nat) (call : Call) (calls : List Call) :
    grants window time (call :: calls) =
      grants window time calls +
        if call.granted ∧ call.window = window ∧ call.time ≤ time then 1 else 0 := by
  unfold grants
  rw [List.countP_cons]
  simp only [decide_eq_true_eq]

theorem grants_congr {window time later : Nat} (htime : ∀ call ∈ calls, call.time ≤ time)
    (h : time ≤ later) : grants window later calls = grants window time calls := by
  unfold grants
  apply List.countP_congr
  intro call hcall
  have hbefore := htime call hcall
  simp only [decide_eq_true_eq, hbefore, Nat.le_trans hbefore h]

theorem grants_of_later {window time : Nat} (h : ∀ call ∈ calls, call.window < window) :
    grants window time calls = 0 := by
  unfold grants
  rw [List.countP_eq_zero]
  intro call hcall
  have := h call hcall
  simp only [decide_eq_true_eq]
  omega

theorem windowStart_span {start now : Nat} (h : start ≤ now) :
    windowStart start now ≤ now ∧ now < windowStart start now + secondNanos := by
  unfold windowStart secondNanos
  split <;> omega

theorem Follows.windowAt (h : Follows limit limiter calls) (fair : Fair limit calls) {now : UInt64}
    (hnow : ∀ call ∈ calls, call.time ≤ now.toNat)
    (hbound : now.toNat + secondNanos < UInt64.size) :
    limiter.windowAt now =
      .ok ⟨.ofLimit limit,
        grants (windowStart (openWindow calls) now.toNat) now.toNat calls,
        windowStart (openWindow calls) now.toNat + secondNanos⟩ := by
  unfold RateLimiter.windowAt windowStart
  rw [h.nextReset]
  split
  . next hended =>
    -- No call so far is in the window that starts now.
    have hnew : grants now.toNat now.toNat calls = 0 := by
      apply grants_of_later
      intro call hcall
      have := fair.latest call hcall
      unfold secondNanos at hended
      omega
    rw [hnew, h.allowance]
  . rw [← h.granted now.toNat hnow, ← h.nextReset, ← h.allowance]

theorem grant_eq (limit granted : Nat) {window : Nat} {now : UInt64}
    (hspan : window ≤ now.toNat ∧ now.toNat < window + secondNanos) :
    grant ⟨.ofLimit limit, granted, window + secondNanos⟩ now =
      let answer := decide
        (granted < Allowance.permitted limit ((now.toNat - window) / 100000000))
      (answer, ⟨.ofLimit limit, granted + answer.toNat, window + secondNanos⟩) := by
  have helapsed : secondNanos - (window + secondNanos - now.toNat) = now.toNat - window := by
    omega
  unfold grant
  dsimp only
  rw [helapsed, Allowance.total_ofLimit limit (by omega)]
  split
  . next hroom => simp [hroom]
  . next hfull => simp [hfull]

theorem Fair.openWindow_le (fair : Fair limit calls) {now : Nat}
    (hnow : ∀ call ∈ calls, call.time ≤ now) : openWindow calls ≤ now := by
  cases calls with
  | nil => exact Nat.zero_le now
  | cons last calls =>
    have hspan := fair.span last (List.mem_cons_self ..)
    exact Nat.le_trans hspan.1 (hnow last (List.mem_cons_self ..))

theorem Fair.cons (fair : Fair limit calls) {last : Call} (hlast : Answers limit last calls) :
    Fair limit (last :: calls) := by
  have hopen := fair.openWindow_le hlast.ordered
  have hspan := windowStart_span hopen
  rw [← hlast.window] at hspan
  refine ⟨?_, ?_, ?_, ?_⟩
  . intro call earlier hsuffix
    cases List.suffix_cons_iff.1 hsuffix with
    | inl heq =>
      obtain ⟨rfl, rfl⟩ := List.cons.inj heq
      exact hlast
    | inr hsuffix => exact fair.answers call earlier hsuffix
  . intro call hcall
    cases List.mem_cons.1 hcall with
    | inl heq =>
      rw [heq]
      exact hspan
    | inr hmem => exact fair.span call hmem
  . intro call hcall
    show call.window ≤ last.window
    cases List.mem_cons.1 hcall with
    | inl heq => rw [heq]
    | inr hmem =>
      have hle := fair.latest call hmem
      have hstart := hlast.window
      unfold windowStart at hstart
      split at hstart <;> omega
  . intro window time hwindow htime
    rw [grants_cons]
    split
    . next hcounted =>
      -- The last call was granted, so there was room left at its time, and the allowance grows.
      obtain ⟨hgranted, rfl, hbefore⟩ := hcounted
      rw [hlast.granted, decide_eq_true_eq] at hgranted
      rw [grants_congr hlast.ordered hbefore]
      have hgrows : (last.time - last.window) / 100000000 ≤ (time - last.window) / 100000000 :=
        Nat.div_le_div_right (Nat.sub_le_sub_right hbefore _)
      exact Nat.le_trans hgranted (Allowance.permitted_mono limit hgrows)
    . exact fair.within window time hwindow htime

theorem Fair.grants_le (fair : Fair limit calls) (window time : Nat) :
    grants window time calls ≤ limit := by
  obtain ⟨last, hlast⟩ : ∃ last, last + 1 = window + secondNanos :=
    ⟨window + 999999999, by unfold secondNanos; omega⟩
  have hall : grants window time calls ≤ grants window last calls := by
    apply List.countP_mono_left
    intro call hcall hcounted
    have hspan := (fair.span call hcall).2
    simp only [decide_eq_true_eq] at hcounted ⊢
    refine ⟨hcounted.1, hcounted.2.1, ?_⟩
    omega
  have hpermitted := fair.within window last (by unfold secondNanos at hlast; omega) (by omega)
  have htenth : (last - window) / 100000000 ≤ 9 := by
    unfold secondNanos at hlast
    omega
  exact Nat.le_trans hall (Nat.le_trans hpermitted (Allowance.permitted_le limit htenth))

theorem Follows.call (h : Follows limit limiter calls) (fair : Fair limit calls) {now : UInt64}
    (hnow : ∀ call ∈ calls, call.time ≤ now.toNat)
    (hbound : now.toNat + secondNanos < UInt64.size) :
    ∃ limiter' last, call (limiter, calls) now = .ok (limiter', last :: calls) ∧
      last.time = now.toNat ∧ Answers limit last calls ∧
      Follows limit limiter' (last :: calls) := by
  have hwindow := h.windowAt fair hnow hbound
  have hspan := windowStart_span (fair.openWindow_le hnow)
  generalize hstart : windowStart (openWindow calls) now.toNat = start at hwindow hspan
  have hgrant := grant_eq limit (grants start now.toNat calls) hspan
  dsimp only at hgrant
  generalize hanswer : decide (grants start now.toNat calls <
    Allowance.permitted limit ((now.toNat - start) / 100000000)) = answer at hgrant
  refine ⟨⟨.ofLimit limit, grants start now.toNat calls + answer.toNat, start + secondNanos⟩,
    ⟨now.toNat, start, answer⟩, ?_, rfl, ⟨hnow, hstart.symm, hanswer.symm⟩, ?_⟩
  . unfold RateLimiter.call checkAvailability
    simp only [hwindow, hstart, bind, Except.bind, pure, Except.pure, hgrant]
  . constructor
    . rfl
    . rw [openWindow_cons]
    . intro time htime
      have hlast := htime _ (List.mem_cons_self ..)
      rw [openWindow_cons, grants_cons, grants_congr hnow hlast]
      cases answer <;> simp [hlast]

theorem Follows.foldlM_call (h : Follows limit limiter calls) (fair : Fair limit calls)
    {times : List UInt64} (sorted : times.Pairwise (· ≤ ·))
    (hnow : ∀ now ∈ times, ∀ call ∈ calls, call.time ≤ now.toNat)
    (hbound : ∀ now ∈ times, now.toNat + secondNanos < UInt64.size) :
    ∃ limiter' later, times.foldlM RateLimiter.call (limiter, calls) =
        .ok (limiter', later ++ calls) ∧
      later.map Call.time = (times.map UInt64.toNat).reverse ∧ Fair limit (later ++ calls) := by
  induction times generalizing limiter calls with
  | nil => exact ⟨limiter, [], rfl, rfl, fair⟩
  | cons now times ih =>
    rw [List.pairwise_cons] at sorted
    obtain ⟨next, last, hcall, htime, hanswers, hnext⟩ := h.call fair
      (hnow now (List.mem_cons_self ..)) (hbound now (List.mem_cons_self ..))
    have hlater : ∀ later ∈ times, ∀ call ∈ last :: calls, call.time ≤ later.toNat := by
      intro later hlater call hcall
      cases List.mem_cons.1 hcall with
      | inl heq =>
        rw [heq, htime]
        exact UInt64.le_iff_toNat_le.1 (sorted.1 later hlater)
      | inr hmem => exact hnow later (List.mem_cons_of_mem _ hlater) call hmem
    obtain ⟨limiter', later, hrun, htimes, hfair⟩ := ih hnext (fair.cons hanswers) sorted.2 hlater
      fun later hlater => hbound later (List.mem_cons_of_mem _ hlater)
    refine ⟨limiter', later ++ [last], ?_, ?_, ?_⟩
    . rw [List.foldlM_cons, hcall, List.append_assoc]
      exact hrun
    . rw [List.map_append, htimes, List.map_singleton, htime, List.map_cons, List.reverse_cons]
    . rwa [List.append_assoc]

theorem fair_nil (limit : Nat) : Fair limit [] := by
  refine ⟨?_, by simp, by simp, by simp [grants]⟩
  intro call earlier hsuffix
  simp at hsuffix

theorem follows_ofLimit (limit : UInt32) : Follows limit.toNat (ofLimit limit) [] := by
  refine ⟨rfl, ?_, fun _ _ => rfl⟩
  unfold ofLimit openWindow
  rw [Nat.zero_add]

/--
Every call is answered. A window starts at a call that finds the last one over; in the tenths of a
window no more is granted than its share of the limit, and as long as less was granted, no call is
refused.
-/
theorem grants_within_allowance (limit : UInt32) {times : List UInt64}
    (sorted : times.Pairwise (· ≤ ·))
    (bound : ∀ time ∈ times, time.toNat + secondNanos < UInt64.size) :
    ∃ limiter calls, callAll (ofLimit limit) times = .ok (limiter, calls) ∧
      calls.map Call.time = (times.map UInt64.toNat).reverse ∧
      (∀ call earlier, call :: earlier <:+ calls →
        call.window = windowStart (openWindow earlier) call.time) ∧
      (∀ window time, window ≤ time → time < window + secondNanos →
        grants window time calls ≤
          Allowance.permitted limit.toNat ((time - window) / 100000000)) ∧
      (∀ window time, grants window time calls ≤ limit.toNat) ∧
      ∀ call earlier, call :: earlier <:+ calls → call.granted = false →
        Allowance.permitted limit.toNat ((call.time - call.window) / 100000000) ≤
          grants call.window call.time earlier := by
  obtain ⟨limiter, calls, hrun, htimes, fair⟩ := (follows_ofLimit limit).foldlM_call
    (fair_nil limit.toNat) sorted (by simp) bound
  rw [List.append_nil] at hrun fair
  refine ⟨limiter, calls, hrun, htimes, ?_, fair.within, fair.grants_le, ?_⟩
  . intro call earlier hsuffix
    exact (fair.answers call earlier hsuffix).window
  . intro call earlier hsuffix hrefused
    have hanswer := (fair.answers call earlier hsuffix).granted
    rw [hrefused, eq_comm, decide_eq_false_iff_not] at hanswer
    exact Nat.le_of_not_lt hanswer

theorem grants_within_allowance_burst :
    let times : List UInt64 := [0, 0, 0, 0, 0, 0, 0, 999999999, 1000000000]
    times.Pairwise (· ≤ ·) ∧ (∀ time ∈ times, time.toNat + secondNanos < UInt64.size) ∧
      ∃ limiter calls, callAll (ofLimit 15) times = .ok (limiter, calls) ∧
        grants 0 0 calls ≤ 6 ∧ grants 0 999999999 calls ≤ 15 := by
  intro times
  have sorted : times.Pairwise (· ≤ ·) := by decide
  have bound : ∀ time ∈ times, time.toNat + secondNanos < UInt64.size := by
    simp [times, secondNanos, UInt64.size]
  obtain ⟨limiter, calls, hrun, _, _, hwithin, hlimit, _⟩ :=
    grants_within_allowance 15 sorted bound
  have hburst := hwithin 0 0 (Nat.le_refl 0) (by simp [secondNanos])
  have hpermitted : Allowance.permitted (15 : UInt32).toNat ((0 - 0) / 100000000) = 6 := by
    simp [Allowance.permitted]
  rw [hpermitted] at hburst
  exact ⟨sorted, bound, limiter, calls, hrun, hburst, hlimit 0 999999999⟩

end RateLimiter

end RequestTracing
