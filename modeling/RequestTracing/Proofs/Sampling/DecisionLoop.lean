import Mathlib
import RequestTracing.Proofs.Sampling.RateLimiter

/-!
This module contains the loop in which a sampler that grants a number of traces per second decides.
Each pass either moves a window that is over or decides, and all sums are kept in words. Main
statement: the loop ends within two passes, and no sum in it is too large but the end of a window
that starts in the last second that can be told.
-/

namespace RequestTracing

def wordSum? (size a b : Nat) : Option Nat :=
  if a + b < size then some (a + b) else none

namespace Allowance

def totalsAfter? (total step : Nat) : Nat → Option (List Nat)
  | 0 => some []
  | count + 1 => do
    let next ← wordSum? UInt32.size total step
    return next :: (← totalsAfter? next step count)

def addedUp? (limit : Nat) : Option Allowance :=
  if limit < 10 then
    some (.flat limit)
  else do
    let first ← wordSum? UInt32.size (limit / 10) (limit % 10)
    return .stepped (first :: (← totalsAfter? first (limit / 10) 9))

end Allowance

namespace RateLimiter

inductive Addition where
  | windowEnd
  | granted
  deriving DecidableEq

inductive Pass where
  | moved (limiter : RateLimiter)
  | decided (granted : Bool) (limiter : RateLimiter)
  | overflowed (addition : Addition)

def pass (limiter : RateLimiter) (now : UInt64) : Pass :=
  if limiter.nextReset ≤ now.toNat then
    match wordSum? UInt64.size now.toNat secondNanos with
    | some nextReset => .moved { limiter with granted := 0, nextReset }
    | none => .overflowed .windowEnd
  else
    let elapsed := secondNanos - (limiter.nextReset - now.toNat)
    if limiter.granted < limiter.allowance.total elapsed then
      match wordSum? UInt32.size limiter.granted 1 with
      | some granted => .decided true { limiter with granted }
      | none => .overflowed .granted
    else
      .decided false limiter

def decideWithin (limiter : RateLimiter) (now : UInt64) :
    Nat → Option (Except Addition (Bool × RateLimiter))
  | 0 => none
  | passes + 1 =>
    match limiter.pass now with
    | .moved next => next.decideWithin now passes
    | .decided granted next => some (.ok (granted, next))
    | .overflowed addition => some (.error addition)

inductive Reached (limit : UInt32) : RateLimiter → Prop where
  | made : Reached limit (.ofLimit limit)
  | moved {limiter next : RateLimiter} {now : UInt64} (h : Reached limit limiter)
      (hpass : limiter.pass now = .moved next) : Reached limit next
  | decided {limiter next : RateLimiter} {now : UInt64} {granted : Bool} (h : Reached limit limiter)
      (hpass : limiter.pass now = .decided granted next) : Reached limit next

structure Bounded (limit : UInt32) (limiter : RateLimiter) : Prop where
  allowance : limiter.allowance = .ofLimit limit.toNat
  granted : limiter.granted ≤ limit.toNat
  nextReset : limiter.nextReset < UInt64.size

end RateLimiter

theorem wordSum?_of_lt {size a b : Nat} (h : a + b < size) : wordSum? size a b = some (a + b) :=
  if_pos h

theorem wordSum?_of_le {size a b : Nat} (h : size ≤ a + b) : wordSum? size a b = none := by
  unfold wordSum?
  rw [if_neg (by omega)]

namespace Allowance

theorem totalsAfter?_eq {total step count : Nat} (h : total + count * step < UInt32.size) :
    totalsAfter? total step count =
      some ((List.range count).map fun i => total + (i + 1) * step) := by
  induction count generalizing total with
  | zero => rfl
  | succ count ih =>
    rw [Nat.add_mul, Nat.one_mul] at h
    rw [totalsAfter?, wordSum?_of_lt (by omega)]
    simp only [Option.bind_eq_bind, Option.bind_some]
    rw [ih (by omega), List.range_succ_eq_map, List.map_cons, List.map_map]
    simp only [Option.bind_some, Option.pure_def, Option.some.injEq, List.cons.injEq]
    constructor
    . simp
    . apply List.map_congr_left
      intro i _
      simp only [Function.comp_apply, Nat.succ_eq_add_one]
      ring

theorem addedUp?_eq (limit : UInt32) : addedUp? limit.toNat = some (ofLimit limit.toNat) := by
  have hlt := limit.toNat_lt
  unfold addedUp? ofLimit
  split
  . rfl
  . have htenths : List.range 10 = 0 :: (List.range 9).map Nat.succ := rfl
    rw [wordSum?_of_lt (by unfold UInt32.size; omega)]
    simp only [Option.bind_eq_bind, Option.bind_some]
    rw [totalsAfter?_eq (by unfold UInt32.size; omega), htenths, List.map_cons, List.map_map,
      Nat.zero_mul, Nat.add_zero]
    rfl

theorem total_ofLimit_le (limit : Nat) {elapsed : Nat} (h : elapsed < RateLimiter.secondNanos) :
    (ofLimit limit).total elapsed ≤ limit := by
  rw [total_ofLimit limit h]
  apply permitted_le
  unfold RateLimiter.secondNanos at h
  omega

end Allowance

namespace RateLimiter

variable {limit : UInt32} {limiter next : RateLimiter} {now : UInt64}

theorem pass_of_over (hover : limiter.nextReset ≤ now.toNat)
    (hfits : now.toNat + secondNanos < UInt64.size) :
    limiter.pass now =
      .moved { limiter with granted := 0, nextReset := now.toNat + secondNanos } := by
  unfold pass
  rw [if_pos hover, wordSum?_of_lt hfits]

theorem pass_of_late (hover : limiter.nextReset ≤ now.toNat)
    (hlate : UInt64.size ≤ now.toNat + secondNanos) :
    limiter.pass now = .overflowed .windowEnd := by
  unfold pass
  rw [if_pos hover, wordSum?_of_le hlate]

theorem Bounded.total_le (h : limiter.Bounded limit) (hopen : now.toNat < limiter.nextReset) :
    limiter.allowance.total (secondNanos - (limiter.nextReset - now.toNat)) ≤ limit.toNat := by
  rw [h.allowance]
  apply Allowance.total_ofLimit_le
  unfold secondNanos
  omega

theorem Bounded.pass_of_open (h : limiter.Bounded limit) (hopen : now.toNat < limiter.nextReset) :
    limiter.pass now = .decided (limiter.grant now).1 (limiter.grant now).2 := by
  have htotal := h.total_le hopen
  have hlt := limit.toNat_lt
  unfold pass grant
  rw [if_neg (by omega)]
  dsimp only
  split
  . rw [wordSum?_of_lt (by unfold UInt32.size; omega)]
  . rfl

theorem Bounded.grant (h : limiter.Bounded limit) (hopen : now.toNat < limiter.nextReset) :
    (limiter.grant now).2.Bounded limit := by
  have htotal := h.total_le hopen
  unfold RateLimiter.grant
  dsimp only
  split
  . next hroom => exact ⟨h.allowance, by dsimp only; omega, h.nextReset⟩
  . exact h

theorem Bounded.move (h : limiter.Bounded limit) (hfits : now.toNat + secondNanos < UInt64.size) :
    Bounded limit { limiter with granted := 0, nextReset := now.toNat + secondNanos } :=
  ⟨h.allowance, Nat.zero_le _, hfits⟩

theorem Bounded.pass_of_moved (h : limiter.Bounded limit)
    (hfits : now.toNat + secondNanos < UInt64.size) :
    let moved := { limiter with granted := 0, nextReset := now.toNat + secondNanos }
    pass moved now = .decided (moved.grant now).1 (moved.grant now).2 := by
  apply (h.move hfits).pass_of_open
  unfold secondNanos
  dsimp only
  omega

theorem Bounded.pass_cases (h : limiter.Bounded limit) (now : UInt64) :
    (limiter.nextReset ≤ now.toNat ∧ now.toNat + secondNanos < UInt64.size ∧
      limiter.pass now =
        .moved { limiter with granted := 0, nextReset := now.toNat + secondNanos }) ∨
    (limiter.nextReset ≤ now.toNat ∧ UInt64.size ≤ now.toNat + secondNanos ∧
      limiter.pass now = .overflowed .windowEnd) ∨
    (now.toNat < limiter.nextReset ∧
      limiter.pass now = .decided (limiter.grant now).1 (limiter.grant now).2) := by
  by_cases hopen : now.toNat < limiter.nextReset
  . exact .inr (.inr ⟨hopen, h.pass_of_open hopen⟩)
  . have hover := Nat.le_of_not_lt hopen
    by_cases hfits : now.toNat + secondNanos < UInt64.size
    . exact .inl ⟨hover, hfits, pass_of_over hover hfits⟩
    . have hlate := Nat.le_of_not_lt hfits
      exact .inr (.inl ⟨hover, hlate, pass_of_late hover hlate⟩)

theorem bounded_ofLimit (limit : UInt32) : (ofLimit limit).Bounded limit :=
  ⟨rfl, Nat.zero_le _, by simp [ofLimit, secondNanos, UInt64.size]⟩

theorem Reached.bounded (h : Reached limit limiter) : limiter.Bounded limit := by
  induction h with
  | made => exact bounded_ofLimit limit
  | @moved limiter next now h hpass ih =>
    rcases ih.pass_cases now with ⟨_, hfits, heq⟩ | ⟨_, _, heq⟩ | ⟨_, heq⟩
    . rw [heq] at hpass
      cases hpass
      exact ih.move hfits
    . simp [heq] at hpass
    . simp [heq] at hpass
  | @decided limiter next now granted h hpass ih =>
    rcases ih.pass_cases now with ⟨_, _, heq⟩ | ⟨_, _, heq⟩ | ⟨hopen, heq⟩
    . simp [heq] at hpass
    . simp [heq] at hpass
    . rw [heq] at hpass
      cases hpass
      exact ih.grant hopen

def Addition.ofOverflow : ClockOverflow → Addition
  | .windowEnd => .windowEnd

theorem checkAvailability_of_open (hopen : now.toNat < limiter.nextReset) :
    limiter.checkAvailability now = .ok (limiter.grant now) := by
  unfold checkAvailability windowAt
  rw [if_neg (by omega)]
  rfl

theorem checkAvailability_of_over (hover : limiter.nextReset ≤ now.toNat)
    (hfits : now.toNat + secondNanos < UInt64.size) :
    limiter.checkAvailability now =
      .ok (grant { limiter with granted := 0, nextReset := now.toNat + secondNanos } now) := by
  unfold checkAvailability windowAt
  rw [if_pos hover, if_pos hfits]
  rfl

theorem checkAvailability_of_late (hover : limiter.nextReset ≤ now.toNat)
    (hlate : UInt64.size ≤ now.toNat + secondNanos) :
    limiter.checkAvailability now = .error .windowEnd := by
  unfold checkAvailability windowAt
  rw [if_pos hover, if_neg (by omega)]
  rfl

theorem Reached.checkAvailability (h : Reached limit limiter) {granted : Bool}
    (hcall : limiter.checkAvailability now = .ok (granted, next)) : Reached limit next := by
  rcases h.bounded.pass_cases now with ⟨hover, hfits, hpass⟩ | ⟨hover, hlate, _⟩ | ⟨hopen, hpass⟩
  . have hdecided := h.bounded.pass_of_moved hfits
    dsimp only at hdecided
    rw [checkAvailability_of_over hover hfits, Except.ok.injEq] at hcall
    rw [hcall] at hdecided
    exact (h.moved hpass).decided hdecided
  . rw [checkAvailability_of_late hover hlate] at hcall
    cases hcall
  . rw [checkAvailability_of_open hopen, Except.ok.injEq] at hcall
    rw [hcall] at hpass
    exact h.decided hpass

theorem Bounded.decideWithin (h : limiter.Bounded limit) (now : UInt64) (more : Nat) :
    limiter.decideWithin now (more + 2) =
      some ((limiter.checkAvailability now).mapError Addition.ofOverflow) := by
  rw [RateLimiter.decideWithin]
  rcases h.pass_cases now with ⟨hover, hfits, hpass⟩ | ⟨hover, hlate, hpass⟩ | ⟨hopen, hpass⟩
  . rw [hpass, checkAvailability_of_over hover hfits]
    dsimp only
    rw [RateLimiter.decideWithin, h.pass_of_moved hfits]
    rfl
  . rw [hpass, checkAvailability_of_late hover hlate]
    rfl
  . rw [hpass, checkAvailability_of_open hopen]
    rfl

theorem exists_checkAvailability_iff :
    (∃ answer, limiter.checkAvailability now = .ok answer) ↔
      now.toNat < limiter.nextReset ∨ now.toNat + secondNanos < UInt64.size := by
  by_cases hopen : now.toNat < limiter.nextReset
  . simp [checkAvailability_of_open hopen, hopen]
  . have hover := Nat.le_of_not_lt hopen
    by_cases hfits : now.toNat + secondNanos < UInt64.size
    . simp [checkAvailability_of_over hover hfits, hfits]
    . simp [checkAvailability_of_late hover (Nat.le_of_not_lt hfits), hopen, hfits]

/--
Whatever was decided before, at whatever times: the totals of the allowance can be added up in
words, and the loop ends within two passes. It decides while a window is open, or when the end of a
new one can be told; otherwise that end is the one sum that is too large.
-/
theorem loop_ends_within_two_passes (h : Reached limit limiter) (now : UInt64) :
    Allowance.addedUp? limit.toNat = some limiter.allowance ∧
    (∀ passes ≥ 2, limiter.decideWithin now passes =
      some ((limiter.checkAvailability now).mapError Addition.ofOverflow)) ∧
    ((∃ answer, limiter.checkAvailability now = .ok answer) ↔
      now.toNat < limiter.nextReset ∨ now.toNat + secondNanos < UInt64.size) := by
  refine ⟨?_, ?_, exists_checkAvailability_iff⟩
  . rw [h.bounded.allowance, Allowance.addedUp?_eq]
  . intro passes hpasses
    obtain ⟨more, rfl⟩ := Nat.exists_eq_add_of_le' hpasses
    exact h.bounded.decideWithin now more

theorem loop_ends_within_two_passes_last_window :
    let late : UInt64 := 18446744072709551615
    let latest : UInt64 := 18446744073709551614
    ∃ limiter, (ofLimit 15).checkAvailability late = .ok (true, limiter) ∧ Reached 15 limiter ∧
      limiter.decideWithin latest 2 =
        some ((limiter.checkAvailability latest).mapError .ofOverflow) ∧
      ∃ answer, limiter.checkAvailability latest = .ok answer := by
  intro late latest
  have hcall : (ofLimit 15).checkAvailability late =
      .ok (true, ⟨.ofLimit 15, 1, 18446744073709551615⟩) := by cbv
  have hreached := Reached.made.checkAvailability hcall
  obtain ⟨_, hloop, hdecides⟩ := loop_ends_within_two_passes hreached latest
  have hopen : latest.toNat < 18446744073709551615 := Nat.lt_succ_self _
  exact ⟨_, hcall, hreached, hloop 2 (Nat.le_refl 2), hdecides.2 (.inl hopen)⟩

theorem undecided_in_last_second :
    Reached 5 (ofLimit 5) ∧
      (ofLimit 5).decideWithin 18446744073709551615 1 = some (.error .windowEnd) ∧
      ¬∃ answer, (ofLimit 5).checkAvailability 18446744073709551615 = .ok answer := by
  refine ⟨.made, rfl, ?_⟩
  rintro ⟨answer, hanswer⟩
  cases hanswer

end RateLimiter

end RequestTracing
