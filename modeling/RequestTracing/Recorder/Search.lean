/-!
This module contains the search for the first number with a property, where one is known to exist.
Main statement: what the search finds has the property.
-/

namespace RequestTracing.Search

noncomputable def distance (p : Nat → Bool) (start : Nat) : Nat :=
  Classical.epsilon fun k => p (start + k) = true ∧ ∀ j, j < k → p (start + j) = false

theorem exists_least (p : Nat → Bool) (start : Nat) (h : ∃ k, p (start + k) = true) :
    ∃ k, p (start + k) = true ∧ ∀ j, j < k → p (start + j) = false := by
  obtain ⟨k, hk⟩ := h
  induction k using Nat.strongRecOn with
  | ind k ih =>
    by_cases hj : ∃ j, j < k ∧ p (start + j) = true
    . obtain ⟨j, hlt, hp⟩ := hj
      exact ih j hlt hp
    . refine ⟨k, hk, fun j hlt => ?_⟩
      cases hp : p (start + j) with
      | false => rfl
      | true => exact absurd ⟨j, hlt, hp⟩ hj

theorem distance_spec {p : Nat → Bool} {start : Nat} (h : ∃ k, p (start + k) = true) :
    p (start + distance p start) = true ∧ ∀ j, j < distance p start → p (start + j) = false :=
  Classical.epsilon_spec (exists_least p start h)

theorem exists_from_succ {p : Nat → Bool} {start : Nat} (h : ∃ k, p (start + k) = true)
    (hp : ¬p start = true) : ∃ k, p (start + 1 + k) = true := by
  obtain ⟨k, hk⟩ := h
  cases k with
  | zero => exact absurd hk hp
  | succ k => exact ⟨k, by rw [Nat.add_right_comm]; exact hk⟩

theorem distance_succ_lt {p : Nat → Bool} {start : Nat} (h : ∃ k, p (start + k) = true)
    (hp : ¬p start = true) : distance p (start + 1) < distance p start := by
  have here := distance_spec h
  have after := distance_spec (exists_from_succ h hp)
  cases hd : distance p start with
  | zero =>
    rw [hd] at here
    exact absurd here.1 hp
  | succ d =>
    rw [hd] at here
    have hit : p (start + 1 + d) = true := by rw [Nat.add_right_comm]; exact here.1
    refine Nat.lt_succ_of_le (Nat.le_of_not_lt fun hlt => ?_)
    exact absurd (after.2 d hlt) (by simp [hit])

def first (p : Nat → Bool) (start : Nat) (h : ∃ k, p (start + k) = true) : Nat :=
  if hp : p start = true then start else first p (start + 1) (exists_from_succ h hp)
termination_by distance p start
decreasing_by exact distance_succ_lt h hp

theorem first_of_accepted {p : Nat → Bool} {start : Nat} (hp : p start = true)
    (h : ∃ k, p (start + k) = true) : first p start h = start := by
  unfold first
  rw [dif_pos hp]

theorem first_accepted (p : Nat → Bool) (start : Nat) (h : ∃ k, p (start + k) = true) :
    p (first p start h) = true := by
  fun_induction first p start h with
  | case1 start h hp => exact hp
  | case2 start h hp ih => exact ih

end RequestTracing.Search
