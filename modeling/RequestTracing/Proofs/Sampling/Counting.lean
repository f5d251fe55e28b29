import Mathlib
import RequestTracing.Sampling.Sampler

/-!
This module contains runs of decisions of a sampler that samples an exact share of every hundred.
Main statement: any hundred decisions in a row, wherever they start, contain as many samples as the
sampler has places.
-/

namespace RequestTracing

namespace Draws

theorem choose_subperm (draws : Draws) (count : Nat) (places : List Nat) :
    (draws.choose count places).1.Subperm places := by
  induction count generalizing draws places with
  | zero => exact List.nil_subperm
  | succ count ih =>
    unfold choose
    dsimp only
    split
    . exact List.nil_subperm
    . next place hplace =>
      obtain ⟨hlt, hget⟩ := List.getElem?_eq_some_iff.1 hplace
      have hperm := List.getElem_cons_eraseIdx_perm hlt
      rw [hget] at hperm
      exact ((List.subperm_cons place).2 (ih _ _)).trans hperm.subperm

theorem length_choose (draws : Draws) {count : Nat} {places : List Nat}
    (h : count ≤ places.length) : (draws.choose count places).1.length = count := by
  induction count generalizing draws places with
  | zero => rfl
  | succ count ih =>
    have hlt : draws.next.1.toNat % places.length < places.length := by
      apply Nat.mod_lt
      omega
    unfold choose
    dsimp only
    rw [List.getElem?_eq_getElem hlt]
    dsimp only
    rw [List.length_cons, ih]
    rw [List.length_eraseIdx_of_lt hlt]
    omega

theorem nodup_choose (draws : Draws) (count : Nat) {places : List Nat} (h : places.Nodup) :
    (draws.choose count places).1.Nodup := by
  obtain ⟨chosen, hperm, hsublist⟩ := draws.choose_subperm count places
  exact hperm.nodup_iff.1 (h.sublist hsublist)

end Draws

theorem countP_range'_of_periodic {p : Nat → Bool} {period : Nat} (h : Function.Periodic p period)
    (start : Nat) : (List.range' start period).countP p = (List.range period).countP p := by
  have hcount := Nat.filter_Ico_card_eq_of_periodic start period (fun i => p i = true) fun i => by
    simp only [h i]
  unfold Nat.count at hcount
  rw [← List.toFinset_range'_1, ← List.toFinset_filter,
    List.toFinset_card_of_nodup ((List.nodup_range' 1).filter _)] at hcount
  rw [List.countP_eq_length_filter]
  simpa using hcount

namespace CountingSampler

/--
Holds for a sampler that is made to sample at so many of a hundred places.
-/
def MadeFor (count : Nat) (sampler : CountingSampler) : Prop :=
  ∃ places : List Nat, places.Nodup ∧ (∀ place ∈ places, place < 100) ∧ places.length = count ∧
    sampler = ofPlaces places

theorem madeFor_choose (draws : Draws) {count : Nat} (h : count ≤ 100) :
    (choose draws count).1.MadeFor count := by
  refine ⟨(draws.choose count (List.range 100)).1, ?_, ?_, ?_, rfl⟩
  . exact draws.nodup_choose count List.nodup_range
  . intro place hplace
    exact List.mem_range.1 ((draws.choose_subperm count _).subset hplace)
  . apply draws.length_choose
    rwa [List.length_range]

def decisionAt (sampler : CountingSampler) (counter : Nat) : Bool :=
  sampler.decisions.get ⟨counter % 100, Nat.mod_lt _ (by decide)⟩

theorem periodic_decisionAt (sampler : CountingSampler) :
    Function.Periodic sampler.decisionAt 100 := by
  intro counter
  unfold decisionAt
  simp

theorem decisionAt_ofPlaces (places : List Nat) (counter : Nat) :
    (ofPlaces places).decisionAt counter = decide (counter % 100 ∈ places) := by
  simp [decisionAt, ofPlaces]

theorem countP_decisionAt_ofPlaces {places : List Nat} (hnodup : places.Nodup)
    (hplaces : ∀ place ∈ places, place < 100) :
    (List.range 100).countP (ofPlaces places).decisionAt = places.length := by
  rw [List.countP_eq_length_filter]
  apply List.Perm.length_eq
  rw [List.perm_ext_iff_of_nodup (List.nodup_range.filter _) hnodup]
  intro place
  rw [List.mem_filter, List.mem_range, decisionAt_ofPlaces, decide_eq_true_iff]
  constructor
  . rintro ⟨hlt, hmem⟩
    rwa [Nat.mod_eq_of_lt hlt] at hmem
  . intro hmem
    have hlt := hplaces place hmem
    exact ⟨hlt, by rwa [Nat.mod_eq_of_lt hlt]⟩

def decisionsNext (sampler : CountingSampler) : Nat → List Bool
  | 0 => []
  | count + 1 =>
    let (sampled, sampler) := sampler.sample
    sampled :: sampler.decisionsNext count

theorem decisionsNext_eq (sampler : CountingSampler) {count : Nat}
    (h : sampler.counter.toNat + count < UInt64.size) :
    sampler.decisionsNext count =
      (List.range' sampler.counter.toNat count).map sampler.decisionAt := by
  induction count generalizing sampler with
  | zero => rfl
  | succ count ih =>
    have hnext : sampler.sample.2.counter.toNat = sampler.counter.toNat + 1 := by
      unfold sample
      dsimp only
      rw [UInt64.toNat_add, UInt64.toNat_one]
      apply Nat.mod_eq_of_lt
      unfold UInt64.size at h
      omega
    rw [decisionsNext, List.range'_succ, List.map_cons, ← hnext]
    exact congrArg (List.cons _) (ih sampler.sample.2 (by omega))

theorem sampleAll_counting (sampler : CountingSampler) (now : UInt64) (ids : List TraceId) :
    (Sampler.counting sampler).sampleAll now ids = sampler.decisionsNext ids.length := by
  induction ids generalizing sampler with
  | nil => rfl
  | cons id ids ih =>
    apply congrArg (List.cons _)
    apply ih

/--
Any hundred decisions in a row, wherever in a run they start, sample as often as the sampler was
made for.
-/
theorem count_any_hundred {sampler : CountingSampler} {count : Nat} (h : sampler.MadeFor count)
    {decisions start : Nat} (hrun : decisions < UInt64.size) (hstart : start + 100 ≤ decisions) :
    (((sampler.decisionsNext decisions).drop start).take 100).count true = count := by
  obtain ⟨places, hnodup, hplaces, hlength, hmade⟩ := h
  have hcounter : sampler.counter.toNat = 0 := by
    rw [hmade]
    rfl
  rw [decisionsNext_eq _ (by omega), hcounter, ← List.map_drop, ← List.map_take,
    List.drop_range', List.take_range'_of_length_ge (by omega), List.count, List.countP_map]
  calc
    _ = (List.range' start 100).countP sampler.decisionAt := by simp [Function.comp_def]
    _ = (List.range 100).countP sampler.decisionAt :=
      countP_range'_of_periodic sampler.periodic_decisionAt start
    _ = places.length := by
      rw [hmade]
      exact countP_decisionAt_ofPlaces hnodup hplaces
    _ = count := hlength

theorem count_any_hundred_across_rounds :
    let sampler := (choose (.ofSeed 7) 29).1
    let ids := List.replicate 250 TraceId.invalid
    sampler.MadeFor 29 ∧ ids.length < UInt64.size ∧ 137 + 100 ≤ ids.length ∧
      ((((Sampler.counting sampler).sampleAll 5 ids).drop 137).take 100).count true = 29 := by
  intro sampler ids
  have hmade : sampler.MadeFor 29 := madeFor_choose _ (by decide)
  have hlength : ids.length = 250 := List.length_replicate ..
  have hrun : ids.length < UInt64.size := by
    rw [hlength]
    unfold UInt64.size
    omega
  have hstart : 137 + 100 ≤ ids.length := by omega
  rw [sampleAll_counting]
  exact ⟨hmade, hrun, hstart, count_any_hundred hmade hrun hstart⟩

end CountingSampler

end RequestTracing
