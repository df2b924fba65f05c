import BenchReport.Extraction
import Mathlib.Data.List.Basic

namespace BenchReport.Measurement

structure IsStableSort (ms sorted : List Measurement) : Prop where
  perm : sorted.Perm ms
  ordered : sorted.Pairwise fun a b => a.timeNs ≤ b.timeNs
  stable : ∀ t, sorted.filter (·.timeNs == t) = ms.filter (·.timeNs == t)

lemma isStableSort_sort (ms : List Measurement) : IsStableSort ms (sort ms) := by
  have htrans (a b c : Measurement) : decide (a.timeNs ≤ b.timeNs) → decide (b.timeNs ≤ c.timeNs) →
      decide (a.timeNs ≤ c.timeNs) := by
    simpa using UInt64.le_trans
  have htotal (a b : Measurement) : decide (a.timeNs ≤ b.timeNs) || decide (b.timeNs ≤ a.timeNs) := by
    simpa using UInt64.le_total a.timeNs b.timeNs
  have hperm : (sort ms).Perm ms := List.mergeSort_perm ms _
  refine ⟨hperm, ?_, ?_⟩
  · simpa [sort] using List.pairwise_mergeSort htrans htotal ms
  · intro t
    have hc : (ms.filter (·.timeNs == t)).Pairwise fun a b => decide (a.timeNs ≤ b.timeNs) = true := by
      apply List.pairwise_of_forall_mem_list
      intro a ha b hb
      have hat := beq_iff_eq.mp (List.mem_filter.mp ha).2
      have hbt := beq_iff_eq.mp (List.mem_filter.mp hb).2
      simp [hat, hbt]
    have hsub := (List.sublist_mergeSort htrans htotal hc List.filter_sublist).filter (·.timeNs == t)
    rw [List.filter_filter] at hsub
    simp only [Bool.and_self] at hsub
    exact (hsub.eq_of_length (hperm.filter _).length_eq.symm).symm

variable {ms as bs : List Measurement}

lemma mem_iff_of_filter (hf : ∀ t, as.filter (·.timeNs == t) = bs.filter (·.timeNs == t)) {a : Measurement} :
    a ∈ as ↔ a ∈ bs := by
  have ha := congrArg (a ∈ ·) (hf a.timeNs)
  simpa using ha

lemma eq_of_pairwise_of_filter (ha : as.Pairwise fun a b => a.timeNs ≤ b.timeNs)
    (hb : bs.Pairwise fun a b => a.timeNs ≤ b.timeNs)
    (hf : ∀ t, as.filter (·.timeNs == t) = bs.filter (·.timeNs == t)) : as = bs := by
  induction as generalizing bs with
  | nil =>
    apply Eq.symm
    apply List.eq_nil_iff_forall_not_mem.mpr
    intro b hm
    exact List.not_mem_nil ((mem_iff_of_filter hf).mpr hm)
  | cons a as ih =>
    cases bs with
    | nil => exact absurd ((mem_iff_of_filter hf).mp List.mem_cons_self) List.not_mem_nil
    | cons b bs =>
      rw [List.pairwise_cons] at ha hb
      have hle : a.timeNs ≤ b.timeNs := by
        rcases List.mem_cons.mp ((mem_iff_of_filter hf).mpr List.mem_cons_self) with rfl | hm
        · exact UInt64.le_refl _
        · exact ha.1 b hm
      have hge : b.timeNs ≤ a.timeNs := by
        rcases List.mem_cons.mp ((mem_iff_of_filter hf).mp List.mem_cons_self) with rfl | hm
        · exact UInt64.le_refl _
        · exact hb.1 a hm
      have htime : b.timeNs = a.timeNs := UInt64.le_antisymm hge hle
      -- the first of all that have the least time are the same, so are the lists behind them
      have hfirst := hf a.timeNs
      rw [List.filter_cons_of_pos (by simp), List.filter_cons_of_pos (by simp [htime])] at hfirst
      obtain rfl := (List.cons.inj hfirst).1
      have htail : ∀ t, as.filter (·.timeNs == t) = bs.filter (·.timeNs == t) := by
        intro t
        have ht := hf t
        simp only [List.filter_cons] at ht
        split at ht
        · exact (List.cons.inj ht).2
        · exact ht
      rw [ih ha.2 hb.2 htail]

lemma isStableSort_iff : IsStableSort ms as ↔ as = sort ms := by
  constructor
  · intro h
    have hs := isStableSort_sort ms
    exact eq_of_pairwise_of_filter h.ordered hs.ordered fun t => (h.stable t).trans (hs.stable t).symm
  · rintro rfl
    exact isStableSort_sort ms

end BenchReport.Measurement
