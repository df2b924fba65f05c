import BenchReport.Proofs.DerivedTimes
import BenchReport.Proofs.StableOrder

/-! Measurements in order of their nanoseconds are in order in every unit: two roundings keep the order, and so do the
numerals in which the report writes the times. -/

namespace BenchReport

open Decimal

variable {x y : Binary64} {d d' : Decimal}

lemma Binary64.IsShortest.value_le_of_lt (hx : x.IsShortest d) (hy : y.IsShortest d') (h : x.value < y.value) :
    d.value ≤ d'.value := by
  by_contra hlt
  have hle := hy.reads.value_mono hx.reads d'.value_nonneg (not_le.mp hlt).le
  exact absurd h (not_lt_of_ge hle)

lemma Layout.value_decimal_mono (l : Layout) (hx : x.IsCanonical) (hy : y.IsCanonical) (h : x.value ≤ y.value) :
    (l.decimal x).value ≤ (l.decimal y).value := by
  rcases h.lt_or_eq with hlt | heq
  · exact (l.isShortest_decimal hx).value_le_of_lt (l.isShortest_decimal hy) hlt
  · rw [hx.eq_of_value_eq hy heq]

lemma Decimal.denotes_toDigits (n : ℕ) : Denotes (Nat.toDigits 10 n) n := by
  have hds := Report.digits_toDigits n
  refine ⟨⟨n, 0⟩, ?_, by simp [value]⟩
  rw [read?, cut_of_not_mem (not_mem_of_digits hds rfl)]
  dsimp only
  rw [readPoint?_whole hds Nat.toDigits_ne_nil, Nat.ofDigitChars_ten_toDigits]

namespace Measurement

variable {a b : Measurement} {j : ℕ}

def Shows (m : Measurement) (key : String) (q : ℚ) : Prop := ∃ w, (Report.fields m).lookup key = some w ∧ Denotes w q

def IsQuotient (n unit : ℕ) (x : Binary64) : Prop := ∃ y : Binary64, y.IsNearest n ∧ x.IsNearest (y.value / unit)

def timeColumns : List String := ["time_ns", "time_us", "time_ms"]

structure Precedes (a b : Measurement) : Prop where
  ns : a.timeNs ≤ b.timeNs
  us : a.timeUs.value ≤ b.timeUs.value
  ms : a.timeMs.value ≤ b.timeMs.value
  shown : ∀ key ∈ timeColumns, ∃ q r, a.Shows key q ∧ b.Shows key r ∧ q ≤ r

lemma timeUs_eq (m : Measurement) : m.timeUs = m.inUnits 3 := rfl

lemma timeMs_eq (m : Measurement) : m.timeMs = m.inUnits 6 := rfl

lemma isQuotient_inUnits (m : Measurement) (hj : j ≤ 6) : IsQuotient m.timeNs.toNat (10 ^ j) (m.inUnits j) := by
  refine ⟨_, Binary64.isNearest_ofNat _, ?_⟩
  have h := m.isNearest_inUnits hj
  exact_mod_cast h

lemma value_inUnits_mono (h : a.timeNs ≤ b.timeNs) (hj : j ≤ 6) : (a.inUnits j).value ≤ (b.inUnits j).value := by
  have hn : (a.timeNs.toNat : ℚ) ≤ b.timeNs.toNat := Nat.cast_le.mpr h
  have hrounded := (Binary64.isNearest_ofNat _).value_mono (Binary64.isNearest_ofNat _) (Nat.cast_nonneg _) hn
  refine (a.isNearest_inUnits hj).value_mono (b.isNearest_inUnits hj) ?_ ?_
  · exact div_nonneg (Binary64.value_nonneg _) (by positivity)
  · exact div_le_div_of_nonneg_right hrounded (by positivity)

lemma isCanonical_timeUs (m : Measurement) : m.timeUs.IsCanonical := (m.isNearest_inUnits (by decide : 3 ≤ 6)).canonical

lemma isCanonical_timeMs (m : Measurement) : m.timeMs.IsCanonical := (m.isNearest_inUnits (by decide : 6 ≤ 6)).canonical

lemma shows_ns (m : Measurement) : m.Shows "time_ns" m.timeNs.toNat := ⟨_, rfl, denotes_toDigits _⟩

lemma shows_us (m : Measurement) : m.Shows "time_us" (Layout.report.decimal m.timeUs).value :=
  ⟨_, rfl, Layout.report.denotes_write _⟩

lemma shows_ms (m : Measurement) : m.Shows "time_ms" (Layout.report.decimal m.timeMs).value :=
  ⟨_, rfl, Layout.report.denotes_write _⟩

lemma precedes_of_timeNs_le (h : a.timeNs ≤ b.timeNs) : a.Precedes b := by
  have hus : a.timeUs.value ≤ b.timeUs.value := by
    rw [timeUs_eq, timeUs_eq]
    exact value_inUnits_mono h (by decide)
  have hms : a.timeMs.value ≤ b.timeMs.value := by
    rw [timeMs_eq, timeMs_eq]
    exact value_inUnits_mono h (by decide)
  refine ⟨h, hus, hms, ?_⟩
  simp only [timeColumns, List.forall_mem_cons, List.not_mem_nil, false_imp_iff, implies_true, and_true]
  refine ⟨⟨_, _, a.shows_ns, b.shows_ns, ?_⟩, ⟨_, _, a.shows_us, b.shows_us, ?_⟩, ⟨_, _, a.shows_ms, b.shows_ms, ?_⟩⟩
  · exact Nat.cast_le.mpr h
  · exact Layout.report.value_decimal_mono a.isCanonical_timeUs b.isCanonical_timeUs hus
  · exact Layout.report.value_decimal_mono a.isCanonical_timeMs b.isCanonical_timeMs hms

theorem sorted_in_every_unit :
    (∀ m : Measurement, IsQuotient m.timeNs.toNat 1000 m.timeUs ∧ IsQuotient m.timeNs.toNat 1000000 m.timeMs) ∧
      (∀ a b : Measurement, a.timeNs ≤ b.timeNs → a.Precedes b) ∧
      ∀ text, (extract text).Pairwise Precedes := by
  refine ⟨fun m => ?_, fun a b => precedes_of_timeNs_le, fun text => ?_⟩
  · rw [timeUs_eq, timeMs_eq]
    exact ⟨m.isQuotient_inUnits (by decide), m.isQuotient_inUnits (by decide)⟩
  · exact (isStableSort_sort _).ordered.imp precedes_of_timeNs_le

theorem sorted_in_every_unit_of_alike :
    (9007199254740992 : UInt64) ≤ 9007199254740993 ∧
      timeUs ⟨"a", 9007199254740992, 0⟩ = timeUs ⟨"b", 9007199254740993, 0⟩ ∧
      Precedes ⟨"a", 9007199254740992, 0⟩ ⟨"b", 9007199254740993, 0⟩ :=
  ⟨by decide, by decide +kernel, sorted_in_every_unit.2.1 _ _ (by decide)⟩

end Measurement

end BenchReport
