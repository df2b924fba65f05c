import BenchReport.Proofs.DecimalTies
import BenchReport.Proofs.FifteenDigits
import BenchReport.Table

/-! What the report and the table say of the times in microseconds and milliseconds: up to fifteen digits the exact
quotients, and at any length the doubles that the measurement holds. -/

namespace BenchReport

open Decimal

variable {x : Binary64}

section Ties

/-- In a tie `d` is the lower, even one of the two decimals and `d'` the upper one. Elsewhere they are one number. -/
structure Binary64.PartInTies (x : Binary64) (d d' : Decimal) : Prop where
  alike : (∀ e e', ¬ x.IsTie e e') → d.value = d'.value
  part : ∀ e e', x.IsTie e e' → d = e ∧ d' = e'

lemma Layout.partInTies (hx : x.IsCanonical) : x.PartInTies (report.decimal x) (table.decimal x) where
  alike hnone := by
    rw [decimal, decimal]
    split_ifs with h0
    · rfl
    · exact congrArg value ((Binary64.isTie_or_eq hx h0).resolve_right (hnone _ _))
  part e e' h := by
    rw [decimal, decimal, if_neg h.sig_ne_zero, if_neg h.sig_ne_zero, h.shortest_eq hx, h.shortest_eq hx]
    exact ⟨rfl, rfl⟩

end Ties

section Printing

namespace Measurement

structure Prints (m : Measurement) (us ms us' ms' : List Char) : Prop where
  us : (Report.fields m).lookup "time_us" = some us
  ms : (Report.fields m).lookup "time_ms" = some ms
  row : Table.row m = "| " ++ m.name ++ " | " ++ m.timeNs.toNat.repr ++ " | " ++ m.varianceNs.toNat.repr ++ " | " ++
    String.ofList us' ++ " | " ++ String.ofList ms' ++ " |"

lemma prints (m : Measurement) : m.Prints (Layout.report.write m.timeUs).toList (Layout.report.write m.timeMs).toList
    (Layout.table.write m.timeUs).toList (Layout.table.write m.timeMs).toList where
  us := rfl
  ms := rfl
  row := by
    rw [String.ofList_toList, String.ofList_toList, Table.row]

def inUnits (m : Measurement) (j : ℕ) : Binary64 := (Binary64.ofNat m.timeNs.toNat).div (.ofNat (10 ^ j))

lemma isNearest_inUnits (m : Measurement) {j : ℕ} (hj : j ≤ 6) :
    (m.inUnits j).IsNearest ((Binary64.ofNat m.timeNs.toNat).value / 10 ^ j) := by
  have hlt : 10 ^ j < 2 ^ 53 := Nat.lt_of_le_of_lt (Nat.pow_le_pow_right (by decide) hj) (by decide)
  have hvalue : (Binary64.ofNat (10 ^ j)).value = 10 ^ j := by
    rw [Binary64.value_ofNat hlt, Nat.cast_pow, Nat.cast_ofNat]
  have hne : (Binary64.ofNat (10 ^ j)).sig ≠ 0 := by
    intro h0
    have hpos : (0 : ℚ) < 10 ^ j := by positivity
    rw [← hvalue, Binary64.value_eq_zero h0] at hpos
    exact hpos.false
  have h := Binary64.isNearest_div (.ofNat m.timeNs.toNat) hne
  rwa [hvalue] at h

lemma denotes_inUnits (m : Measurement) (hm : m.timeNs.toNat < 10 ^ 15) (l : Layout) {j : ℕ} (hj : j ≤ 6) :
    Denotes (l.write (m.inUnits j)).toList (m.timeNs.toNat / 10 ^ j) := by
  have hx := m.isNearest_inUnits hj
  rw [Binary64.value_ofNat (hm.trans (by decide))] at hx
  rw [← l.value_decimal_of_fifteen hm hj hx]
  exact l.denotes_write _

/-- Two numerals that both read as `x`, which is the number of nanoseconds rounded, divided and rounded again. -/
structure ReadsBack (m : Measurement) (unit : ℕ) (x : Binary64) (w w' : List Char) : Prop where
  rounded : ∃ y : Binary64, y.IsNearest m.timeNs.toNat ∧ y.tooLarge = false ∧ x.IsNearest (y.value / unit)
  finite : x.tooLarge = false
  numerals : ∃ d d' : Decimal, Denotes w d.value ∧ Denotes w' d'.value ∧ x.IsShortest d ∧ x.IsShortest d' ∧
    x.PartInTies d d'

lemma readsBack_inUnits (m : Measurement) {j : ℕ} (hj : j ≤ 6) : m.ReadsBack (10 ^ j) (m.inUnits j)
    (Layout.report.write (m.inUnits j)).toList (Layout.table.write (m.inUnits j)).toList := by
  have hx := m.isNearest_inUnits hj
  have hy := Binary64.isNearest_ofNat m.timeNs.toNat
  have hq : 0 ≤ (Binary64.ofNat m.timeNs.toNat).value / 10 ^ j := div_nonneg (Binary64.value_nonneg _) (by positivity)
  have hn : (m.timeNs.toNat : ℚ) ≤ 2 ^ 64 := by exact_mod_cast (UInt64.toNat_lt _).le
  refine ⟨⟨_, hy, hy.tooLarge_eq_false (Nat.cast_nonneg _) (by linarith), ?_⟩, hx.tooLarge_eq_false hq ?_, ?_⟩
  · exact_mod_cast hx
  · have hten : (1 : ℚ) ≤ 10 ^ j := one_le_pow₀ (by norm_num)
    have := Binary64.value_ofNat_le m.timeNs.toNat
    calc (Binary64.ofNat m.timeNs.toNat).value / 10 ^ j ≤ (Binary64.ofNat m.timeNs.toNat).value :=
          div_le_self (Binary64.value_nonneg _) hten
      _ ≤ 2 ^ 65 := by linarith
  · exact ⟨_, _, Layout.denotes_write _ _, Layout.denotes_write _ _, Layout.isShortest_decimal _ hx.canonical,
      Layout.isShortest_decimal _ hx.canonical, Layout.partInTies hx.canonical⟩

end Measurement

end Printing

theorem derived_times_exact (m : Measurement) (hm : m.timeNs.toNat < 10 ^ 15) :
    ∃ us ms us' ms', m.Prints us ms us' ms' ∧
      Denotes us (m.timeNs.toNat / 1000) ∧ Denotes us' (m.timeNs.toNat / 1000) ∧
      Denotes ms (m.timeNs.toNat / 1000000) ∧ Denotes ms' (m.timeNs.toNat / 1000000) := by
  have hus (l : Layout) := m.denotes_inUnits hm l (by decide : 3 ≤ 6)
  have hms (l : Layout) := m.denotes_inUnits hm l (by decide : 6 ≤ 6)
  have hthree : (10 : ℚ) ^ 3 = 1000 := by norm_num
  have hsix : (10 : ℚ) ^ 6 = 1000000 := by norm_num
  rw [hthree] at hus
  rw [hsix] at hms
  exact ⟨_, _, _, _, m.prints, hus .report, hus .table, hms .report, hms .table⟩

theorem derived_times_exact_of_fifteen_nines :
    (999999999999999 : UInt64).toNat < 10 ^ 15 ∧
    ∃ us ms us' ms', Measurement.Prints ⟨"a", 999999999999999, 0⟩ us ms us' ms' ∧
      Denotes us (999999999999999 / 1000) ∧ Denotes us' (999999999999999 / 1000) ∧
      Denotes ms (999999999999999 / 1000000) ∧ Denotes ms' (999999999999999 / 1000000) :=
  ⟨by decide, derived_times_exact ⟨"a", 999999999999999, 0⟩ (by decide)⟩

theorem derived_times_read_back (m : Measurement) : ∃ us ms us' ms', m.Prints us ms us' ms' ∧
    m.ReadsBack 1000 m.timeUs us us' ∧ m.ReadsBack 1000000 m.timeMs ms ms' :=
  ⟨_, _, _, _, m.prints, m.readsBack_inUnits (by decide : 3 ≤ 6), m.readsBack_inUnits (by decide : 6 ≤ 6)⟩

theorem derived_times_differ_in_a_tie :
    Measurement.Prints ⟨"a", 562949953421312250, 0⟩ "562949953421312.2".toList "562949953421.3123".toList
      "562949953421312.3".toList "562949953421.3123".toList ∧
    ¬ ∃ q, Denotes "562949953421312.2".toList q ∧ Denotes "562949953421312.3".toList q := by
  refine ⟨⟨by decide +kernel, by decide +kernel, by decide +kernel⟩, ?_⟩
  rintro ⟨q, hq, hq'⟩
  have h : Denotes "562949953421312.2".toList (5629499534213122 / 10) := ⟨⟨5629499534213122, -1⟩, by decide +kernel, rfl⟩
  have h' : Denotes "562949953421312.3".toList (5629499534213123 / 10) := ⟨⟨5629499534213123, -1⟩, by decide +kernel, rfl⟩
  have hne : (5629499534213122 / 10 : ℚ) ≠ 5629499534213123 / 10 := by norm_num
  exact hne ((h.unique hq).trans (hq'.unique h'))

end BenchReport
