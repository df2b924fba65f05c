import BenchReport.Proofs.DecimalNumeral

/-! Decimals of fifteen digits are told apart by the doubles nearest to them. -/

namespace BenchReport

open Decimal

variable {x : Binary64} {d d' : Decimal} {n : ℕ} {k : ℤ} {q : ℚ}

lemma Decimal.exists_multiple (h : k ≤ d.exp) : ∃ a : ℕ, d.value = a * 10 ^ k := by
  refine ⟨d.digits * 10 ^ (d.exp - k).toNat, ?_⟩
  have hsplit : d.exp = (d.exp - k).toNat + k := by omega
  rw [value, Nat.cast_mul, Nat.cast_pow, Nat.cast_ofNat, mul_assoc, ← zpow_natCast (10 : ℚ), ← zpow_add₀ (by norm_num),
    ← hsplit]

lemma Decimal.add_le_of_lt (hk : k ≤ d.exp) (hk' : k ≤ d'.exp) (h : d.value < d'.value) : d.value + 10 ^ k ≤ d'.value := by
  have hten := Binary64.ten_zpow_pos k
  obtain ⟨a, ha⟩ := exists_multiple hk
  obtain ⟨a', ha'⟩ := exists_multiple hk'
  rw [ha, ha'] at h ⊢
  have hlt : a + 1 ≤ a' := by exact_mod_cast lt_of_mul_lt_mul_right h hten.le
  have hcast : (a + 1 : ℚ) ≤ a' := by exact_mod_cast hlt
  calc (a : ℚ) * 10 ^ k + 10 ^ k = (a + 1) * 10 ^ k := by ring
    _ ≤ a' * 10 ^ k := by gcongr

namespace Binary64

lemma lt_low (hx : 2 ^ 52 ≤ x.sig) : 10 ^ 15 * x.ulp < x.low := by
  have hend : 4 * 10 ^ 15 < x.lowEnd := by
    rw [lowEnd_eq]
    split_ifs <;> omega
  have hcast : (10 ^ 15 : ℚ) < x.lowEnd / 4 := by
    have : (4 * 10 ^ 15 : ℚ) < x.lowEnd := by exact_mod_cast hend
    linarith
  rw [low_eq_mul_ulp]
  exact mul_lt_mul_of_pos_right hcast x.ulp_pos

lemma ulp_lt (hx : 2 ^ 52 ≤ x.sig) (hd : x.Covers d.value) (hw : d.width ≤ 15) : x.ulp < 10 ^ d.exp := by
  have hdigits : (d.digits : ℚ) < 10 ^ 15 := by exact_mod_cast (width_le_iff (by decide)).mp hw
  have hlt : 10 ^ 15 * x.ulp < 10 ^ 15 * 10 ^ d.exp := calc
    10 ^ 15 * x.ulp < x.low := lt_low hx
    _ ≤ d.value := hd.low_le
    _ < 10 ^ 15 * 10 ^ d.exp := mul_lt_mul_of_pos_right hdigits (ten_zpow_pos _)
  exact lt_of_mul_lt_mul_left hlt (by positivity)

lemma not_lt_of_fifteen (hx : 2 ^ 52 ≤ x.sig) (hd : x.Covers d.value) (hd' : x.Covers d'.value)
    (hw : d.width ≤ 15) (hw' : d'.width ≤ 15) : ¬ d.value < d'.value := by
  intro hlt
  have hulp : x.ulp < 10 ^ min d.exp d'.exp := by
    rcases min_choice d.exp d'.exp with h | h
    · rw [h]
      exact ulp_lt hx hd hw
    · rw [h]
      exact ulp_lt hx hd' hw'
  have := calc d.value + 10 ^ min d.exp d'.exp ≤ d'.value := add_le_of_lt (min_le_left _ _) (min_le_right _ _) hlt
    _ ≤ x.high := hd'.le_high
    _ ≤ x.low + x.ulp := high_le x
    _ ≤ d.value + x.ulp := add_le_add_left hd.low_le _
  linarith

lemma value_eq_of_fifteen (hx : 2 ^ 52 ≤ x.sig) (hd : x.Covers d.value) (hd' : x.Covers d'.value)
    (hw : d.width ≤ 15) (hw' : d'.width ≤ 15) : d.value = d'.value :=
  le_antisymm (not_lt.mp (not_lt_of_fifteen hx hd' hd hw' hw)) (not_lt.mp (not_lt_of_fifteen hx hd hd' hw hw'))

lemma two_pow_le_sig (hq : 0 ≤ q) (hx : x.IsNearest q) (hle : 1 ≤ 1000000 * q) : 2 ^ 52 ≤ x.sig := by
  apply hx.canonical.full.resolve_left
  intro he
  -- with the least exponent `x` would be far too small
  have hend : x.highEnd * 1000000 < one := by
    have hsmall : (4 * 2 ^ 53 + 2) * 1000000 < one := by decide +kernel
    have hle : x.highEnd ≤ 4 * 2 ^ 53 + 2 := by
      have := hx.canonical.sig_lt
      rw [highEnd]
      omega
    exact (Nat.mul_le_mul_right _ hle).trans_lt hsmall
  have hend' : (x.highEnd * 1000000 : ℚ) < one := by exact_mod_cast hend
  have hhigh : x.high < 1 / 1000000 := by
    rw [high_eq, he, pow_zero, mul_one, div_div, div_lt_div_iff₀ (mul_pos (by norm_num) one_cast_pos) (by norm_num)]
    linarith
  have := (hx.covers hq).le_high
  linarith

end Binary64

lemma Layout.value_decimal_of_fifteen (l : Layout) (hn : n < 10 ^ 15) {j : ℕ} (hj : j ≤ 6)
    (hx : x.IsNearest (n / 10 ^ j)) : (l.decimal x).value = n / 10 ^ j := by
  have hvalue : Decimal.value ⟨n, -j⟩ = n / 10 ^ j := by
    rw [value, zpow_neg, zpow_natCast, div_eq_mul_inv]
  have hq : (0 : ℚ) ≤ n / 10 ^ j := by positivity
  have hread : x.IsNearest (Decimal.value ⟨n, -j⟩) := hvalue ▸ hx
  have hshort := l.isShortest_decimal hx.canonical
  have hwidth : Decimal.width ⟨n, -j⟩ ≤ 15 := (width_le_iff (by decide)).mpr hn
  rcases Nat.eq_zero_or_pos n with rfl | hpos
  · have hzero : x.value = 0 := by
      have hle := hx.value_le hq
      simp only [Nat.cast_zero, zero_div, mul_zero] at hle
      exact le_antisymm hle x.value_nonneg
    have hsig : x.sig = 0 := by
      by_contra hne
      exact (Binary64.value_pos hne).ne' hzero
    rw [Layout.decimal, if_pos hsig]
    simp [value]
  · have hsig : 2 ^ 52 ≤ x.sig := by
      apply Binary64.two_pow_le_sig hq hx
      have hn : (1 : ℚ) ≤ n := by exact_mod_cast hpos
      have hten : (10 : ℚ) ^ j ≤ 1000000 := by
        calc (10 : ℚ) ^ j ≤ 10 ^ 6 := pow_le_pow_right₀ (by norm_num) hj
          _ = 1000000 := by norm_num
      rw [← mul_div_assoc, one_le_div (by positivity)]
      linarith
    have hnonneg : 0 ≤ (l.decimal x).value := mul_nonneg (Nat.cast_nonneg _) (Binary64.ten_zpow_pos _).le
    rw [← hvalue]
    exact Binary64.value_eq_of_fifteen hsig (hshort.reads.covers hnonneg) (hread.covers (hvalue ▸ hq))
      ((hshort.fewest _ hread).trans hwidth) hwidth

end BenchReport
