import BenchReport.Proofs.Rounding
import Mathlib.Data.Nat.Cast.Order.Field
import Mathlib.Data.Rat.Floor

/-! Decimals, and the multiples of a power of ten that round to a double: the two beside it decide. -/

namespace BenchReport

namespace Decimal

def value (d : Decimal) : ℚ := d.digits * 10 ^ d.exp

def width (d : Decimal) : ℕ := (Nat.toDigits 10 d.digits).length

variable {d d' : Decimal} {k : ℕ} {lead : ℤ}

lemma width_pos (d : Decimal) : 0 < d.width := Nat.length_toDigits_pos

lemma width_le_iff (hk : 0 < k) : d.width ≤ k ↔ d.digits < 10 ^ k := Nat.length_toDigits_le_iff (by decide) hk

lemma digits_lt (d : Decimal) : d.digits < 10 ^ d.width := (width_le_iff d.width_pos).mp le_rfl

lemma le_digits (hd : d.digits ≠ 0) : 10 ^ (d.width - 1) ≤ d.digits := by
  by_contra hlt
  rcases Nat.eq_zero_or_pos (d.width - 1) with h0 | hpos
  · rw [h0] at hlt
    omega
  · have hle := (width_le_iff hpos).mpr (Nat.lt_of_not_le hlt)
    have := d.width_pos
    omega

lemma value_nonneg (d : Decimal) : 0 ≤ d.value := by
  rw [value]
  positivity

lemma digits_ne_zero (hd : 0 < d.value) : d.digits ≠ 0 := by
  intro h0
  rw [value, h0, Nat.cast_zero, zero_mul] at hd
  exact hd.false

lemma value_lt (d : Decimal) : d.value < 10 ^ (d.width + d.exp) := by
  rw [value, zpow_add₀ (by norm_num), zpow_natCast]
  gcongr
  exact_mod_cast d.digits_lt

lemma le_value (hne : d.digits ≠ 0) : 10 ^ ((d.width - 1 : ℕ) + d.exp) ≤ d.value := by
  rw [value, zpow_add₀ (by norm_num), zpow_natCast]
  gcongr
  exact_mod_cast d.le_digits hne

lemma exp_eq (hlow : 10 ^ lead ≤ d.value) (hhigh : d.value < 10 ^ (lead + 1)) : d.exp = lead + 1 - d.width := by
  have hw := d.width_pos
  have hlead : (0 : ℚ) < 10 ^ lead := by positivity
  have hne := digits_ne_zero (hlead.trans_le hlow)
  have h₁ : lead < d.width + d.exp := (zpow_lt_zpow_iff_right₀ (by norm_num)).mp (hlow.trans_lt d.value_lt)
  have h₂ : (d.width - 1 : ℕ) + d.exp < lead + 1 :=
    (zpow_lt_zpow_iff_right₀ (by norm_num)).mp ((le_value hne).trans_lt hhigh)
  omega

lemma eq_of_value_eq (hne : d.digits ≠ 0) (hw : d'.width = d.width) (hv : d'.value = d.value) : d' = d := by
  have hpos := d.width_pos
  have hlow := le_value hne
  have hhigh := d.value_lt
  have hlead : (d.width + d.exp : ℤ) = (d.width - 1 : ℕ) + d.exp + 1 := by omega
  rw [← hv] at hlow hhigh
  rw [hlead] at hhigh
  have hexp : d'.exp = d.exp := by
    have := exp_eq hlow hhigh
    omega
  rw [value, value, hexp] at hv
  have hten : (10 : ℚ) ^ d.exp ≠ 0 := by positivity
  have hdigits : d'.digits = d.digits := by exact_mod_cast mul_right_cancel₀ hten hv
  cases d
  cases d'
  simp_all

end Decimal

namespace Binary64

variable {x : Binary64} {d : Decimal} {n : ℕ} {k : ℤ} {t : Tie}

section Grid

lemma ten_zpow_pos (k : ℤ) : (0 : ℚ) < 10 ^ k := zpow_pos (by norm_num) k

lemma ten_zpow_eq_div (k : ℤ) : (10 : ℚ) ^ k = 10 ^ k.toNat / 10 ^ (-k).toNat := by
  obtain ⟨n, rfl | rfl⟩ := k.eq_nat_or_neg
  · simp
  · simp

lemma reads_iff_covers : x.Reads n k ↔ x.Covers (n * 10 ^ k) := by
  have hq : (n * 10 ^ k : ℚ) = (n * 10 ^ k.toNat * one : ℕ) / (10 ^ (-k).toNat : ℕ) / one := by
    have hone := one_cast_pos
    rw [ten_zpow_eq_div]
    push_cast
    generalize (one : ℚ) = u at hone
    field_simp
  have hside : decimalSide n k = 4 * (n * 10 ^ k.toNat * one) := by
    rw [decimalSide, Nat.mul_assoc, Nat.mul_assoc, Nat.mul_assoc]
    rfl
  rw [hq, covers_iff (Nat.pow_pos (by decide)), Reads, hside, Nat.even_iff]
  split_ifs with h
  · simp only [h, true_and, ← le_iff_lt_or_eq]
    rfl
  · simp only [h, false_and, or_false]
    rfl

def onGrid (x : Binary64) (k : ℤ) : ℕ := x.scaled * 10 ^ (-k).toNat

def gridStep (k : ℤ) : ℕ := one * 10 ^ k.toNat

/-- The greatest multiple of `10 ^ k` that is not above `x`. -/
def below (x : Binary64) (k : ℤ) : ℕ := x.onGrid k / gridStep k

def middle (x : Binary64) (k : ℤ) : ℚ := (x.below k * 10 ^ k + (x.below k + 1 : ℕ) * 10 ^ k) / 2

lemma gridStep_pos (k : ℤ) : 0 < gridStep k := Nat.mul_pos one_pos (Nat.pow_pos (by decide))

lemma gridStep_cast_pos (k : ℤ) : (0 : ℚ) < gridStep k := Nat.cast_pos.mpr (gridStep_pos k)

lemma value_eq (x : Binary64) (k : ℤ) : x.value = x.onGrid k / gridStep k * 10 ^ k := by
  have hone := one_cast_pos
  rw [value, onGrid, gridStep, ten_zpow_eq_div]
  push_cast
  generalize (one : ℚ) = u at hone
  field_simp

lemma below_le (x : Binary64) (k : ℤ) : x.below k * 10 ^ k ≤ x.value := by
  have hten := ten_zpow_pos k
  rw [value_eq x k, below]
  gcongr
  exact Nat.cast_div_le

lemma lt_above (x : Binary64) (k : ℤ) : x.value < (x.below k + 1 : ℕ) * 10 ^ k := by
  have hten := ten_zpow_pos k
  rw [value_eq x k]
  gcongr
  rw [div_lt_iff₀ (gridStep_cast_pos k), ← Nat.cast_mul, Nat.cast_lt]
  exact Nat.lt_mul_of_div_lt (Nat.lt_succ_self _) (gridStep_pos k)

lemma le_of_mul_zpow_lt {m : ℕ} (h : (m * 10 ^ k : ℚ) < (n + 1 : ℕ) * 10 ^ k) : m ≤ n := by
  have hlt := lt_of_mul_lt_mul_right h (ten_zpow_pos k).le
  rw [Nat.cast_lt] at hlt
  exact Nat.le_of_lt_succ hlt

lemma below_eq (hle : n * 10 ^ k ≤ x.value) (hlt : x.value < (n + 1 : ℕ) * 10 ^ k) : x.below k = n :=
  le_antisymm (le_of_mul_zpow_lt ((below_le x k).trans_lt hlt)) (le_of_mul_zpow_lt (hle.trans_lt (lt_above x k)))

lemma two_mul_onGrid (x : Binary64) (k : ℤ) :
    2 * x.onGrid k + gridStep k = (2 * x.below k + 1) * gridStep k + 2 * (x.onGrid k % gridStep k) := by
  have hsplit := Nat.div_add_mod' (x.onGrid k) (gridStep k)
  rw [← below] at hsplit
  rw [Nat.add_mul, Nat.one_mul, Nat.mul_assoc]
  omega

lemma middle_eq (x : Binary64) (k : ℤ) :
    x.middle k = ((2 * x.below k + 1) * gridStep k : ℕ) / (2 * gridStep k : ℕ) * 10 ^ k := by
  have hpos := gridStep_cast_pos k
  rw [middle]
  push_cast
  field_simp
  ring

lemma value_eq_of_two (x : Binary64) (k : ℤ) :
    x.value = (2 * x.onGrid k : ℕ) / (2 * gridStep k : ℕ) * 10 ^ k := by
  have hpos := gridStep_cast_pos k
  rw [value_eq x k]
  push_cast
  field_simp

lemma middle_lt_value_iff : x.middle k < x.value ↔ gridStep k < 2 * (x.onGrid k % gridStep k) := by
  have hpos : (0 : ℚ) < (2 * gridStep k : ℕ) := Nat.cast_pos.mpr (Nat.mul_pos (by decide) (gridStep_pos k))
  have hsum := two_mul_onGrid x k
  rw [middle_eq, value_eq_of_two x k, mul_lt_mul_iff_left₀ (ten_zpow_pos k), div_lt_div_iff_of_pos_right hpos, Nat.cast_lt]
  omega

lemma value_eq_middle_iff : x.value = x.middle k ↔ gridStep k = 2 * (x.onGrid k % gridStep k) := by
  have hpos : (0 : ℚ) < (2 * gridStep k : ℕ) := Nat.cast_pos.mpr (Nat.mul_pos (by decide) (gridStep_pos k))
  have hsum := two_mul_onGrid x k
  rw [middle_eq, value_eq_of_two x k, mul_left_inj' (ten_zpow_pos k).ne', div_left_inj' hpos.ne', Nat.cast_inj]
  omega

def GoesUp (t : Tie) (x : Binary64) (k : ℤ) : Prop :=
  gridStep k < 2 * (x.onGrid k % gridStep k) ∨
  gridStep k = 2 * (x.onGrid k % gridStep k) ∧ (t = .up ∨ x.below k % 2 = 1)

instance (t : Tie) (x : Binary64) (k : ℤ) : Decidable (GoesUp t x k) := inferInstanceAs (Decidable (_ ∨ _))

lemma goesUp_iff : GoesUp t x k ↔ x.middle k < x.value ∨ x.value = x.middle k ∧ (t = .up ∨ Odd (x.below k)) := by
  rw [GoesUp, middle_lt_value_iff, value_eq_middle_iff, Nat.odd_iff]

lemma decimalAt?_eq (t : Tie) (x : Binary64) (k : ℤ) : x.decimalAt? t k =
    if x.Reads (x.below k) k then
      if x.Reads (x.below k + 1) k ∧ GoesUp t x k then some ⟨x.below k + 1, k⟩ else some ⟨x.below k, k⟩
    else if x.Reads (x.below k + 1) k then some ⟨x.below k + 1, k⟩
    else none := by
  unfold decimalAt? GoesUp below
  rfl

lemma covers_below (hx : x.sig ≠ 0) (hn : n ≤ x.below k) (h : x.Covers (n * 10 ^ k)) :
    x.Covers (x.below k * 10 ^ k) := by
  have hten := ten_zpow_pos k
  refine h.between (covers_value hx) ?_ (below_le x k)
  gcongr

lemma covers_above (hx : x.sig ≠ 0) (hn : x.below k < n) (h : x.Covers (n * 10 ^ k)) :
    x.Covers ((x.below k + 1 : ℕ) * 10 ^ k) := by
  have hten := ten_zpow_pos k
  refine (covers_value hx).between h (lt_above x k).le ?_
  gcongr
  exact hn

lemma decimalAt?_eq_none_iff (hx : x.sig ≠ 0) : x.decimalAt? t k = none ↔ ∀ n : ℕ, ¬ x.Covers (n * 10 ^ k) := by
  simp only [← reads_iff_covers, decimalAt?_eq]
  constructor
  · intro h n hn
    split_ifs at h with h₁ h₂ h₃
    rw [reads_iff_covers] at hn h₁ h₃
    rcases Nat.lt_or_ge (x.below k) n with hlt | hle
    · exact h₃ (covers_above hx hlt hn)
    · exact h₁ (covers_below hx hle hn)
  · intro h
    rw [if_neg (h _), if_neg (h _)]

lemma covers_of_decimalAt? (h : x.decimalAt? t k = some d) :
    d.exp = k ∧ x.Covers d.value ∧ d.digits ≤ x.below k + 1 := by
  rw [decimalAt?_eq] at h
  split_ifs at h with h₁ h₂ h₃
  · cases h
    exact ⟨rfl, reads_iff_covers.mp h₂.1, le_rfl⟩
  · cases h
    exact ⟨rfl, reads_iff_covers.mp h₁, Nat.le_succ _⟩
  · cases h
    exact ⟨rfl, reads_iff_covers.mp h₃, le_rfl⟩

lemma abs_sub_below_le (hn : n ≤ x.below k) : |x.value - x.below k * 10 ^ k| ≤ |x.value - n * 10 ^ k| := by
  have hle : (n * 10 ^ k : ℚ) ≤ x.below k * 10 ^ k := by
    have hten := ten_zpow_pos k
    gcongr
  have := below_le x k
  rw [abs_of_nonneg (by linarith), abs_of_nonneg (by linarith)]
  linarith

lemma abs_sub_above_le (hn : x.below k < n) :
    |x.value - (x.below k + 1 : ℕ) * 10 ^ k| ≤ |x.value - n * 10 ^ k| := by
  have hle : ((x.below k + 1 : ℕ) * 10 ^ k : ℚ) ≤ n * 10 ^ k := by
    have hten := ten_zpow_pos k
    gcongr
    exact hn
  have := lt_above x k
  rw [abs_of_nonpos (by linarith), abs_of_nonpos (by linarith)]
  linarith

lemma abs_sub_le_of_decimalAt? (hx : x.sig ≠ 0) (h : x.decimalAt? t k = some d) (hn : x.Covers (n * 10 ^ k)) :
    |x.value - d.value| ≤ |x.value - n * 10 ^ k| := by
  have hlt : (x.below k * 10 ^ k : ℚ) < (x.below k + 1 : ℕ) * 10 ^ k := (below_le x k).trans_lt (lt_above x k)
  rw [decimalAt?_eq] at h
  simp only [goesUp_iff] at h
  split_ifs at h with h₁ h₂ h₃
  · cases h
    rcases Nat.lt_or_ge (x.below k) n with hn' | hn'
    · exact abs_sub_above_le hn'
    · refine le_trans ((abs_sub_le_iff_of_lt hlt).mpr ?_) (abs_sub_below_le hn')
      exact h₂.2.elim le_of_lt fun h => h.1.ge
  · cases h
    rcases Nat.lt_or_ge (x.below k) n with hn' | hn'
    · refine le_trans ((abs_sub_le_iff_of_gt hlt).mpr ?_) (abs_sub_above_le hn')
      exact not_lt.mp fun hup => h₂ ⟨reads_iff_covers.mpr (covers_above hx hn' hn), .inl hup⟩
    · exact abs_sub_below_le hn'
  · cases h
    rcases Nat.lt_or_ge (x.below k) n with hn' | hn'
    · exact abs_sub_above_le hn'
    · exact absurd (reads_iff_covers.mpr (covers_below hx hn' hn)) h₁

lemma goesUp_up_iff : GoesUp .up x k ↔ GoesUp .even x k ∨ x.value = x.middle k ∧ Even (x.below k) := by
  rw [goesUp_iff, goesUp_iff, ← Nat.not_odd_iff_even]
  by_cases hodd : Odd (x.below k) <;> simp [hodd]

lemma decimalAt?_up (h : x.decimalAt? .even k = some d) :
    x.decimalAt? .up k = some d ∨
    x.decimalAt? .up k = some ⟨d.digits + 1, d.exp⟩ ∧ Even d.digits ∧
      2 * x.value = d.value + Decimal.value ⟨d.digits + 1, d.exp⟩ := by
  rw [decimalAt?_eq] at h ⊢
  simp only [goesUp_up_iff]
  split_ifs at h with h₁ h₂ h₃
  · left
    rw [if_pos h₁, if_pos ⟨h₂.1, .inl h₂.2⟩, h]
  · rw [if_pos h₁]
    split_ifs with h₄
    · right
      cases h
      obtain ⟨htie, heven⟩ := h₄.2.resolve_left fun hup => h₂ ⟨h₄.1, hup⟩
      refine ⟨rfl, heven, ?_⟩
      rw [htie, middle, mul_div_cancel₀ _ (by norm_num)]
      rfl
    · exact .inl h
  · left
    rw [if_neg h₁, if_pos h₃, h]

end Grid

end Binary64

end BenchReport
