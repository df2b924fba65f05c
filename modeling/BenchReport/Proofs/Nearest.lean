import BenchReport.Binary64.Shortest
import Mathlib.Algebra.Order.Field.Power
import Mathlib.Data.Rat.Defs
import Mathlib.Tactic.FieldSimp
import Mathlib.Tactic.Linarith
import Mathlib.Tactic.Positivity
import Mathlib.Tactic.Ring

/-! Rounding to the nearest double: each double has an interval of numbers that round to it, from the middle
between it and the double before to the middle between it and the next. -/

namespace BenchReport.Binary64

variable {x y : Binary64} {q r s : ℚ} {a d : ℕ}

lemma one_pos : 0 < one := by decide +kernel

lemma one_cast_pos : (0 : ℚ) < one := Nat.cast_pos.mpr one_pos

def value (x : Binary64) : ℚ := x.scaled / one

/-- 53 bits before the exponent, or fewer where it is the least one. -/
structure IsCanonical (x : Binary64) : Prop where
  sig_lt : x.sig < 2 ^ 53
  full : x.exp = 0 ∨ 2 ^ 52 ≤ x.sig

section Neighbours

def next (x : Binary64) : Binary64 := if x.sig + 1 = 2 ^ 53 then ⟨2 ^ 52, x.exp + 1⟩ else ⟨x.sig + 1, x.exp⟩

def prev (x : Binary64) : Binary64 :=
  if x.sig = 2 ^ 52 ∧ 0 < x.exp then ⟨2 ^ 53 - 1, x.exp - 1⟩ else ⟨x.sig - 1, x.exp⟩

lemma lowEnd_eq (x : Binary64) :
    x.lowEnd = if x.sig = 2 ^ 52 ∧ 0 < x.exp then 4 * x.sig - 1 else 4 * x.sig - 2 := rfl

lemma scaled_eq (x : Binary64) : x.scaled = x.sig * 2 ^ x.exp := rfl

lemma isCanonical_next (hx : x.IsCanonical) : x.next.IsCanonical := by
  obtain ⟨hlt, hfull⟩ := hx
  rw [next]
  split_ifs with h
  · exact ⟨Nat.pow_lt_pow_right (by decide) (by decide), .inr le_rfl⟩
  · exact ⟨by dsimp only; omega, by dsimp only; omega⟩

lemma isCanonical_prev (hx : x.IsCanonical) : x.prev.IsCanonical := by
  obtain ⟨hlt, hfull⟩ := hx
  rw [prev]
  split_ifs with h
  · exact ⟨by dsimp only; omega, .inr (by dsimp only; omega)⟩
  · exact ⟨by dsimp only; omega, by dsimp only; omega⟩

lemma scaled_next (x : Binary64) : x.next.scaled = (x.sig + 1) * 2 ^ x.exp := by
  rw [next]
  split_ifs with h
  · rw [scaled_eq, h, pow_succ]
    ring
  · rfl

lemma two_mul_scaled_next (x : Binary64) : 2 * (x.scaled + x.next.scaled) = x.highEnd * 2 ^ x.exp := by
  rw [scaled_next, scaled_eq, highEnd]
  ring

lemma two_mul_scaled_prev (x : Binary64) : 2 * (x.prev.scaled + x.scaled) = x.lowEnd * 2 ^ x.exp := by
  obtain ⟨m, e⟩ := x
  rw [prev, lowEnd_eq]
  dsimp only
  split_ifs with h
  · obtain ⟨rfl, he⟩ := h
    obtain ⟨e, rfl⟩ := Nat.exists_eq_add_one_of_ne_zero he.ne'
    rw [scaled_eq, scaled_eq]
    dsimp only
    rw [Nat.add_sub_cancel, pow_succ 2 e]
    omega
  · rw [scaled_eq, scaled_eq, ← Nat.add_mul, ← Nat.mul_assoc]
    congr 1
    dsimp only
    omega

lemma next_prev (hx : x.sig ≠ 0) : x.prev.next.scaled = x.scaled := by
  rw [scaled_next, prev]
  split_ifs with h
  · obtain ⟨e, he⟩ := Nat.exists_eq_add_one_of_ne_zero h.2.ne'
    rw [scaled_eq, h.1, he, Nat.add_sub_cancel, pow_succ 2 e]
    ring
  · dsimp only
    rw [scaled_eq, Nat.sub_add_cancel (Nat.pos_of_ne_zero hx)]

lemma scaled_lt_of_exp_lt (hx : x.IsCanonical) (hy : y.IsCanonical) (h : x.exp < y.exp) : x.scaled < y.scaled := by
  obtain ⟨k, hk⟩ := Nat.exists_eq_add_of_lt h
  have hfull : 2 ^ 52 ≤ y.sig := hy.full.resolve_left (Nat.ne_of_gt (Nat.zero_lt_of_lt h))
  calc x.scaled < 2 ^ 53 * 2 ^ x.exp := Nat.mul_lt_mul_of_pos_right hx.sig_lt (Nat.pow_pos (by decide))
    _ = 2 ^ 52 * 2 ^ (x.exp + 0 + 1) := by ring
    _ ≤ y.sig * 2 ^ y.exp := by
      rw [hk]
      gcongr <;> omega

lemma scaled_next_le (hx : x.IsCanonical) (hy : y.IsCanonical) (h : x.scaled < y.scaled) :
    x.next.scaled ≤ y.scaled := by
  have he : x.exp ≤ y.exp := by
    by_contra hlt
    exact absurd (scaled_lt_of_exp_lt hy hx (Nat.lt_of_not_le hlt)) (Nat.not_lt_of_gt h)
  obtain ⟨k, hk⟩ := Nat.exists_eq_add_of_le he
  have hy : y.scaled = y.sig * 2 ^ k * 2 ^ x.exp := by
    rw [scaled_eq, hk]
    ring
  rw [hy] at h ⊢
  rw [scaled_next]
  exact Nat.mul_le_mul_right _ (Nat.lt_of_mul_lt_mul_right h)

lemma le_scaled_prev (hx : x.IsCanonical) (hy : y.IsCanonical) (h : y.scaled < x.scaled) :
    y.scaled ≤ x.prev.scaled := by
  have hne : x.sig ≠ 0 := by
    intro h0
    rw [scaled_eq x, h0, Nat.zero_mul] at h
    exact Nat.not_lt_zero _ h
  by_contra hlt
  have hle := scaled_next_le (isCanonical_prev hx) hy (Nat.lt_of_not_le hlt)
  rw [next_prev hne] at hle
  exact absurd h (Nat.not_lt_of_ge hle)

lemma IsCanonical.eq_of_scaled_eq (hx : x.IsCanonical) (hy : y.IsCanonical) (h : x.scaled = y.scaled) : x = y := by
  have he : x.exp = y.exp := by
    rcases lt_trichotomy x.exp y.exp with hlt | heq | hlt
    · exact absurd h (Nat.ne_of_lt (scaled_lt_of_exp_lt hx hy hlt))
    · exact heq
    · exact absurd h (Nat.ne_of_gt (scaled_lt_of_exp_lt hy hx hlt))
  obtain ⟨m, e⟩ := x
  obtain ⟨m', e'⟩ := y
  obtain rfl : e = e' := he
  have hm : m = m' := Nat.eq_of_mul_eq_mul_right (by positivity : 0 < 2 ^ e) h
  rw [hm]

lemma odd_next (h : Even x.sig) : Odd x.next.sig := by
  have hne : x.sig + 1 ≠ 2 ^ 53 := by
    rw [Nat.even_iff] at h
    omega
  rw [next, if_neg hne]
  exact h.add_one

end Neighbours

section Values

lemma value_lt_value : x.value < y.value ↔ x.scaled < y.scaled := by
  rw [value, value, div_lt_div_iff_of_pos_right one_cast_pos, Nat.cast_lt]

lemma value_le_value : x.value ≤ y.value ↔ x.scaled ≤ y.scaled := by
  rw [← not_lt, value_lt_value, not_lt]

lemma IsCanonical.eq_of_value_eq (hx : x.IsCanonical) (hy : y.IsCanonical) (h : x.value = y.value) : x = y :=
  hx.eq_of_scaled_eq hy (le_antisymm (value_le_value.mp h.le) (value_le_value.mp h.ge))

lemma value_nonneg (x : Binary64) : 0 ≤ x.value := div_nonneg (Nat.cast_nonneg _) one_cast_pos.le

lemma value_eq_zero (hx : x.sig = 0) : x.value = 0 := by
  rw [value, scaled_eq, hx, Nat.zero_mul, Nat.cast_zero, zero_div]

lemma value_pos (hx : x.sig ≠ 0) : 0 < x.value := by
  have hs : 0 < x.scaled := Nat.mul_pos (Nat.pos_of_ne_zero hx) (Nat.pow_pos (by decide))
  exact div_pos (Nat.cast_pos.mpr hs) one_cast_pos

def low (x : Binary64) : ℚ := (x.prev.value + x.value) / 2

def high (x : Binary64) : ℚ := (x.value + x.next.value) / 2

lemma low_pos (hx : x.sig ≠ 0) : 0 < x.low := by
  have hprev := value_nonneg x.prev
  have hvalue := value_pos hx
  rw [low]
  linarith

lemma low_eq (x : Binary64) : x.low = x.lowEnd * 2 ^ x.exp / 4 / one := by
  have h : (2 * (x.prev.scaled + x.scaled) : ℚ) = x.lowEnd * 2 ^ x.exp := by exact_mod_cast two_mul_scaled_prev x
  rw [low, value, value, ← h]
  ring

lemma high_eq (x : Binary64) : x.high = x.highEnd * 2 ^ x.exp / 4 / one := by
  have h : (2 * (x.scaled + x.next.scaled) : ℚ) = x.highEnd * 2 ^ x.exp := by exact_mod_cast two_mul_scaled_next x
  rw [high, value, value, ← h]
  ring

def ulp (x : Binary64) : ℚ := 2 ^ x.exp / one

lemma ulp_pos (x : Binary64) : 0 < x.ulp := div_pos (by positivity) one_cast_pos

lemma value_eq_mul_ulp (x : Binary64) : x.value = x.sig * x.ulp := by
  rw [value, scaled_eq, ulp, Nat.cast_mul, Nat.cast_pow, Nat.cast_ofNat, mul_div_assoc]

lemma low_eq_mul_ulp (x : Binary64) : x.low = x.lowEnd / 4 * x.ulp := by
  rw [low_eq, ulp]
  ring

lemma high_eq_mul_ulp (x : Binary64) : x.high = x.highEnd / 4 * x.ulp := by
  rw [high_eq, ulp]
  ring

lemma high_le (x : Binary64) : x.high ≤ x.low + x.ulp := by
  have hends : x.highEnd ≤ x.lowEnd + 4 := by
    rw [lowEnd_eq, highEnd]
    split_ifs <;> omega
  have hcast : (x.highEnd / 4 : ℚ) ≤ x.lowEnd / 4 + 1 := by
    have : (x.highEnd : ℚ) ≤ x.lowEnd + 4 := by exact_mod_cast hends
    linarith
  calc x.high = x.highEnd / 4 * x.ulp := high_eq_mul_ulp x
    _ ≤ (x.lowEnd / 4 + 1) * x.ulp := mul_le_mul_of_nonneg_right hcast x.ulp_pos.le
    _ = x.low + x.ulp := by rw [low_eq_mul_ulp, add_one_mul]

/-- `q` lies nearer to `x` than to the doubles beside it, or in the middle if the last bit of `x` is zero. -/
def Covers (x : Binary64) (q : ℚ) : Prop :=
  (x.low < q ∨ Even x.sig ∧ x.low = q) ∧ (q < x.high ∨ Even x.sig ∧ q = x.high)

lemma Covers.between (hq : x.Covers q) (hs : x.Covers s) (hqr : q ≤ r) (hrs : r ≤ s) : x.Covers r := by
  refine ⟨?_, ?_⟩
  · rcases hqr.lt_or_eq with hlt | rfl
    · rcases hq.1 with h | ⟨-, h⟩
      · exact .inl (h.trans hlt)
      · exact .inl (h.trans_lt hlt)
    · exact hq.1
  · rcases hrs.lt_or_eq with hlt | rfl
    · rcases hs.2 with h | ⟨-, h⟩
      · exact .inl (hlt.trans h)
      · exact .inl (hlt.trans_eq h)
    · exact hs.2

lemma Covers.low_le (h : x.Covers q) : x.low ≤ q := by
  rcases h.1 with h | ⟨-, h⟩
  · exact h.le
  · exact h.le

lemma Covers.le_high (h : x.Covers q) : q ≤ x.high := by
  rcases h.2 with h | ⟨-, h⟩
  · exact h.le
  · exact h.le

lemma covers_of_lt (hlow : x.low < q) (hhigh : q < x.high) : x.Covers q := ⟨.inl hlow, .inl hhigh⟩

lemma prev_value_lt (hx : x.sig ≠ 0) : x.prev.value < x.value := by
  rw [value_lt_value, ← next_prev hx, scaled_next, scaled_eq]
  exact Nat.mul_lt_mul_of_pos_right (Nat.lt_succ_self _) (by positivity)

lemma value_lt_next (x : Binary64) : x.value < x.next.value := by
  rw [value_lt_value, scaled_next, scaled_eq]
  exact Nat.mul_lt_mul_of_pos_right (Nat.lt_succ_self _) (by positivity)

lemma covers_value (hx : x.sig ≠ 0) : x.Covers x.value := by
  have hprev := prev_value_lt hx
  have hnext := value_lt_next x
  apply covers_of_lt
  · rw [low]
    linarith
  · rw [high]
    linarith

lemma covers_iff (hd : 0 < d) : x.Covers (a / d / one) ↔
    (x.lowEnd * 2 ^ x.exp * d < 4 * a ∨ Even x.sig ∧ x.lowEnd * 2 ^ x.exp * d = 4 * a) ∧
    (4 * a < x.highEnd * 2 ^ x.exp * d ∨ Even x.sig ∧ 4 * a = x.highEnd * 2 ^ x.exp * d) := by
  have hd' : (0 : ℚ) < d := by exact_mod_cast hd
  have hone := one_cast_pos
  have hends (n : ℕ) : (n * 2 ^ x.exp / 4 / one < (a / d / one : ℚ) ↔ n * 2 ^ x.exp * d < 4 * a) ∧
      ((a / d / one : ℚ) < n * 2 ^ x.exp / 4 / one ↔ 4 * a < n * 2 ^ x.exp * d) ∧
      (n * 2 ^ x.exp / 4 / one = (a / d / one : ℚ) ↔ n * 2 ^ x.exp * d = 4 * a) := by
    generalize (one : ℚ) = u at hone
    rw [div_lt_div_iff_of_pos_right hone, div_lt_div_iff_of_pos_right hone, div_left_inj' hone.ne',
      div_lt_div_iff₀ (by norm_num) hd', div_lt_div_iff₀ hd' (by norm_num), div_eq_div_iff (by norm_num) hd'.ne',
      mul_comm (a : ℚ) 4]
    norm_cast
  rw [Covers, low_eq, high_eq, (hends x.lowEnd).1, (hends x.lowEnd).2.2, (hends x.highEnd).2.1, eq_comm (a := (a / d / one : ℚ)),
    (hends x.highEnd).2.2, eq_comm (a := 4 * a)]

end Values

section Nearest

/-- Of all doubles `x` is nearest to `q`; where another is as near, the last bit of `x` is zero. -/
structure IsNearest (x : Binary64) (q : ℚ) : Prop where
  canonical : x.IsCanonical
  nearest : ∀ y : Binary64, y.IsCanonical → |q - x.value| ≤ |q - y.value|
  even : ∀ y : Binary64, y.IsCanonical → y ≠ x → |q - x.value| = |q - y.value| → Even x.sig

lemma IsCanonical.isNearest_value (hx : x.IsCanonical) : x.IsNearest x.value := by
  refine ⟨hx, fun y _ => ?_, fun y hy hne htie => ?_⟩
  · rw [sub_self, abs_zero]
    exact abs_nonneg _
  · rw [sub_self, abs_zero, eq_comm, abs_eq_zero, sub_eq_zero] at htie
    exact absurd (hy.eq_of_value_eq hx htie.symm) hne

lemma abs_sub_le_iff_of_lt (h : r < s) : |q - s| ≤ |q - r| ↔ (r + s) / 2 ≤ q := by
  rcases abs_cases (q - s) with ⟨h₁, h₁'⟩ | ⟨h₁, h₁'⟩ <;> rcases abs_cases (q - r) with ⟨h₂, h₂'⟩ | ⟨h₂, h₂'⟩
  all_goals
    rw [h₁, h₂]
    constructor <;> intro hle <;> linarith

lemma abs_sub_le_iff_of_gt (h : r < s) : |q - r| ≤ |q - s| ↔ q ≤ (r + s) / 2 := by
  rcases abs_cases (q - s) with ⟨h₁, h₁'⟩ | ⟨h₁, h₁'⟩ <;> rcases abs_cases (q - r) with ⟨h₂, h₂'⟩ | ⟨h₂, h₂'⟩
  all_goals
    rw [h₁, h₂]
    constructor <;> intro hle <;> linarith

lemma Covers.isNearest (hx : x.IsCanonical) (h : x.Covers q) : x.IsNearest q := by
  -- beyond a neighbour the distance only grows, so the neighbours decide
  have hbelow {y : Binary64} (hy : y.IsCanonical) (hlt : y.value < x.value) : (y.value + x.value) / 2 ≤ x.low := by
    have := value_le_value.mpr (le_scaled_prev hx hy (value_lt_value.mp hlt))
    rw [low]
    linarith
  have habove {y : Binary64} (hy : y.IsCanonical) (hlt : x.value < y.value) : x.high ≤ (x.value + y.value) / 2 := by
    have := value_le_value.mpr (scaled_next_le hx hy (value_lt_value.mp hlt))
    rw [high]
    linarith
  refine ⟨hx, ?_, ?_⟩
  · intro y hy
    rcases lt_trichotomy y.value x.value with hlt | heq | hlt
    · exact (abs_sub_le_iff_of_lt hlt).mpr ((hbelow hy hlt).trans h.low_le)
    · rw [heq]
    · exact (abs_sub_le_iff_of_gt hlt).mpr (h.le_high.trans (habove hy hlt))
  · intro y hy hne htie
    rcases lt_trichotomy y.value x.value with hlt | heq | hlt
    · have hq := (abs_sub_le_iff_of_gt hlt).mp htie.ge
      rcases h.1 with hlow | hlow
      · exact absurd (hq.trans (hbelow hy hlt)) (not_le_of_gt hlow)
      · exact hlow.1
    · exact absurd (hy.eq_of_value_eq hx heq) hne
    · have hq := (abs_sub_le_iff_of_lt hlt).mp htie.ge
      rcases h.2 with hhigh | hhigh
      · exact absurd ((habove hy hlt).trans hq) (not_le_of_gt hhigh)
      · exact hhigh.1

lemma IsNearest.covers (hq : 0 ≤ q) (h : x.IsNearest q) : x.Covers q := by
  constructor
  · rcases eq_or_ne x.sig 0 with h0 | hne
    · have hend : x.lowEnd = 0 := by
        rw [lowEnd_eq]
        split_ifs <;> omega
      have hlow : x.low = 0 := by rw [low_eq, hend, Nat.cast_zero, zero_mul, zero_div, zero_div]
      rw [hlow]
      rcases hq.lt_or_eq with hpos | hzero
      · exact .inl hpos
      · exact .inr ⟨h0 ▸ Even.zero, hzero⟩
    · have hlt := prev_value_lt hne
      have hprev := isCanonical_prev h.canonical
      rcases ((abs_sub_le_iff_of_lt hlt).mp (h.nearest _ hprev)).lt_or_eq with hlow | hlow
      · exact .inl hlow
      · have htie := (abs_sub_le_iff_of_gt hlt).mpr hlow.ge
        have hne' : x.prev ≠ x := fun he => hlt.ne (congrArg value he)
        exact .inr ⟨h.even _ hprev hne' (le_antisymm (h.nearest _ hprev) htie), hlow⟩
  · have hlt := value_lt_next x
    have hnext := isCanonical_next h.canonical
    rcases ((abs_sub_le_iff_of_gt hlt).mp (h.nearest _ hnext)).lt_or_eq with hhigh | hhigh
    · exact .inl hhigh
    · have htie := (abs_sub_le_iff_of_lt hlt).mpr hhigh.ge
      have hne' : x.next ≠ x := fun he => hlt.ne' (congrArg value he)
      exact .inr ⟨h.even _ hnext hne' (le_antisymm (h.nearest _ hnext) htie), hhigh⟩

lemma not_lt_of_isNearest (hq : 0 ≤ q) (hx : x.IsNearest q) (hy : y.IsNearest q) : ¬ x.value < y.value := by
  intro hlt
  have hs := value_lt_value.mp hlt
  have hnext := value_le_value.mpr (scaled_next_le hx.canonical hy.canonical hs)
  have hprev := value_le_value.mpr (le_scaled_prev hy.canonical hx.canonical hs)
  have hmiddle : x.high ≤ y.low := by
    rw [high, low]
    linarith
  obtain ⟨hevenx, hhigh⟩ := (hx.covers hq).2.resolve_left (not_lt_of_ge (hmiddle.trans (hy.covers hq).low_le))
  obtain ⟨heveny, hlow⟩ := (hy.covers hq).1.resolve_left (not_lt_of_ge ((hx.covers hq).le_high.trans hmiddle))
  -- `q` is in the middle of `x` and `y`, which are side by side and both even
  have heq : x.next.value = y.value := by
    rw [high] at hhigh
    rw [low] at hlow
    linarith
  have hodd := odd_next hevenx
  rw [(isCanonical_next hx.canonical).eq_of_value_eq hy.canonical heq] at hodd
  exact Nat.not_even_iff_odd.mpr hodd heveny

lemma IsNearest.unique (hq : 0 ≤ q) (hx : x.IsNearest q) (hy : y.IsNearest q) : x = y := by
  apply hx.canonical.eq_of_value_eq hy.canonical
  exact le_antisymm (not_lt.mp (not_lt_of_isNearest hq hy hx)) (not_lt.mp (not_lt_of_isNearest hq hx hy))

lemma IsNearest.value_mono (hx : x.IsNearest q) (hy : y.IsNearest r) (hq : 0 ≤ q) (hqr : q ≤ r) : x.value ≤ y.value := by
  by_contra hlt
  rw [not_le] at hlt
  have hle := (abs_sub_le_iff_of_lt hlt).mp (hx.nearest y hy.canonical)
  have hge := (abs_sub_le_iff_of_gt hlt).mp (hy.nearest x hx.canonical)
  obtain rfl : q = r := le_antisymm hqr (hge.trans hle)
  exact not_lt_of_isNearest hq hy hx hlt

lemma IsNearest.value_le (hq : 0 ≤ q) (h : x.IsNearest q) : x.value ≤ 2 * q := by
  have hzero : IsCanonical ⟨0, 0⟩ := ⟨by decide, .inl rfl⟩
  have hle := h.nearest _ hzero
  have hv : value ⟨0, 0⟩ = 0 := value_eq_zero rfl
  rw [hv, sub_zero, abs_of_nonneg hq] at hle
  have := (abs_le.mp hle).1
  linarith

end Nearest

end BenchReport.Binary64
