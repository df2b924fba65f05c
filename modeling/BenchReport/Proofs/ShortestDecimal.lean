import BenchReport.Proofs.DecimalGrid

/-! The shortest decimal that rounds to a double. The search passes from coarse powers of ten to fine ones, and the
numbers that round to a double are an interval, so that the first hit has the fewest digits. -/

namespace BenchReport.Binary64

variable {x : Binary64} {d d' : Decimal} {i : ℕ} {q : ℚ} {t : Tie}

section Search

lemma findSome?_range_eq_some {α : Type} {f : ℕ → Option α} {b : α} (n : ℕ) :
    (List.range n).findSome? f = some b ↔ ∃ i < n, f i = some b ∧ ∀ j < i, f j = none := by
  induction n with
  | zero => simp
  | succ n ih =>
    rw [List.range_succ, List.findSome?_append, Option.or_eq_some_iff, ih, List.findSome?_eq_none_iff]
    simp only [List.mem_range, List.findSome?_singleton]
    constructor
    · rintro (⟨i, hi, h⟩ | ⟨hnone, hn⟩)
      · exact ⟨i, by omega, h⟩
      · exact ⟨n, by omega, hn, hnone⟩
    · rintro ⟨i, hi, hb, hnone⟩
      rcases Nat.lt_or_ge i n with hlt | hge
      · exact .inl ⟨i, hlt, hb, hnone⟩
      · obtain rfl : i = n := by omega
        exact .inr ⟨hnone, hb⟩

lemma one_le_scaled_mul_lift (hx : x.sig ≠ 0) : one ≤ x.scaled * 10 ^ x.lift := by
  have hs : 0 < x.scaled := Nat.mul_pos (Nat.pos_of_ne_zero hx) (Nat.two_pow_pos _)
  have hlarge : one ≤ 10 ^ 324 := by decide +kernel
  rw [lift]
  split_ifs with h h'
  · rwa [pow_zero, Nat.mul_one]
  · exact h'
  · exact hlarge.trans (Nat.le_mul_of_pos_left _ hs)

lemma leadExp_eq (x : Binary64) :
    x.leadExp = (Nat.toDigits 10 (x.scaled * 10 ^ x.lift / one)).length - 1 - x.lift := rfl

lemma leadExp_spec (hx : x.sig ≠ 0) : (10 ^ x.leadExp : ℚ) ≤ x.value ∧ x.value < 10 ^ (x.leadExp + 1) := by
  let d : Decimal := ⟨x.scaled * 10 ^ x.lift / one, 0⟩
  have hone := one_cast_pos
  have hten := ten_zpow_pos x.lift
  have hne : d.digits ≠ 0 := (Nat.div_pos (one_le_scaled_mul_lift hx) one_pos).ne'
  have hlow : 10 ^ (d.width - 1) * one ≤ x.scaled * 10 ^ x.lift :=
    (Nat.le_div_iff_mul_le one_pos).mp (d.le_digits hne)
  have hhigh : x.scaled * 10 ^ x.lift < 10 ^ d.width * one := (Nat.div_lt_iff_lt_mul one_pos).mp d.digits_lt
  have hw := d.width_pos
  have hlead : x.leadExp = (d.width - 1 : ℕ) - x.lift := by
    rw [leadExp_eq, Nat.cast_sub hw]
    rfl
  have hlead' : x.leadExp + 1 = d.width - x.lift := by omega
  constructor
  · rw [hlead, zpow_sub₀ (by norm_num), value, div_le_div_iff₀ hten hone, zpow_natCast, zpow_natCast]
    exact_mod_cast hlow
  · rw [hlead', zpow_sub₀ (by norm_num), value, div_lt_div_iff₀ hone hten, zpow_natCast, zpow_natCast]
    exact_mod_cast hhigh

lemma value_lt_mul_gap (hx : x.IsCanonical) : x.value < 10 ^ 16 * (x.high - x.low) := by
  have hends : 4 * x.sig + 10 ^ 16 * x.lowEnd < 10 ^ 16 * x.highEnd := by
    have := hx.sig_lt
    rw [lowEnd_eq, highEnd]
    split_ifs with h <;> omega
  have hcast : (x.sig : ℚ) < 10 ^ 16 * (x.highEnd / 4 - x.lowEnd / 4) := by
    have : (4 * x.sig + 10 ^ 16 * x.lowEnd : ℚ) < 10 ^ 16 * x.highEnd := by exact_mod_cast hends
    linarith
  calc x.value = x.sig * x.ulp := value_eq_mul_ulp x
    _ < 10 ^ 16 * (x.highEnd / 4 - x.lowEnd / 4) * x.ulp := mul_lt_mul_of_pos_right hcast x.ulp_pos
    _ = 10 ^ 16 * (x.high - x.low) := by rw [high_eq_mul_ulp, low_eq_mul_ulp, ← sub_mul, mul_assoc]

/-- Seventeen digits tell every double from its neighbours. -/
lemma exists_covers (hx : x.IsCanonical) (hne : x.sig ≠ 0) : ∃ n : ℕ, x.Covers (n * 10 ^ (x.leadExp - 16)) := by
  have hten := ten_zpow_pos (x.leadExp - 16)
  have hgap : 10 ^ (x.leadExp - 16) < x.high - x.low := by
    rw [zpow_sub₀ (by norm_num), div_lt_iff₀ (by norm_num)]
    calc (10 : ℚ) ^ x.leadExp ≤ x.value := (leadExp_spec hne).1
      _ < 10 ^ 16 * (x.high - x.low) := value_lt_mul_gap hx
      _ = (x.high - x.low) * 10 ^ (16 : ℤ) := by
        rw [mul_comm]
        norm_cast
  refine ⟨⌊x.low / 10 ^ (x.leadExp - 16)⌋₊ + 1, covers_of_lt ?_ ?_⟩
  · rw [← div_lt_iff₀ hten]
    exact_mod_cast Nat.lt_floor_add_one (x.low / 10 ^ (x.leadExp - 16))
  · have hfloor := Nat.floor_le (div_nonneg (low_pos hne).le hten.le)
    rw [le_div_iff₀ hten] at hfloor
    push_cast
    linarith

lemma exists_first (hx : x.IsCanonical) (hne : x.sig ≠ 0) (t : Tie) : ∃ i : ℕ,
    x.decimalAt? t (x.leadExp + 1 - i) = some (x.shortest t) ∧
    ∀ j : ℕ, j < i → ∀ n : ℕ, ¬ x.Covers (n * 10 ^ (x.leadExp + 1 - j)) := by
  have hsome : ((List.range 18).findSome? fun (i : ℕ) => x.decimalAt? t (x.leadExp + 1 - i)) ≠ none := by
    intro hnone
    obtain ⟨n, hn⟩ := exists_covers hx hne
    have h17 := List.findSome?_eq_none_iff.mp hnone 17 (by decide)
    have hexp : x.leadExp + 1 - (17 : ℕ) = x.leadExp - 16 := by omega
    rw [hexp] at h17
    exact (decimalAt?_eq_none_iff hne).mp h17 n hn
  obtain ⟨d, hd⟩ := Option.ne_none_iff_exists'.mp hsome
  obtain ⟨i, -, hfound, hbefore⟩ := (findSome?_range_eq_some 18).mp hd
  have hshortest : x.shortest t = d := by
    rw [shortest, hd, Option.getD_some]
  refine ⟨i, hshortest ▸ hfound, fun j hj => ?_⟩
  exact (decimalAt?_eq_none_iff hne).mp (hbefore j hj)

end Search

section Shortest

/-- `d` rounds to `x`, no decimal with fewer digits does, and none with as many that is nearer to `x`. -/
structure IsShortest (x : Binary64) (d : Decimal) : Prop where
  reads : x.IsNearest d.value
  fewest : ∀ d' : Decimal, x.IsNearest d'.value → d.width ≤ d'.width
  closest : ∀ d' : Decimal, x.IsNearest d'.value → d'.width = d.width → |x.value - d.value| ≤ |x.value - d'.value|

lemma below_lt (x : Binary64) (hne : x.sig ≠ 0) (i : ℕ) : x.below (x.leadExp + 1 - i) < 10 ^ i := by
  have hten := ten_zpow_pos (x.leadExp + 1 - i)
  have hlt := (below_le x (x.leadExp + 1 - i)).trans_lt (leadExp_spec hne).2
  have hsplit : (10 : ℚ) ^ (x.leadExp + 1) = 10 ^ i * 10 ^ (x.leadExp + 1 - i) := by
    rw [← zpow_natCast, ← zpow_add₀ (by norm_num)]
    congr 1
    omega
  rw [hsplit] at hlt
  exact_mod_cast lt_of_mul_lt_mul_right hlt hten.le

/-- Before a hit at the `i`-th power of ten fewer digits have been tried, a single one at the first two. -/
lemma width_le_of_first (hne : x.sig ≠ 0) (h : x.decimalAt? t (x.leadExp + 1 - i) = some d)
    (hbefore : ∀ j : ℕ, j < i → ∀ n : ℕ, ¬ x.Covers (n * 10 ^ (x.leadExp + 1 - j))) : d.width ≤ max 1 i := by
  obtain ⟨hexp, hcovers, hle⟩ := covers_of_decimalAt? h
  have hlt := below_lt x hne i
  rw [Decimal.width_le_iff (by omega)]
  rcases Nat.eq_zero_or_pos i with rfl | hpos
  · rw [max_eq_left (by decide)]
    omega
  · rw [max_eq_right hpos]
    refine Nat.lt_of_le_of_ne (hle.trans hlt) fun hfull => ?_
    apply hbefore 0 hpos 1
    have hvalue : d.value = (1 : ℕ) * 10 ^ (x.leadExp + 1 - (0 : ℕ)) := by
      rw [Decimal.value, hfull, hexp, Nat.cast_pow, Nat.cast_ofNat, ← zpow_natCast, ← zpow_add₀ (by norm_num)]
      simp
    rwa [hvalue] at hcovers

lemma covers_top (hne : x.sig ≠ 0) (hd : x.Covers q) (h : 10 ^ (x.leadExp + 1) ≤ q) :
    x.Covers ((1 : ℕ) * 10 ^ (x.leadExp + 1 - (0 : ℕ))) := by
  simpa using (covers_value hne).between hd (leadExp_spec hne).2.le h

lemma covers_lead (hne : x.sig ≠ 0) (hd : x.Covers q) (h : q < 10 ^ x.leadExp) :
    x.Covers ((1 : ℕ) * 10 ^ (x.leadExp + 1 - (1 : ℕ))) := by
  simpa using hd.between (covers_value hne) h.le (leadExp_spec hne).1

lemma le_width_of_first (hne : x.sig ≠ 0) (hd : x.Covers d.value)
    (hbefore : ∀ j : ℕ, j < i → ∀ n : ℕ, ¬ x.Covers (n * 10 ^ (x.leadExp + 1 - j))) : max 1 i ≤ d.width := by
  have hw := d.width_pos
  by_contra hlt
  have hi : d.width < i := by omega
  rcases le_or_gt (10 ^ (x.leadExp + 1)) d.value with hge | hltop
  · exact hbefore 0 (by omega) 1 (covers_top hne hd hge)
  rcases lt_or_ge d.value (10 ^ x.leadExp) with hlow | hge
  · exact hbefore 1 (by omega) 1 (covers_lead hne hd hlow)
  · apply hbefore d.width hi d.digits
    rwa [← Decimal.exp_eq hge hltop]

section Tiny

/-- Only where the doubles are as sparse as the powers of ten can one cover a power and a lower multiple. -/
lemma sig_lt_ten (hne : x.sig ≠ 0) (hq : x.Covers q) (hle : q ≤ 9 * 10 ^ x.leadExp)
    (htop : x.Covers (10 ^ (x.leadExp + 1))) : x.sig < 10 := by
  have hten := ten_zpow_pos x.leadExp
  have hlt := (leadExp_spec hne).2
  have hhigh := htop.le_high.trans (high_le x)
  have hlow := hq.low_le
  rw [zpow_add_one₀ (by norm_num)] at hlt hhigh
  have hulp : 10 ^ x.leadExp ≤ x.ulp := by linarith
  have hvalue : x.sig * x.ulp < 10 * x.ulp := calc
    x.sig * x.ulp = x.value := (value_eq_mul_ulp x).symm
    _ < 10 ^ x.leadExp * 10 := hlt
    _ ≤ 10 * x.ulp := by linarith
  exact_mod_cast lt_of_mul_lt_mul_right hvalue x.ulp_pos.le

lemma tiny_reads_top : ∀ s < 10, s ≠ 0 →
    Reads ⟨s, 0⟩ 1 (leadExp ⟨s, 0⟩ + 1) → s = 2 := by decide +kernel

lemma leadExp_tiny : leadExp ⟨2, 0⟩ = -324 := by decide +kernel

lemma nineteen_le (hx : x.IsCanonical) (hne : x.sig ≠ 0) (hq : x.Covers q) (hle : q ≤ 9 * 10 ^ x.leadExp)
    (htop : x.Covers (10 ^ (x.leadExp + 1))) : 19 * 10 ^ x.leadExp ≤ 2 * x.value := by
  have hsig := sig_lt_ten hne hq hle htop
  have he : x.exp = 0 := hx.full.resolve_right (by omega)
  obtain ⟨s, e⟩ := x
  obtain rfl : e = 0 := he
  have hreads : Reads ⟨s, 0⟩ 1 (leadExp ⟨s, 0⟩ + 1) := by
    rw [reads_iff_covers, Nat.cast_one, one_mul]
    exact htop
  obtain rfl : s = 2 := tiny_reads_top s hsig hne hreads
  have hnat : 19 * one ≤ 4 * 10 ^ 324 := by decide +kernel
  have hcast : ((19 * one : ℕ) : ℚ) ≤ ((4 * 10 ^ 324 : ℕ) : ℚ) := Nat.cast_le.mpr hnat
  rw [Nat.cast_mul, Nat.cast_mul, Nat.cast_pow, Nat.cast_ofNat, Nat.cast_ofNat, Nat.cast_ofNat] at hcast
  have hvalue : 2 * value ⟨2, 0⟩ = 4 / one := by
    rw [value_eq_mul_ulp, ulp, pow_zero, ← mul_assoc, mul_one_div]
    congr 1
    norm_num
  have hten : (0 : ℚ) < 10 ^ 324 := by positivity
  rw [leadExp_tiny, hvalue, zpow_neg, ← div_eq_mul_inv]
  exact (div_le_div_iff₀ hten one_cast_pos).mpr hcast

end Tiny

lemma value_of_top (hfound : x.decimalAt? t (x.leadExp + 1 - (0 : ℕ)) = some d) (hne : x.sig ≠ 0) :
    d.value = 10 ^ (x.leadExp + 1) := by
  obtain ⟨hexp, hcovers, hle⟩ := covers_of_decimalAt? hfound
  have hlt := below_lt x hne 0
  have hpos : 0 < d.value := (low_pos hne).trans_le hcovers.low_le
  have hone : d.digits = 1 := by
    have := Decimal.digits_ne_zero hpos
    omega
  rw [Decimal.value, hexp, hone]
  simp

lemma le_nine_mul (hw : d.width = 1) {lead : ℤ} (h : d.value < 10 ^ (lead + 1)) : d.value ≤ 9 * 10 ^ lead := by
  have hten := ten_zpow_pos lead
  rcases lt_or_ge d.value (10 ^ lead) with hlow | hge
  · linarith
  · have hexp : d.exp = lead := by
      have := Decimal.exp_eq hge h
      omega
    have hdigits : d.digits ≤ 9 := by
      have := d.digits_lt
      rw [hw] at this
      omega
    rw [Decimal.value, hexp]
    gcongr
    exact_mod_cast hdigits

lemma abs_sub_le_of_top (hx : x.IsCanonical) (hne : x.sig ≠ 0) (hd : x.Covers d.value) (hw : d.width = 1)
    (htop : x.Covers (10 ^ (x.leadExp + 1))) : |x.value - 10 ^ (x.leadExp + 1)| ≤ |x.value - d.value| := by
  have hlt := (leadExp_spec hne).2
  rcases le_or_gt (10 ^ (x.leadExp + 1)) d.value with hge | hbelow
  · rw [abs_of_nonpos (by linarith), abs_of_nonpos (by linarith)]
    linarith
  · have hle := le_nine_mul hw hbelow
    have hmiddle := nineteen_le hx hne hd hle htop
    rw [abs_sub_le_iff_of_lt hbelow, zpow_add_one₀ (by norm_num)]
    linarith

lemma abs_sub_le_of_first (hx : x.IsCanonical) (hne : x.sig ≠ 0) (h : x.decimalAt? t (x.leadExp + 1 - i) = some d)
    (hbefore : ∀ j : ℕ, j < i → ∀ n : ℕ, ¬ x.Covers (n * 10 ^ (x.leadExp + 1 - j))) (hd' : x.Covers d'.value)
    (hw : d'.width = max 1 i) : |x.value - d.value| ≤ |x.value - d'.value| := by
  obtain ⟨hlead, htop⟩ := leadExp_spec hne
  rcases Nat.eq_zero_or_pos i with rfl | hi
  · have hd := value_of_top h hne
    have hcovers := (covers_of_decimalAt? h).2.1
    rw [hd] at hcovers ⊢
    exact abs_sub_le_of_top hx hne hd' hw hcovers
  have hbelow : d'.value < 10 ^ (x.leadExp + 1) := lt_of_not_ge fun hge => hbefore 0 hi 1 (covers_top hne hd' hge)
  rcases lt_or_ge d'.value (10 ^ x.leadExp) with hlow | hge
  -- the power of ten between `d'` and `x` has one digit as well
  · have hpower := covers_lead hne hd' hlow
    obtain rfl : i = 1 := by
      by_contra hne1
      exact hbefore 1 (by omega) 1 hpower
    refine (abs_sub_le_of_decimalAt? hne h hpower).trans ?_
    have hone : ((1 : ℕ) * 10 ^ (x.leadExp + 1 - (1 : ℕ)) : ℚ) = 10 ^ x.leadExp := by simp
    rw [hone, abs_of_nonneg (by linarith), abs_of_nonneg (by linarith)]
    linarith
  · have hexp := Decimal.exp_eq hge hbelow
    rw [hw, max_eq_right hi] at hexp
    have hvalue : d'.value = d'.digits * 10 ^ (x.leadExp + 1 - i) := by rw [Decimal.value, hexp]
    rw [hvalue] at hd' ⊢
    exact abs_sub_le_of_decimalAt? hne h hd'

lemma isShortest_shortest (hx : x.IsCanonical) (hne : x.sig ≠ 0) (t : Tie) : x.IsShortest (x.shortest t) := by
  obtain ⟨i, hfound, hbefore⟩ := exists_first hx hne t
  have hcovers := (covers_of_decimalAt? hfound).2.1
  have hwidth : (x.shortest t).width = max 1 i :=
    le_antisymm (width_le_of_first hne hfound hbefore) (le_width_of_first hne hcovers hbefore)
  refine ⟨hcovers.isNearest hx, fun d hd => ?_, fun d hd hw => ?_⟩
  · rw [hwidth]
    exact le_width_of_first hne (hd.covers d.value_nonneg) hbefore
  · exact abs_sub_le_of_first hx hne hfound hbefore (hd.covers d.value_nonneg) (hw.trans hwidth)

end Shortest

end BenchReport.Binary64
