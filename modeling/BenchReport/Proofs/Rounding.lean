import BenchReport.Proofs.Nearest

namespace BenchReport.Binary64

variable {x y : Binary64} {q : ℚ} {a d e n : ℕ}

section Division

lemma halfEven_spec (a : ℕ) (hd : 0 < d) :
    (2 * (halfEven a d * d) < 2 * a + d ∨ Even (halfEven a d) ∧ 2 * (halfEven a d * d) = 2 * a + d) ∧
    (2 * a < 2 * (halfEven a d * d) + d ∨ Even (halfEven a d) ∧ 2 * a = 2 * (halfEven a d * d) + d) := by
  have hr := Nat.mod_lt a hd
  have ha : a / d * d + a % d = a := Nat.div_add_mod' a d
  have hnext : (a / d + 1) * d = a / d * d + d := by ring
  simp only [halfEven, Nat.even_iff]
  split_ifs with h
  · omega
  · rw [hnext]
    omega

lemma lt_two_pow_unitExp (a : ℕ) (hd : 0 < d) : a < 2 ^ 53 * (d * 2 ^ unitExp a d) := by
  have hlt : a / d < 2 ^ (53 + unitExp a d) := by
    refine Nat.lt_of_lt_of_le Nat.lt_log2_self (Nat.pow_le_pow_right (by decide) ?_)
    rw [unitExp]
    omega
  calc a < 2 ^ (53 + unitExp a d) * d := (Nat.div_lt_iff_lt_mul hd).mp hlt
    _ = 2 ^ 53 * (d * 2 ^ unitExp a d) := by ring

lemma two_pow_unitExp_le (hd : 0 < d) (he : 0 < unitExp a d) : 2 ^ 52 * (d * 2 ^ unitExp a d) ≤ a := by
  have hne : a / d ≠ 0 := by
    intro h0
    rw [unitExp, h0] at he
    exact absurd he (by decide)
  have hle : 2 ^ (52 + unitExp a d) ≤ a / d := by
    have hlog : 52 + unitExp a d = (a / d).log2 := by
      rw [unitExp] at he ⊢
      omega
    rw [hlog]
    exact Nat.log2_self_le hne
  calc 2 ^ 52 * (d * 2 ^ unitExp a d) = 2 ^ (52 + unitExp a d) * d := by ring
    _ ≤ a := (Nat.le_div_iff_mul_le hd).mp hle

lemma round_eq (a d : ℕ) : round a d = if halfEven a (d * 2 ^ unitExp a d) = 2 ^ 53 then
    ⟨2 ^ 52, unitExp a d + 1⟩ else ⟨halfEven a (d * 2 ^ unitExp a d), unitExp a d⟩ := rfl

lemma halfEven_unitExp_le (a : ℕ) (hd : 0 < d) : halfEven a (d * 2 ^ unitExp a d) ≤ 2 ^ 53 := by
  have hD := Nat.mul_pos hd (Nat.two_pow_pos (unitExp a d))
  have hupper := lt_two_pow_unitExp a hd
  have hlow := (halfEven_spec a hD).1
  by_contra hlt
  have hle := Nat.mul_le_mul_right (d * 2 ^ unitExp a d) (Nat.lt_of_not_le hlt)
  omega

lemma le_halfEven_unitExp (hd : 0 < d) (he : 0 < unitExp a d) : 2 ^ 52 ≤ halfEven a (d * 2 ^ unitExp a d) := by
  have hD := Nat.mul_pos hd (Nat.two_pow_pos (unitExp a d))
  have hlower := two_pow_unitExp_le hd he
  have hhigh := (halfEven_spec a hD).2
  by_contra hlt
  have hle := Nat.mul_le_mul_right (d * 2 ^ unitExp a d) (Nat.lt_of_not_le hlt)
  rw [Nat.succ_eq_add_one, Nat.add_mul] at hle
  omega

lemma isCanonical_round (a : ℕ) (hd : 0 < d) : (round a d).IsCanonical := by
  have hle := halfEven_unitExp_le a hd
  rw [round_eq]
  split_ifs with h
  · exact ⟨Nat.pow_lt_pow_right (by decide) (by decide), .inr le_rfl⟩
  · refine ⟨Nat.lt_of_le_of_ne hle h, ?_⟩
    rcases Nat.eq_zero_or_pos (unitExp a d) with h0 | he
    · exact .inl h0
    · exact .inr (le_halfEven_unitExp hd he)

lemma covers_round (a : ℕ) (hd : 0 < d) : (round a d).Covers (a / d / one) := by
  have hD := Nat.mul_pos hd (Nat.two_pow_pos (unitExp a d))
  obtain ⟨hlow, hhigh⟩ := halfEven_spec a hD
  have hupper := lt_two_pow_unitExp a hd
  have hlower := two_pow_unitExp_le (a := a) hd
  have hcomm (k e : ℕ) : k * 2 ^ e * d = k * (d * 2 ^ e) := by ring
  rw [covers_iff hd, round_eq, lowEnd_eq, highEnd]
  by_cases h : halfEven a (d * 2 ^ unitExp a d) = 2 ^ 53
  · have hsucc : d * 2 ^ (unitExp a d + 1) = 2 * (d * 2 ^ unitExp a d) := by ring
    have heven : Even (2 ^ 52) := even_iff_two_dvd.mpr (dvd_pow_self 2 (by decide))
    rw [h] at hlow
    simp only [if_pos h, hcomm, hsucc, heven, true_and, Nat.succ_pos, and_self, if_true]
    replace hlow := hlow.imp_right And.right
    generalize d * 2 ^ unitExp a d = D at *
    omega
  · simp only [if_neg h, hcomm]
    generalize halfEven a (d * 2 ^ unitExp a d) = m at *
    generalize d * 2 ^ unitExp a d = D at *
    rw [Nat.add_mul, Nat.mul_assoc]
    refine ⟨?_, ?_⟩
    · split_ifs with htwo
      · have := hlower htwo.2
        rw [htwo.1]
        exact .inl (by omega)
      · rw [Nat.sub_mul, Nat.mul_assoc]
        rcases Nat.eq_zero_or_pos m with rfl | hm
        · simp only [Even.zero, true_and]
          omega
        · have := Nat.le_mul_of_pos_left D hm
          exact hlow.imp (fun h => by omega) (And.imp_right fun h => by omega)
    · exact hhigh.imp (fun h => by omega) (And.imp_right fun h => by omega)

lemma isNearest_round (a : ℕ) (hd : 0 < d) : (round a d).IsNearest (a / d / one) :=
  (covers_round a hd).isNearest (isCanonical_round a hd)

lemma isNearest_ofNat (n : ℕ) : (ofNat n).IsNearest n := by
  have h := isNearest_round (n * one) Nat.one_pos
  rwa [Nat.cast_one, div_one, Nat.cast_mul, mul_div_cancel_right₀ _ one_cast_pos.ne'] at h

lemma value_ofNat_le (n : ℕ) : (ofNat n).value ≤ 2 * n :=
  (isNearest_ofNat n).value_le (Nat.cast_nonneg n)

lemma isNearest_div (x : Binary64) (hy : y.sig ≠ 0) : (x.div y).IsNearest (x.value / y.value) := by
  have hs : 0 < y.scaled := Nat.mul_pos (Nat.pos_of_ne_zero hy) (Nat.two_pow_pos _)
  have h := isNearest_round (x.scaled * one) hs
  have hone := one_cast_pos
  have hq : ((x.scaled * one : ℕ) / y.scaled / one : ℚ) = x.value / y.value := by
    have hs' : (0 : ℚ) < y.scaled := Nat.cast_pos.mpr hs
    rw [value, value, Nat.cast_mul]
    generalize (one : ℚ) = u at hone
    field_simp
  rwa [hq] at h

end Division

section Exactness

lemma exists_isCanonical (hn : n < 2 ^ 53) (e : ℕ) : ∃ x : Binary64, x.IsCanonical ∧ x.scaled = n * 2 ^ e := by
  induction e generalizing n with
  | zero => exact ⟨⟨n, 0⟩, ⟨hn, .inl rfl⟩, rfl⟩
  | succ e ih =>
    rcases Nat.lt_or_ge n (2 ^ 52) with hlt | hle
    · obtain ⟨x, hx, hs⟩ := ih (n := n * 2) (by omega)
      refine ⟨x, hx, hs.trans ?_⟩
      ring
    · exact ⟨⟨n, e + 1⟩, ⟨hn, .inr hle⟩, rfl⟩

lemma value_ofNat (hn : n < 2 ^ 53) : (ofNat n).value = n := by
  obtain ⟨x, hx, hs⟩ := exists_isCanonical hn 1074
  have hv : x.value = n := by
    have hone : 2 ^ 1074 = one := by decide +kernel
    rw [value, hs, hone, Nat.cast_mul, mul_div_cancel_right₀ _ one_cast_pos.ne']
  rw [(isNearest_ofNat n).unique (Nat.cast_nonneg n) (hv ▸ hx.isNearest_value), hv]

end Exactness

lemma IsNearest.tooLarge_eq_false (hq : 0 ≤ q) (hx : x.IsNearest q) (hle : q ≤ 2 ^ 65) : x.tooLarge = false := by
  rw [tooLarge, decide_eq_false_iff_not]
  intro hexp
  have hsig : 2 ^ 52 ≤ x.sig := hx.canonical.full.resolve_left (by omega)
  have hscaled : one * 2 ^ 66 < x.scaled := calc
    one * 2 ^ 66 < 2 ^ 52 * 2 ^ 2046 := by decide +kernel
    _ ≤ x.sig * 2 ^ x.exp := Nat.mul_le_mul hsig (Nat.pow_le_pow_right (by decide) hexp)
  have hcast : ((one * 2 ^ 66 : ℕ) : ℚ) < x.scaled := Nat.cast_lt.mpr hscaled
  have hvalue : (2 ^ 66 : ℚ) < x.value := by
    rw [value, lt_div_iff₀ one_cast_pos, mul_comm]
    rwa [Nat.cast_mul, Nat.cast_pow, Nat.cast_ofNat] at hcast
  have := hx.value_le hq
  linarith

end BenchReport.Binary64
