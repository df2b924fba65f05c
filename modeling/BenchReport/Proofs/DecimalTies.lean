import BenchReport.Proofs.ShortestDecimal

namespace BenchReport.Binary64

variable {x : Binary64} {d d' : Decimal} {i : ℕ} {t : Tie}

/-- `x` is in the middle between two neighbouring decimals of the fewest digits, both of which round to it, and the
lower one is even. -/
structure IsTie (x : Binary64) (d d' : Decimal) : Prop where
  lower : x.IsShortest d
  upper : x.IsNearest d'.value
  even : Even d.digits
  next : d' = ⟨d.digits + 1, d.exp⟩
  middle : 2 * x.value = d.value + d'.value

namespace IsTie

lemma value_upper (h : x.IsTie d d') : d'.value = (d.digits + 1 : ℕ) * 10 ^ d.exp := by rw [h.next, Decimal.value]

lemma value_lt_value (h : x.IsTie d d') : d.value < d'.value := by
  have hten := ten_zpow_pos d.exp
  rw [h.value_upper, Decimal.value]
  gcongr
  exact Nat.lt_succ_self _

lemma sig_ne_zero (h : x.IsTie d d') : x.sig ≠ 0 := by
  intro h0
  have hmiddle := h.middle
  have hlt := h.value_lt_value
  have := d.value_nonneg
  rw [value_eq_zero h0] at hmiddle
  linarith

lemma digits_ne_zero (h : x.IsTie d d') : d.digits ≠ 0 :=
  Decimal.digits_ne_zero ((low_pos h.sig_ne_zero).trans_le (h.lower.reads.covers d.value_nonneg).low_le)

/-- An even number and the next have as many digits. -/
lemma width_upper (h : x.IsTie d d') : d'.width = d.width := by
  have hpos := d.width_pos
  have hlt := d.digits_lt
  have hle := d.le_digits h.digits_ne_zero
  have hten : 10 ^ d.width = 10 ^ (d.width - 1) * 10 := by rw [← pow_succ, Nat.sub_add_cancel hpos]
  obtain ⟨n, hn⟩ := h.even
  have hdigits : d'.digits = d.digits + 1 := by rw [h.next]
  apply le_antisymm
  · rw [Decimal.width_le_iff hpos]
    omega
  · exact h.lower.fewest d' h.upper

lemma below_eq (h : x.IsTie d d') : x.below d.exp = d.digits := by
  have hmiddle := h.middle
  have hlt := h.value_lt_value
  apply Binary64.below_eq
  · change d.value ≤ x.value
    linarith
  · rw [← h.value_upper]
    linarith

lemma decimalAt?_eq (h : x.IsTie d d') (t : Tie) : x.decimalAt? t d.exp = some (if t = .up then d' else d) := by
  have hlower : x.Reads d.digits d.exp := reads_iff_covers.mpr (h.lower.reads.covers d.value_nonneg)
  have hupper : x.Reads (d.digits + 1) d.exp := by
    rw [reads_iff_covers, ← h.value_upper]
    exact h.upper.covers d'.value_nonneg
  have hmiddle : x.value = x.middle d.exp := by
    rw [Binary64.middle, h.below_eq, ← h.value_upper, ← Decimal.value, ← h.middle, mul_div_cancel_left₀ _ (by norm_num)]
  have hup : GoesUp t x d.exp ↔ t = .up := by
    rw [goesUp_iff, h.below_eq, ← hmiddle]
    simp [Nat.not_odd_iff_even.mpr h.even]
  rw [Binary64.decimalAt?_eq, h.below_eq, if_pos hlower]
  simp only [hupper, hup, true_and, h.next]
  split_ifs <;> rfl

lemma shortest_eq (hx : x.IsCanonical) (h : x.IsTie d d') (t : Tie) : x.shortest t = if t = .up then d' else d := by
  have hne := h.sig_ne_zero
  have hs := isShortest_shortest hx hne t
  have hwidth : (x.shortest t).width = d.width :=
    le_antisymm (hs.fewest d h.lower.reads) (h.lower.fewest _ hs.reads)
  -- the decimal that is found is as near to `x` as the two of the tie
  have hexp : (x.shortest t).exp = d.exp := by
    have hnear : |x.value - (x.shortest t).value| = |x.value - d.value| :=
      le_antisymm (hs.closest d h.lower.reads hwidth.symm) (h.lower.closest _ hs.reads hwidth)
    have hmiddle := h.middle
    rcases abs_eq_abs.mp hnear with heq | heq
    · rw [Decimal.eq_of_value_eq h.digits_ne_zero hwidth (by linarith)]
    · have hne' : d'.digits ≠ 0 := by
        rw [h.next]
        exact Nat.succ_ne_zero _
      rw [Decimal.eq_of_value_eq hne' (hwidth.trans h.width_upper.symm) (by linarith), h.next]
  obtain ⟨i, hfound, -⟩ := exists_first hx hne t
  rw [← (covers_of_decimalAt? hfound).1, hexp, h.decimalAt?_eq t] at hfound
  exact (Option.some.inj hfound).symm

end IsTie

lemma first_le_first {i' : ℕ} (h : x.decimalAt? t (x.leadExp + 1 - i) = some d)
    (hbefore : ∀ j : ℕ, j < i' → ∀ n : ℕ, ¬ x.Covers (n * 10 ^ (x.leadExp + 1 - j))) : i' ≤ i := by
  obtain ⟨hexp, hcovers, -⟩ := covers_of_decimalAt? h
  by_contra hlt
  apply hbefore i (Nat.lt_of_not_le hlt) d.digits
  rwa [← hexp]

lemma isTie_or_eq (hx : x.IsCanonical) (hne : x.sig ≠ 0) :
    x.shortest .even = x.shortest .up ∨ x.IsTie (x.shortest .even) (x.shortest .up) := by
  obtain ⟨i, hfound, hbefore⟩ := exists_first hx hne .even
  obtain ⟨i', hfound', hbefore'⟩ := exists_first hx hne .up
  obtain rfl : i = i' := le_antisymm (first_le_first hfound' hbefore) (first_le_first hfound hbefore')
  rcases decimalAt?_up hfound with h | ⟨h, heven, hmiddle⟩
  · exact .inl (Option.some.inj (h.symm.trans hfound'))
  · have hup := Option.some.inj (hfound'.symm.trans h)
    exact .inr ⟨isShortest_shortest hx hne _, (isShortest_shortest hx hne _).reads, heven, hup, hup ▸ hmiddle⟩

end BenchReport.Binary64
