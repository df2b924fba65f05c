import BenchReport.Proofs.Dates
import BenchReport.Proofs.UniqueCuts
import Mathlib.Algebra.Group.Nat.Defs

namespace BenchReport.Instant

variable {c : Char} {s s' : List Char} {n n' width : ℕ} {y y' : ℤ} {t t' : Instant}

structure ShownAlike (t t' : Instant) : Prop where
  minute : t.seconds.fdiv 60 = t'.seconds.fdiv 60
  second : t.seconds + (t.nanos / 1000000000 : ℕ) = t'.seconds + (t'.nanos / 1000000000 : ℕ)
  fraction : t.nanos % 1000000000 = t'.nanos % 1000000000

/-- A leap second before the last second of its minute, and the instant as far into the second that follows. -/
structure LeapsInto (t t' : Instant) : Prop where
  leap : 1000000000 ≤ t.nanos
  early : t.seconds.fmod 60 ≠ 59
  next : t' = ⟨t.seconds + 1, t.nanos - 1000000000⟩

section Padding

lemma ofDigitChars_padded (width n : ℕ) : Nat.ofDigitChars 10 (padded width n) 0 = n := by
  rw [padded, Nat.ofDigitChars_append, Nat.ofDigitChars_replicate_zero, Nat.mul_zero, Nat.ofDigitChars_ten_toDigits]

lemma padded_inj (h : padded width n = padded width n') : n = n' := by
  have hv := congrArg (Nat.ofDigitChars 10 · 0) h
  simpa only [ofDigitChars_padded] using hv

lemma isDigit_of_mem_padded (h : c ∈ padded width n) : c.isDigit = true := by
  rcases List.mem_append.mp h with h | h
  · rw [List.eq_of_mem_replicate h]
    rfl
  · exact Numeral.isDigit_of_mem_toDigits h

lemma not_mem_padded (hc : c.isDigit = false) : c ∉ padded width n := by
  intro h
  rw [isDigit_of_mem_padded h] at hc
  cases hc

lemma length_padded (hw : 0 < width) (hn : n < 10 ^ width) : (padded width n).length = width := by
  have hl := (Nat.length_toDigits_le_iff (by decide) hw).mpr hn
  rw [padded, List.length_append, List.length_replicate]
  omega

lemma padded_append_cons_inj (hc : c.isDigit = false)
    (h : padded width n ++ c :: s = padded width n' ++ c :: s') : n = n' ∧ s = s' := by
  obtain ⟨hn, hs⟩ := append_cons_inj (not_mem_padded hc) (not_mem_padded hc) h
  exact ⟨padded_inj hn, hs⟩

lemma takeWhile_padded_append (hs : ∀ c ∈ s.head?, c.isDigit = false) :
    (padded width n ++ s).takeWhile Char.isDigit = padded width n := by
  rw [List.takeWhile_append_of_pos fun _ => isDigit_of_mem_padded]
  cases s with
  | nil => exact List.append_nil _
  | cons c s => rw [List.takeWhile_cons_of_neg (by simp [hs c rfl]), List.append_nil]

lemma padded_append_inj (hs : ∀ c ∈ s.head?, c.isDigit = false) (hs' : ∀ c ∈ s'.head?, c.isDigit = false)
    (h : padded width n ++ s = padded width n' ++ s') : n = n' ∧ s = s' := by
  have hp := congrArg (List.takeWhile Char.isDigit) h
  rw [takeWhile_padded_append hs, takeWhile_padded_append hs'] at hp
  rw [hp] at h
  exact ⟨padded_inj hp, List.append_cancel_left h⟩

end Padding

section Parts

def yearSign (y : ℤ) : List Char := if y < 0 then ['-'] else if 9999 < y then ['+'] else []

lemma writtenYear_eq (y : ℤ) : writtenYear y = yearSign y ++ padded 4 y.natAbs := by
  rw [writtenYear, yearSign]
  split_ifs <;> rfl

lemma yearSign_eq_iff : yearSign y = ['-'] ↔ y < 0 := by
  rw [yearSign]
  split_ifs with h h' <;> simp [h]

lemma takeWhile_yearSign (y : ℤ) (n : ℕ) (s : List Char) :
    (yearSign y ++ (padded 4 n ++ s)).takeWhile (!·.isDigit) = yearSign y := by
  have hsign : ∀ c ∈ yearSign y, (!c.isDigit) = true := by
    rw [yearSign]
    split_ifs
    · exact List.forall_mem_singleton.mpr rfl
    · exact List.forall_mem_singleton.mpr rfl
    · exact List.forall_mem_nil _
  obtain ⟨c, u, hu⟩ := List.exists_cons_of_ne_nil (l := padded 4 n)
    (List.append_ne_nil_of_right_ne_nil _ Nat.toDigits_ne_nil)
  have hc : c.isDigit = true := isDigit_of_mem_padded (n := n) (hu ▸ List.mem_cons_self)
  rw [List.takeWhile_append_of_pos hsign, hu, List.cons_append, List.takeWhile_cons_of_neg (by simp [hc]), List.append_nil]

lemma writtenYear_append_inj (h : writtenYear y ++ '-' :: s = writtenYear y' ++ '-' :: s') : y = y' ∧ s = s' := by
  rw [writtenYear_eq, writtenYear_eq, List.append_assoc, List.append_assoc] at h
  have hsign := congrArg (List.takeWhile (!·.isDigit)) h
  rw [takeWhile_yearSign, takeWhile_yearSign] at hsign
  rw [hsign] at h
  obtain ⟨hy, hs⟩ := padded_append_cons_inj rfl (List.append_cancel_left h)
  have hneg : y < 0 ↔ y' < 0 := by rw [← yearSign_eq_iff, hsign, yearSign_eq_iff]
  exact ⟨by omega, hs⟩

def readFraction : List Char → ℕ
  | [] => 0
  | _ :: ds => Nat.ofDigitChars 10 ds 0 * 10 ^ (9 - ds.length)

lemma readFraction_writtenFraction (hn : n < 1000000000) : readFraction (writtenFraction n) = n := by
  rw [writtenFraction]
  split_ifs with h h' h''
  · rw [readFraction, h]
  · rw [readFraction, ofDigitChars_padded, length_padded (by decide) (by omega)]
    omega
  · rw [readFraction, ofDigitChars_padded, length_padded (by decide) (by omega)]
    omega
  · rw [readFraction, ofDigitChars_padded, length_padded (by decide) (by omega)]
    omega

lemma isDigit_of_mem_head?_fraction :
    ∀ c ∈ (writtenFraction n ++ "+00:00".toList).head?, c.isDigit = false := by
  have hoffset : "+00:00".toList = '+' :: "00:00".toList := rfl
  rw [writtenFraction, hoffset]
  split_ifs <;> exact fun c hc => Option.some_inj.mp hc ▸ rfl

end Parts

lemma not_mem_writtenYear (hc : c.isDigit = false) (hm : c ≠ '-') (hp : c ≠ '+') : c ∉ writtenYear y := by
  have hsign : c ∉ yearSign y := by
    rw [yearSign]
    split_ifs <;> simp [hm, hp]
  rw [writtenYear_eq, List.mem_append, not_or]
  exact ⟨hsign, not_mem_padded hc⟩

lemma not_mem_writtenFraction (hc : c.isDigit = false) (hp : c ≠ '.') : c ∉ writtenFraction n := by
  rw [writtenFraction]
  split_ifs
  · exact List.not_mem_nil
  all_goals exact List.not_mem_cons_of_ne_of_not_mem hp (not_mem_padded hc)

lemma not_mem_write (hc : c.isDigit = false) (hmarks : c ∉ ['-', '+', 'T', ':', '.']) : c ∉ t.write.toList := by
  simp only [List.mem_cons, List.not_mem_nil, or_false, not_or] at hmarks
  obtain ⟨hminus, hplus, ht, hcolon, hpoint⟩ := hmarks
  have hoffset : "+00:00".toList = '+' :: padded 2 0 ++ ':' :: padded 2 0 := rfl
  rw [write, String.toList_ofList, writtenSeconds, hoffset]
  simp only [List.mem_append, List.mem_cons, not_or, not_mem_padded hc, not_mem_writtenYear hc hminus hplus,
    not_mem_writtenFraction hc hpoint, hminus, hplus, ht, hcolon, not_false_eq_true, and_self]

lemma shownAlike_iff_parts : t.ShownAlike t' ↔
    t.seconds.fdiv 86400 = t'.seconds.fdiv 86400 ∧ t.secondOfDay / 3600 = t'.secondOfDay / 3600 ∧
    t.secondOfDay / 60 % 60 = t'.secondOfDay / 60 % 60 ∧
    t.secondOfDay % 60 + t.nanos / 1000000000 = t'.secondOfDay % 60 + t'.nanos / 1000000000 ∧
    t.nanos % 1000000000 = t'.nanos % 1000000000 := by
  simp only [secondOfDay, Int.fdiv_eq_ediv_of_nonneg _ (by decide : (0 : ℤ) ≤ 86400),
    Int.fmod_eq_emod_of_nonneg _ (by decide : (0 : ℤ) ≤ 86400)]
  constructor
  · rintro ⟨hminute, hsecond, hfraction⟩
    simp only [Int.fdiv_eq_ediv_of_nonneg _ (by decide : (0 : ℤ) ≤ 60)] at hminute
    omega
  · rintro ⟨hday, hhour, hminute, hsecond, hfraction⟩
    refine ⟨?_, ?_, hfraction⟩
    · simp only [Int.fdiv_eq_ediv_of_nonneg _ (by decide : (0 : ℤ) ≤ 60)]
      omega
    · omega

lemma write_eq_iff : t.write = t'.write ↔ t.ShownAlike t' := by
  rw [shownAlike_iff_parts]
  constructor
  · intro hw
    rw [write, write, String.ofList_inj] at hw
    simp only [writtenSeconds, List.append_assoc, List.cons_append] at hw
    obtain ⟨hyear, hw⟩ := writtenYear_append_inj hw
    obtain ⟨hmonth, hw⟩ := padded_append_cons_inj rfl hw
    obtain ⟨hdayOfMonth, hw⟩ := padded_append_cons_inj rfl hw
    obtain ⟨hhour, hw⟩ := padded_append_cons_inj rfl hw
    obtain ⟨hminute, hw⟩ := padded_append_cons_inj rfl hw
    obtain ⟨hsecond, hw⟩ := padded_append_inj isDigit_of_mem_head?_fraction isDigit_of_mem_head?_fraction hw
    have hfraction := congrArg readFraction (List.append_cancel_right hw)
    rw [readFraction_writtenFraction (Nat.mod_lt _ (by decide)), readFraction_writtenFraction (Nat.mod_lt _ (by decide))]
      at hfraction
    have hdate : t.date = t'.date := by
      cases hd : t.date
      cases hd' : t'.date
      simp_all
    have hday := Date.ofDay_injective hdate
    exact ⟨by omega, hhour, hminute, hsecond, hfraction⟩
  · rintro ⟨hday, hhour, hminute, hsecond, hfraction⟩
    rw [write, write, writtenSeconds, writtenSeconds, date, date, hday, hhour, hminute, hsecond, hfraction]

lemma ShownAlike.symm (h : t.ShownAlike t') : t'.ShownAlike t := ⟨h.minute.symm, h.second.symm, h.fraction.symm⟩

lemma LeapsInto.shownAlike (h : t.LeapsInto t') (hn : t.nanos < 2 * 1000000000) : t.ShownAlike t' := by
  obtain ⟨hleap, hearly, rfl⟩ := h
  rw [Int.fmod_eq_emod_of_nonneg _ (by decide)] at hearly
  refine ⟨?_, ?_, ?_⟩
  · simp only [Int.fdiv_eq_ediv_of_nonneg _ (by decide : (0 : ℤ) ≤ 60)]
    omega
  · dsimp only
    omega
  · dsimp only
    omega

lemma shownAlike_iff (h : t.nanos < 2 * 1000000000) (h' : t'.nanos < 2 * 1000000000) :
    t.ShownAlike t' ↔ t = t' ∨ t.LeapsInto t' ∨ t'.LeapsInto t := by
  obtain ⟨x, n⟩ := t
  obtain ⟨x', n'⟩ := t'
  constructor
  · rintro ⟨hminute, hsecond, hfraction⟩
    simp only [Int.fdiv_eq_ediv_of_nonneg _ (by decide : (0 : ℤ) ≤ 60)] at *
    have hearly (y : ℤ) (hy : (y + 1) / 60 = y / 60) : y.fmod 60 ≠ 59 := by
      rw [Int.fmod_eq_emod_of_nonneg _ (by decide)]
      omega
    rcases Nat.lt_or_ge n 1000000000 with hn | hn <;> rcases Nat.lt_or_ge n' 1000000000 with hn' | hn'
    · exact .inl (by rw [mk.injEq]; omega)
    · have hnext : (⟨x, n⟩ : Instant) = ⟨x' + 1, n' - 1000000000⟩ := by
        rw [mk.injEq]
        omega
      exact .inr (.inr ⟨hn', hearly x' (by omega), hnext⟩)
    · have hnext : (⟨x', n'⟩ : Instant) = ⟨x + 1, n - 1000000000⟩ := by
        rw [mk.injEq]
        omega
      exact .inr (.inl ⟨hn, hearly x (by omega), hnext⟩)
    · exact .inl (by rw [mk.injEq]; omega)
  · rintro (heq | hleaps | hleaps)
    · rw [heq]
      exact ⟨rfl, rfl, rfl⟩
    · exact hleaps.shownAlike h
    · exact (hleaps.shownAlike h').symm

end BenchReport.Instant
