import BenchReport.Proofs.GroupedNumeral
import BenchReport.Proofs.ReportStrings
import BenchReport.Report.Fields

/-! Numbers, and the counts among them: the longest one in front of a text is read. -/

namespace BenchReport.Report

variable {c : Char} {g s r w i f e ds : List Char} {n m : ℕ} {t : UInt64}

/-- What follows a number that is all of a value: nothing with which the number could go on. -/
def Ends (r : List Char) : Prop := ∀ c ∈ r.head?, c.isDigit = false ∧ c ≠ '.' ∧ c ≠ 'e' ∧ c ≠ 'E'

lemma not_isGap_of_isDigit (hc : c.isDigit = true) : isGap c = false := by
  simp only [isGap, Bool.or_eq_false_iff, beq_eq_false_iff_ne]
  refine ⟨⟨⟨?_, ?_⟩, ?_⟩, ?_⟩
  all_goals
    rintro rfl
    exact absurd hc (by decide)

lemma digit_le (c : Char) : digit c ≤ mostSignificand := by
  have hlt : c.toNat < UInt32.size := c.val.toNat_lt_size
  have hmost : UInt32.size ≤ mostSignificand := by decide
  rw [digit]
  omega

lemma Whole.exists_cons (h : Whole w) : ∃ c u, w = c :: u ∧ c.isDigit = true := by
  cases h with
  | zero => exact ⟨_, _, rfl, by decide⟩
  | digits hc => exact ⟨_, _, rfl, hc⟩

lemma Magnitude.exists_cons (h : Magnitude w) : ∃ c u, w = c :: u ∧ c.isDigit = true := by
  obtain ⟨hi, hf, he⟩ := h
  obtain ⟨c, u, rfl, hc⟩ := hi.exists_cons
  exact ⟨c, _, rfl, hc⟩

lemma ends_nil : Ends [] := by simp [Ends]

lemma Ends.startsWithDigit (h : Ends r) : startsWithDigit r = false := by
  cases r with
  | nil => rfl
  | cons c r => exact (h c rfl).1

section Digits

lemma dropDigits_append (hd : Digits ds) (s : List Char) : dropDigits (ds ++ s) = dropDigits s :=
  List.dropWhile_append_of_pos hd

lemma dropDigits_of_stop (h : startsWithDigit s = false) : dropDigits s = s := by
  cases s with
  | nil => rfl
  | cons c s => exact List.dropWhile_cons_of_neg (by simpa [startsWithDigit] using h)

lemma exists_digits (s : List Char) : ∃ ds, Digits ds ∧ s = ds ++ dropDigits s :=
  ⟨s.takeWhile Char.isDigit, fun c hc => List.all_eq_true.mp List.all_takeWhile c hc,
    List.takeWhile_append_dropWhile.symm⟩

lemma exists_digits_of_startsWithDigit (h : startsWithDigit s = true) :
    ∃ ds, ds ≠ [] ∧ Digits ds ∧ s = ds ++ dropDigits s := by
  obtain ⟨ds, hd, hs⟩ := exists_digits s
  refine ⟨ds, ?_, hd, hs⟩
  rintro rfl
  cases s with
  | nil => cases h
  | cons c s =>
    have hc : c.isDigit = true := h
    have hl := congrArg List.length hs
    rw [List.nil_append, dropDigits, List.dropWhile_cons_of_pos hc, List.length_cons] at hl
    have := length_dropDigits_le s
    rw [dropDigits] at this
    omega

lemma startsWithDigit_append (hne : ds ≠ []) (hd : Digits ds) (s : List Char) :
    startsWithDigit (ds ++ s) = true := by
  obtain ⟨c, ds, rfl⟩ := List.exists_cons_of_ne_nil hne
  exact hd c (by simp)

end Digits

section Skipping

lemma skipExponentDigits_append (hne : ds ≠ []) (hd : Digits ds) (hr : startsWithDigit r = false) :
    skipExponentDigits (ds ++ r) = .ok r := by
  obtain ⟨c, ds, rfl⟩ := List.exists_cons_of_ne_nil hne
  have hds : Digits ds := fun d h => hd d (by simp [h])
  rw [List.cons_append, skipExponentDigits, if_pos (hd c (by simp)), dropDigits_append hds,
    dropDigits_of_stop hr]

lemma exists_of_skipExponentDigits (h : skipExponentDigits s = .ok r) :
    ∃ ds, ds ≠ [] ∧ Digits ds ∧ s = ds ++ r := by
  cases s with
  | nil => cases h
  | cons c s =>
    rw [skipExponentDigits] at h
    split_ifs at h with hc
    cases h
    obtain ⟨ds, hd, hs⟩ := exists_digits s
    refine ⟨c :: ds, by simp, ?_, by rw [List.cons_append, ← hs]⟩
    intro d hm
    rcases List.mem_cons.mp hm with rfl | hm
    · exact hc
    · exact hd d hm

lemma skipExponent_append {sign : List Char} (hs : sign ∈ [[], ['+'], ['-']]) (hne : ds ≠ [])
    (hd : Digits ds) (hr : startsWithDigit r = false) : skipExponent (sign ++ (ds ++ r)) = .ok r := by
  have hx := skipExponentDigits_append hne hd hr
  simp only [List.mem_cons, List.not_mem_nil, or_false] at hs
  rcases hs with rfl | rfl | rfl
  · obtain ⟨c, ds, rfl⟩ := List.exists_cons_of_ne_nil hne
    have hc : c.isDigit = true := hd c (by simp)
    rw [List.nil_append, List.cons_append, skipExponent]
    · exact hx
    all_goals
      rintro _ ⟨⟩
      exact absurd hc (by decide)
  · exact hx
  · exact hx

lemma exists_of_skipExponent (h : skipExponent s = .ok r) :
    ∃ sign ds, sign ∈ [[], ['+'], ['-']] ∧ ds ≠ [] ∧ Digits ds ∧ s = sign ++ (ds ++ r) := by
  rw [skipExponent.eq_def] at h
  split at h
  all_goals obtain ⟨ds, hne, hd, rfl⟩ := exists_of_skipExponentDigits h
  · exact ⟨['+'], ds, by simp, hne, hd, rfl⟩
  · exact ⟨['-'], ds, by simp, hne, hd, rfl⟩
  · exact ⟨[], ds, by simp, hne, hd, rfl⟩

lemma skipMark_append (he : Exponent e) (hr : Ends r) : skipMark (e ++ r) = .ok r := by
  cases he with
  | none =>
    cases r with
    | nil => rfl
    | cons c r =>
      obtain ⟨-, -, he, hE⟩ := hr c rfl
      rw [List.nil_append, skipMark]
      · simpa using he
      · simpa using hE
  | @some mark sign ds hm hs hne hd =>
    have hx := skipExponent_append hs hne hd hr.startsWithDigit
    simp only [List.mem_cons, List.not_mem_nil, or_false] at hm
    rcases hm with rfl | rfl
    · simpa [skipMark] using hx
    · simpa [skipMark] using hx

lemma exists_of_skipMark (h : skipMark s = .ok r) : ∃ e, Exponent e ∧ s = e ++ r := by
  rw [skipMark.eq_def] at h
  split at h
  · obtain ⟨sign, ds, hs, hne, hd, rfl⟩ := exists_of_skipExponent h
    exact ⟨'e' :: (sign ++ ds), .some (by simp) hs hne hd, by simp⟩
  · obtain ⟨sign, ds, hs, hne, hd, rfl⟩ := exists_of_skipExponent h
    exact ⟨'E' :: (sign ++ ds), .some (by simp) hs hne hd, by simp⟩
  · cases h
    exact ⟨[], .none, rfl⟩

lemma head?_exponent (he : Exponent e) (hr : Ends r) :
    ∀ c ∈ (e ++ r).head?, c.isDigit = false ∧ c ≠ '.' := by
  intro c hc
  cases he with
  | none => exact ⟨(hr c hc).1, (hr c hc).2.1⟩
  | some hm =>
    obtain rfl := Option.some.inj hc
    simp only [List.mem_cons, List.not_mem_nil, or_false] at hm
    rcases hm with rfl | rfl <;> decide

lemma startsWithDigit_exponent (he : Exponent e) (hr : Ends r) : startsWithDigit (e ++ r) = false := by
  have hh := head?_exponent he hr
  cases h : e ++ r with
  | nil => rfl
  | cons c s => exact (hh c (by simp [h])).1

lemma startsWithDigit_fraction (hf : Fraction f) (he : Exponent e) (hr : Ends r) :
    startsWithDigit (f ++ (e ++ r)) = false := by
  cases hf with
  | none =>
    rw [List.nil_append]
    exact startsWithDigit_exponent he hr
  | some => rfl

lemma skipTail_append (hf : Fraction f) (he : Exponent e) (hr : Ends r) :
    skipTail (f ++ (e ++ r)) = .ok r := by
  cases hf with
  | none =>
    rw [List.nil_append, skipTail]
    · exact skipMark_append he hr
    · intro s hs
      exact (head?_exponent he hr '.' (by simp [hs])).2 rfl
  | some hne hd =>
    rw [List.cons_append, skipTail, if_pos (startsWithDigit_append hne hd _), dropDigits_append hd,
      dropDigits_of_stop (startsWithDigit_exponent he hr), skipMark_append he hr]

lemma exists_of_skipTail (h : skipTail s = .ok r) :
    ∃ f e, Fraction f ∧ Exponent e ∧ s = f ++ (e ++ r) := by
  rw [skipTail.eq_def] at h
  split at h
  · next s =>
    split_ifs at h with hs
    obtain ⟨ds, hne, hd, he⟩ := exists_digits_of_startsWithDigit hs
    obtain ⟨e, hx, hr⟩ := exists_of_skipMark h
    exact ⟨'.' :: ds, e, .some hne hd, hx, by rw [List.cons_append, ← hr, ← he]⟩
  · obtain ⟨e, hx, rfl⟩ := exists_of_skipMark h
    exact ⟨[], e, .none, hx, rfl⟩

lemma skipNumber_append (hw : Magnitude w) (hr : Ends r) : skipNumber (w ++ r) = .ok r := by
  obtain ⟨hi, hf, he⟩ := hw
  rw [List.append_assoc, List.append_assoc]
  have hs := startsWithDigit_fraction hf he hr
  cases hi with
  | zero =>
    rw [List.singleton_append, skipNumber, if_neg (by simp [hs]), skipTail_append hf he hr]
  | digits hc hz hd =>
    rw [List.cons_append, skipNumber, if_pos hc, dropDigits_append hd, dropDigits_of_stop hs,
      skipTail_append hf he hr]
    exact hz

lemma exists_of_skipNumber (h : skipNumber s = .ok r) : ∃ w, Magnitude w ∧ s = w ++ r := by
  rw [skipNumber.eq_def] at h
  split at h
  · cases h
  · split_ifs at h
    obtain ⟨f, e, hf, he, rfl⟩ := exists_of_skipTail h
    exact ⟨['0'] ++ (f ++ e), .mk .zero hf he, by simp⟩
  · next c s hz =>
    split_ifs at h with hc
    obtain ⟨ds, hd, hs⟩ := exists_digits s
    obtain ⟨f, e, hf, he, hr⟩ := exists_of_skipTail h
    exact ⟨(c :: ds) ++ (f ++ e), .mk (.digits hc hz hd) hf he, by simp [← hr, ← hs]⟩

end Skipping

section Counts

lemma pushDigits_append {most : ℕ} (hd : Digits ds) (hm : Nat.ofDigitChars 10 ds n ≤ most)
    (hr : startsWithDigit r = false) : pushDigits most n (ds ++ r) = (Nat.ofDigitChars 10 ds n, r) := by
  induction ds generalizing n with
  | nil =>
    cases r with
    | nil => rfl
    | cons c r =>
      have hc : c.isDigit = false := hr
      simp [pushDigits, hc]
  | cons c ds ih =>
    have hds : Digits ds := fun d h => hd d (by simp [h])
    rw [Nat.ofDigitChars_cons, Nat.mul_comm] at hm
    have hle := Nat.le_trans (Numeral.le_ofDigitChars ds _) hm
    rw [List.cons_append, pushDigits, if_pos ⟨hd c (by simp), hle⟩, Nat.ofDigitChars_cons, Nat.mul_comm 10]
    exact ih hds hm

lemma exists_of_pushDigits (most n : ℕ) (s : List Char) :
    ∃ ds, Digits ds ∧ s = ds ++ (pushDigits most n s).2 ∧
      (pushDigits most n s).1 = Nat.ofDigitChars 10 ds n ∧ (n ≤ most → (pushDigits most n s).1 ≤ most) := by
  fun_induction pushDigits most n s with
  | case1 n => exact ⟨[], by simp [Digits], rfl, rfl, id⟩
  | case2 n c s hc ih =>
    obtain ⟨ds, hd, hs, hv, hle⟩ := ih
    refine ⟨c :: ds, ?_, by rw [List.cons_append, ← hs], ?_, fun _ => hle hc.2⟩
    · intro d hm
      rcases List.mem_cons.mp hm with rfl | hm
      · exact hc.1
      · exact hd d hm
    · rw [hv, Nat.ofDigitChars_cons, Nat.mul_comm 10]
      rfl
  | case3 n c s => exact ⟨[], by simp [Digits], rfl, rfl, id⟩

lemma readTail_of_ends (n : ℕ) (hr : Ends r) : readTail false n r = .ok (.natural n, r) := by
  rw [readTail.eq_def, hr.startsWithDigit]
  cases r with
  | nil => rfl
  | cons c r =>
    obtain ⟨-, hp, he, hE⟩ := hr c rfl
    simp only [Bool.false_eq_true, if_false]
    split
    · next h => exact absurd (List.cons.inj h).1 hp
    · next h => exact absurd (List.cons.inj h).1 he
    · next h => exact absurd (List.cons.inj h).1 hE
    · rfl

lemma readNumber_of_counts (hw : Counts w t) (hr : Ends r) :
    readNumber false (w ++ r) = .ok (.natural t.toNat, r) := by
  obtain ⟨hw, hv⟩ := hw
  have hs := hr.startsWithDigit
  cases hw with
  | zero =>
    rw [List.singleton_append, readNumber, if_neg (by simp [hs]), ← hv]
    exact readTail_of_ends 0 hr
  | @digits c ds hc hz hd =>
    have hv' : Nat.ofDigitChars 10 ds (digit c) = t.toNat := by
      rwa [Nat.ofDigitChars_cons, Nat.mul_zero, Nat.zero_add] at hv
    have hlt := t.toNat_lt_size
    have hmost : Nat.ofDigitChars 10 ds (digit c) ≤ mostSignificand := by
      rw [hv', mostSignificand]
      omega
    have hp := pushDigits_append hd hmost hs
    rw [List.cons_append, readNumber]
    · rw [if_pos hc, hp, hv']
      exact readTail_of_ends _ hr
    · exact hz

lemma readTime_append (hg : Gap g) (hw : Counts w t) (hr : Ends r) :
    readTime (g ++ (w ++ r)) = .ok (t, r) := by
  have hn := readNumber_of_counts hw hr
  obtain ⟨c, u, rfl, hc⟩ := hw.1.exists_cons
  have hgap : isGap c = false := not_isGap_of_isDigit hc
  have hminus : c ≠ '-' := by
    rintro rfl
    exact absurd hc (by decide)
  rw [readTime, skipGap_append hg, List.cons_append, skipGap_cons hgap]
  simp only [if_neg hminus, if_pos hc]
  rw [← List.cons_append, hn]
  simp [takeTime, bind, Except.bind]

def Number.IsReal (x : Number) : Prop := ∃ minus y, x = .real minus y

variable {minus down : Bool} {k : Int} {x : Number}

lemma isReal_of_finishReal (h : finishReal minus n k s = .ok (x, r)) : x.IsReal := by
  rw [finishReal.eq_def] at h
  split at h
  · cases h
    exact ⟨_, _, rfl⟩
  · cases h

lemma isReal_of_finishHuge (h : finishHuge minus down n s = .ok (x, r)) : x.IsReal := by
  rw [finishHuge] at h
  split_ifs at h
  cases h
  exact ⟨_, _, rfl⟩

lemma isReal_of_readExponentDigits (h : readExponentDigits minus down n k s = .ok (x, r)) : x.IsReal := by
  cases s with
  | nil => cases h
  | cons c s =>
    rw [readExponentDigits] at h
    split at h
    · dsimp only at h
      split at h
      · exact isReal_of_finishHuge h
      · exact isReal_of_finishReal h
    · cases h

lemma isReal_of_readExponent (h : readExponent minus n k s = .ok (x, r)) : x.IsReal := by
  rw [readExponent.eq_def] at h
  split at h <;> exact isReal_of_readExponentDigits h

lemma isReal_of_readMark (h : readMark minus n k s = .ok (x, r)) : x.IsReal := by
  rw [readMark.eq_def] at h
  split at h
  · exact isReal_of_readExponent h
  · exact isReal_of_readExponent h
  · exact isReal_of_finishReal h

lemma isReal_of_readFraction (h : readFraction minus n k s = .ok (x, r)) : x.IsReal := by
  rw [readFraction.eq_def] at h
  dsimp only at h
  split_ifs at h
  · exact isReal_of_readMark h
  · split at h <;> cases h

lemma eq_of_readTail (h : readTail minus n s = .ok (x, r)) : x.IsReal ∨ x = whole minus n ∧ s = r := by
  rw [readTail.eq_def] at h
  split_ifs at h
  · dsimp only at h
    split at h
    · exact Or.inl (isReal_of_readFraction h)
    · exact Or.inl (isReal_of_readMark h)
  · split at h
    · exact Or.inl (isReal_of_readFraction h)
    · exact Or.inl (isReal_of_readExponent h)
    · exact Or.inl (isReal_of_readExponent h)
    · cases h
      exact Or.inr ⟨rfl, rfl⟩

lemma eq_of_whole (h : whole minus n = .natural m) : minus = false ∧ n = m := by
  rw [whole] at h
  split_ifs at h with hm
  cases h
  exact ⟨by simpa using hm, rfl⟩

lemma exists_of_readNumber (h : readNumber minus s = .ok (.natural n, r)) :
    minus = false ∧ n ≤ mostSignificand ∧ ∃ w, Whole w ∧ Nat.ofDigitChars 10 w 0 = n ∧ s = w ++ r := by
  have tail {m : ℕ} {u : List Char} (h : readTail minus m u = .ok (.natural n, r)) :
      minus = false ∧ m = n ∧ u = r := by
    rcases eq_of_readTail h with ⟨_, _, hx⟩ | ⟨hx, hu⟩
    · cases hx
    · exact ⟨(eq_of_whole hx.symm).1, (eq_of_whole hx.symm).2, hu⟩
  rw [readNumber.eq_def] at h
  split at h
  · cases h
  · split_ifs at h
    obtain ⟨rfl, rfl, rfl⟩ := tail h
    exact ⟨rfl, by decide, ['0'], .zero, rfl, rfl⟩
  · next c s hz =>
    split_ifs at h with hc
    obtain ⟨hm, hn, hr⟩ := tail h
    obtain ⟨ds, hd, hs, hv, hle⟩ := exists_of_pushDigits mostSignificand (digit c) s
    refine ⟨hm, ?_, c :: ds, .digits hc hz hd, ?_, by rw [List.cons_append, ← hr, ← hs]⟩
    · rw [← hn]
      exact hle (digit_le c)
    · rw [← hn, hv, Nat.ofDigitChars_cons, Nat.mul_zero, Nat.zero_add]
      rfl

lemma exists_of_readTime (h : readTime s = .ok (t, r)) : ∃ g w, Gap g ∧ Counts w t ∧ s = g ++ (w ++ r) := by
  have counted {minus : Bool} {u : List Char} (h : (readNumber minus u >>= takeTime) = .ok (t, r)) :
      ∃ w, Counts w t ∧ minus = false ∧ u = w ++ r := by
    obtain ⟨⟨x, r'⟩, hx, ht⟩ := bind_eq_ok h
    cases x with
    | natural n =>
      cases ht
      obtain ⟨rfl, hle, w, hw, hv, rfl⟩ := exists_of_readNumber hx
      refine ⟨w, ⟨hw, ?_⟩, rfl, rfl⟩
      rw [hv, UInt64.toNat_ofNat_of_lt']
      exact Nat.lt_of_le_of_lt hle (by decide)
    | negative => cases ht
    | real => cases ht
  obtain ⟨g, hg, hs⟩ := exists_gap s
  rw [readTime] at h
  split at h
  · cases h
  · next c u hc =>
    rw [hc] at hs
    split_ifs at h
    · obtain ⟨w, -, hm, -⟩ := counted h
      cases hm
    · obtain ⟨w, hw, -, hu⟩ := counted h
      exact ⟨g, w, hg, hw, by rw [hs, hu]⟩

end Counts

end BenchReport.Report
