import BenchReport.Proofs.ReportPrinting
import BenchReport.Proofs.ShortestDecimal

namespace BenchReport

namespace Decimal

open Report

variable {c : Char} {s r w f m ds : List Char} {n : ℕ} {e : ℤ} {d : Decimal} {l : Layout}

section Reading

def cut (c : Char) : List Char → List Char × Option (List Char)
  | [] => ([], none)
  | d :: s => if d = c then ([], some s) else (d :: (cut c s).1, (cut c s).2)

def readNatural? (s : List Char) : Option ℕ :=
  if s ≠ [] ∧ s.all Char.isDigit then some (Nat.ofDigitChars 10 s 0) else none

def readSigned? : List Char → Option ℤ
  | '-' :: s => (readNatural? s).map fun n : ℕ => -(n : ℤ)
  | '+' :: s => (readNatural? s).map fun n : ℕ => (n : ℤ)
  | s => (readNatural? s).map fun n : ℕ => (n : ℤ)

def readPoint? (s : List Char) : Option Decimal :=
  match cut '.' s with
  | (w, none) => (readNatural? w).map fun n => ⟨n, 0⟩
  | (w, some f) => do
    let _ ← readNatural? w
    let _ ← readNatural? f
    return ⟨Nat.ofDigitChars 10 (w ++ f) 0, -f.length⟩

def read? (s : List Char) : Option Decimal :=
  match cut 'e' s with
  | (m, none) => readPoint? m
  | (m, some r) => do
    let d ← readPoint? m
    let e ← readSigned? r
    return ⟨d.digits, d.exp + e⟩

def Denotes (s : List Char) (q : ℚ) : Prop := ∃ d, read? s = some d ∧ d.value = q

lemma Denotes.unique {p q : ℚ} (h : Denotes s p) (h' : Denotes s q) : p = q := by
  obtain ⟨d, hd, rfl⟩ := h
  obtain ⟨d', hd', rfl⟩ := h'
  rw [Option.some.inj (hd.symm.trans hd')]

lemma cut_append_cons (h : c ∉ s) : cut c (s ++ c :: r) = (s, some r) := by
  induction s with
  | nil => rw [List.nil_append, cut, if_pos rfl]
  | cons d s ih =>
    rw [List.mem_cons, not_or] at h
    rw [List.cons_append, cut, if_neg (Ne.symm h.1), ih h.2]

lemma cut_of_not_mem (h : c ∉ s) : cut c s = (s, none) := by
  induction s with
  | nil => rfl
  | cons d s ih =>
    rw [List.mem_cons, not_or] at h
    rw [cut, if_neg (Ne.symm h.1), ih h.2]

lemma not_mem_of_digits (hs : Digits s) (hc : c.isDigit = false) : c ∉ s := by
  intro h
  rw [hs c h] at hc
  cases hc

lemma readNatural?_of_digits (hs : Digits s) (hne : s ≠ []) : readNatural? s = some (Nat.ofDigitChars 10 s 0) :=
  if_pos ⟨hne, List.all_eq_true.mpr hs⟩

lemma readPoint?_whole (hw : Digits w) (hne : w ≠ []) : readPoint? w = some ⟨Nat.ofDigitChars 10 w 0, 0⟩ := by
  rw [readPoint?, cut_of_not_mem (not_mem_of_digits hw rfl)]
  dsimp only
  rw [readNatural?_of_digits hw hne, Option.map_some]

lemma readPoint?_fraction (hw : Digits w) (hw' : w ≠ []) (hf : Digits f) (hf' : f ≠ []) :
    readPoint? (w ++ '.' :: f) = some ⟨Nat.ofDigitChars 10 (w ++ f) 0, -f.length⟩ := by
  rw [readPoint?, cut_append_cons (not_mem_of_digits hw rfl)]
  dsimp only
  rw [readNatural?_of_digits hw hw', readNatural?_of_digits hf hf']
  rfl

lemma readSigned?_toDigits (n : ℕ) : readSigned? (Nat.toDigits 10 n) = some (n : ℤ) := by
  have hd := digits_toDigits n
  have hr := readNatural?_of_digits hd Nat.toDigits_ne_nil
  rw [Nat.ofDigitChars_ten_toDigits] at hr
  rw [readSigned?.eq_def]
  split
  · rename_i s h
    exact absurd (h ▸ List.mem_cons_self) (not_mem_of_digits hd (c := '-') rfl)
  · rename_i s h
    exact absurd (h ▸ List.mem_cons_self) (not_mem_of_digits hd (c := '+') rfl)
  · rw [hr, Option.map_some]

lemma readSigned?_signed (l : Layout) (e : ℤ) :
    readSigned? ((if e < 0 then ['-'] else if l.plus then ['+'] else []) ++ Nat.toDigits 10 e.natAbs) = some e := by
  have hr := readNatural?_of_digits (digits_toDigits e.natAbs) Nat.toDigits_ne_nil
  rw [Nat.ofDigitChars_ten_toDigits] at hr
  split_ifs with hneg hplus
  · rw [List.singleton_append, readSigned?, hr, Option.map_some, Int.ofNat_natAbs_of_nonpos hneg.le, neg_neg]
  · rw [List.singleton_append, readSigned?, hr, Option.map_some, Int.natAbs_of_nonneg (not_lt.mp hneg)]
  · rw [List.nil_append, readSigned?_toDigits, Int.natAbs_of_nonneg (not_lt.mp hneg)]

end Reading

section Writing

lemma ofDigitChars_append_zeros (ds : List Char) (k : ℤ) :
    Nat.ofDigitChars 10 (ds ++ Layout.zeros k) 0 = 10 ^ k.toNat * Nat.ofDigitChars 10 ds 0 := by
  rw [Nat.ofDigitChars_append, Layout.zeros, Nat.ofDigitChars_replicate_zero]

section Point

variable (d : Decimal)

lemma value_of_zeros (hd : 0 ≤ d.exp) : (10 ^ d.exp.toNat * d.digits : ℕ) = d.value := by
  obtain ⟨k, hk⟩ := Int.eq_ofNat_of_zero_le hd
  rw [value, hk, Int.toNat_natCast, zpow_natCast, Nat.cast_mul, Nat.cast_pow, Nat.cast_ofNat, mul_comm]

lemma digits_zero : Digits ['0'] := List.forall_mem_singleton.mpr rfl

lemma ofDigitChars_digits : Nat.ofDigitChars 10 (Nat.toDigits 10 d.digits) 0 = d.digits := Nat.ofDigitChars_ten_toDigits

lemma readPoint?_leading (h : d.width + d.exp ≤ 0) :
    readPoint? (['0'] ++ '.' :: (Layout.zeros (-(d.width + d.exp)) ++ Nat.toDigits 10 d.digits)) = some d := by
  rw [readPoint?_fraction digits_zero (List.cons_ne_nil _ _) ((digits_zeros _).append (digits_toDigits _))
    (List.append_ne_nil_of_right_ne_nil _ Nat.toDigits_ne_nil), ← List.append_assoc, Nat.ofDigitChars_append,
    ofDigitChars_append_zeros, List.length_append, Layout.zeros, List.length_replicate]
  have hexp : -(((-(d.width + d.exp)).toNat + (Nat.toDigits 10 d.digits).length : ℕ) : ℤ) = d.exp := by
    change -(((-(d.width + d.exp)).toNat + d.width : ℕ) : ℤ) = d.exp
    omega
  rw [hexp]
  exact congrArg (fun n => some (mk n d.exp)) d.ofDigitChars_digits

lemma readPoint?_zeros :
    readPoint? (Nat.toDigits 10 d.digits ++ Layout.zeros d.exp) = some ⟨10 ^ d.exp.toNat * d.digits, 0⟩ := by
  rw [readPoint?_whole ((digits_toDigits _).append (digits_zeros _))
    (List.append_ne_nil_of_left_ne_nil Nat.toDigits_ne_nil _), ofDigitChars_append_zeros, ofDigitChars_digits]

lemma readPoint?_zeros_fraction : readPoint? (Nat.toDigits 10 d.digits ++ Layout.zeros d.exp ++ ['.', '0']) =
    some ⟨10 * (10 ^ d.exp.toNat * d.digits), -1⟩ := by
  rw [readPoint?_fraction ((digits_toDigits _).append (digits_zeros _))
    (List.append_ne_nil_of_left_ne_nil Nat.toDigits_ne_nil _) digits_zero (List.cons_ne_nil _ _),
    Nat.ofDigitChars_append, ofDigitChars_append_zeros, ofDigitChars_digits]
  rfl

lemma readPoint?_between (h : 0 < d.width + d.exp) (h' : d.exp < 0) :
    readPoint? ((Nat.toDigits 10 d.digits).take (d.width + d.exp).toNat ++
      '.' :: (Nat.toDigits 10 d.digits).drop (d.width + d.exp).toNat) = some d := by
  have hds := digits_toDigits d.digits
  have hlength : (Nat.toDigits 10 d.digits).length = d.width := rfl
  have htake : (Nat.toDigits 10 d.digits).take (d.width + d.exp).toNat ≠ [] := by
    apply List.ne_nil_of_length_pos
    rw [List.length_take]
    omega
  have hdrop : (Nat.toDigits 10 d.digits).drop (d.width + d.exp).toNat ≠ [] := by
    apply List.ne_nil_of_length_pos
    rw [List.length_drop]
    omega
  have hexp : -(((Nat.toDigits 10 d.digits).drop (d.width + d.exp).toNat).length : ℤ) = d.exp := by
    rw [List.length_drop]
    omega
  rw [readPoint?_fraction (fun c hc => hds c (List.mem_of_mem_take hc)) htake
    (fun c hc => hds c (List.mem_of_mem_drop hc)) hdrop, List.take_append_drop, ofDigitChars_digits, hexp]

end Point

lemma exists_readPoint?_positional (l : Layout) (d : Decimal) :
    ∃ d', readPoint? (l.positional (Nat.toDigits 10 d.digits) (d.width + d.exp)) = some d' ∧ d'.value = d.value := by
  have hlength : (Nat.toDigits 10 d.digits).length = d.width := rfl
  rw [Layout.positional, hlength]
  split_ifs with hp hl hf
  · exact ⟨d, readPoint?_leading d hp, rfl⟩
  · rw [add_sub_cancel_left]
    refine ⟨_, readPoint?_zeros_fraction d, ?_⟩
    rw [← value_of_zeros d (by omega), value, zpow_neg_one, Nat.cast_mul, Nat.cast_ofNat, mul_comm,
      inv_mul_cancel_left₀ (by norm_num)]
  · rw [add_sub_cancel_left, List.append_nil]
    refine ⟨_, readPoint?_zeros d, ?_⟩
    rw [← value_of_zeros d (by omega), value, zpow_zero, mul_one]
  · exact ⟨d, readPoint?_between d (by omega) (by omega), rfl⟩

lemma not_mem_positional (l : Layout) {p : ℤ} (hc : c.isDigit = false) (hp : c ≠ '.') (hds : Digits ds) :
    c ∉ l.positional ds p := by
  have hds' : c ∉ ds := not_mem_of_digits hds hc
  have hzeros (k : ℤ) : c ∉ Layout.zeros k := not_mem_of_digits (digits_zeros k) hc
  have hzero : c ≠ '0' := by
    rintro rfl
    cases hc
  rw [Layout.positional]
  split_ifs
  · simp [hp, hzero, hzeros, hds']
  · simp [hp, hzero, hzeros, hds']
  · simp [hzeros, hds']
  · simp only [List.mem_append, List.mem_cons, not_or]
    exact ⟨fun h => hds' (List.mem_of_mem_take h), hp, fun h => hds' (List.mem_of_mem_drop h)⟩

lemma denotes_positional (l : Layout) (d : Decimal) :
    Denotes (l.positional (Nat.toDigits 10 d.digits) (d.width + d.exp)) d.value := by
  obtain ⟨d', hr, hv⟩ := exists_readPoint?_positional l d
  refine ⟨d', ?_, hv⟩
  rw [read?, cut_of_not_mem (not_mem_positional l rfl (by decide) (digits_toDigits _))]
  exact hr

lemma read?_exponent {m r : List Char} (hm : 'e' ∉ m) {d : Decimal} {e : ℤ} (hd : readPoint? m = some d)
    (he : readSigned? r = some e) : read? (m ++ 'e' :: r) = some ⟨d.digits, d.exp + e⟩ := by
  rw [read?, cut_append_cons hm]
  dsimp only
  rw [hd, he]
  rfl

def mantissa : List Char → List Char
  | [] => []
  | [c] => [c]
  | c :: cs => c :: '.' :: cs

lemma scientific_eq (l : Layout) (ds : List Char) (e : ℤ) : l.scientific ds e =
    mantissa ds ++ 'e' :: ((if e < 0 then ['-'] else if l.plus then ['+'] else []) ++ Nat.toDigits 10 e.natAbs) := by
  rw [Layout.scientific.eq_def]
  rcases ds with _ | ⟨c, _ | ⟨c', cs⟩⟩ <;> simp only [mantissa, List.append_assoc, List.cons_append]

lemma readPoint?_mantissa {cs : List Char} (h : Digits (c :: cs)) :
    readPoint? (mantissa (c :: cs)) = some ⟨Nat.ofDigitChars 10 (c :: cs) 0, -cs.length⟩ := by
  obtain ⟨hc, hcs⟩ := List.forall_mem_cons.mp h
  have hfirst : Digits [c] := List.forall_mem_singleton.mpr hc
  cases cs with
  | nil => exact readPoint?_whole h (List.cons_ne_nil _ _)
  | cons c' cs => exact readPoint?_fraction hfirst (List.cons_ne_nil _ _) hcs (List.cons_ne_nil _ _)

lemma not_mem_mantissa {cs : List Char} (h : Digits (c :: cs)) : 'e' ∉ mantissa (c :: cs) := by
  have hmem := not_mem_of_digits h (c := 'e') rfl
  cases cs with
  | nil => exact hmem
  | cons c' cs =>
    rw [List.mem_cons, not_or] at hmem
    exact List.not_mem_cons_of_ne_of_not_mem hmem.1 (List.not_mem_cons_of_ne_of_not_mem (by decide) hmem.2)

lemma denotes_scientific (l : Layout) (d : Decimal) :
    Denotes (l.scientific (Nat.toDigits 10 d.digits) (d.width + d.exp - 1)) d.value := by
  have hds := digits_toDigits d.digits
  have hv := d.ofDigitChars_digits
  have hw : (Nat.toDigits 10 d.digits).length = d.width := rfl
  obtain ⟨c, cs, hcs⟩ := List.exists_cons_of_ne_nil (Nat.toDigits_ne_nil (b := 10) (n := d.digits))
  rw [hcs] at hds hv hw ⊢
  have hexp : -(cs.length : ℤ) + (d.width + d.exp - 1) = d.exp := by
    rw [← hw, List.length_cons]
    omega
  refine ⟨d, ?_, rfl⟩
  rw [scientific_eq, read?_exponent (not_mem_mantissa hds) (readPoint?_mantissa hds) (readSigned?_signed l _), hv, hexp]

lemma denotes_zero (l : Layout) : Denotes (if l.fraction then "0.0" else "0").toList 0 := by
  split_ifs
  · exact ⟨⟨0, -1⟩, by decide, by simp [value]⟩
  · exact ⟨⟨0, 0⟩, by decide, by simp [value]⟩

end Writing

end Decimal

namespace Layout

variable {x : Binary64}

def decimal (l : Layout) (x : Binary64) : Decimal := if x.sig = 0 then ⟨0, 0⟩ else x.shortest l.tie

lemma denotes_write (l : Layout) (x : Binary64) : Decimal.Denotes (l.write x).toList (l.decimal x).value := by
  rw [write, decimal]
  by_cases hx : x.sig = 0
  · rw [if_pos hx, if_pos hx]
    simpa [Decimal.value] using Decimal.denotes_zero l
  · rw [if_neg hx, if_neg hx]
    dsimp only
    rw [String.toList_ofList]
    split_ifs
    · rw [sub_add_cancel]
      exact Decimal.denotes_positional l _
    · exact Decimal.denotes_scientific l _

lemma isShortest_decimal (l : Layout) (hx : x.IsCanonical) : x.IsShortest (l.decimal x) := by
  rw [decimal]
  split_ifs with h0
  · have hvalue : Decimal.value ⟨0, 0⟩ = x.value := by
      rw [Binary64.value_eq_zero h0, Decimal.value, Nat.cast_zero, zero_mul]
    refine ⟨hvalue ▸ hx.isNearest_value, fun d _ => d.width_pos, fun d _ _ => ?_⟩
    rw [hvalue, sub_self, abs_zero]
    exact abs_nonneg _
  · exact Binary64.isShortest_shortest hx h0 l.tie

end Layout

end BenchReport
