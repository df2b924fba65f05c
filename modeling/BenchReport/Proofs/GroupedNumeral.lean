import BenchReport.Numeral
import Mathlib.Algebra.Group.Nat.Defs
import Mathlib.Data.List.Basic

namespace BenchReport.Numeral

variable {c : Char} {cs : List Char} {n m : UInt64}

/-- Digits, the last one first, with a comma behind every third one that another follows. -/
def separate : List Char → List Char
  | a :: b :: c :: d :: ds => a :: b :: c :: ',' :: separate (d :: ds)
  | ds => ds

def grouped (n : UInt64) : List Char := (separate (Nat.toDigits 10 n.toNat).reverse).reverse

lemma filter_separate (h : ∀ c ∈ cs, c ≠ ',') : (separate cs).filter (· != ',') = cs := by
  induction cs using separate.induct with
  | case1 a b c d ds ih =>
    rw [separate, List.filter_cons_of_pos, List.filter_cons_of_pos, List.filter_cons_of_pos,
      List.filter_cons_of_neg, ih fun x hx => h x (by simp [List.mem_cons.mp hx])]
    all_goals simp_all
  | case2 ds hds =>
    rw [separate.eq_2 ds hds]
    exact List.filter_eq_self.mpr fun c hc => by simpa using h c hc

lemma mem_separate (h : c ∈ separate cs) : c ∈ cs ∨ c = ',' := by
  by_cases hc : c = ','
  · exact Or.inr hc
  · induction cs using separate.induct with
    | case1 a b d e ds ih =>
      rw [separate] at h
      simp only [List.mem_cons, hc, false_or] at h ih ⊢
      rcases h with h | h | h | h
      · simp [h]
      · simp [h]
      · simp [h]
      · simpa [or_assoc] using Or.inr (Or.inr (Or.inr (ih h)))
    | case2 ds hds =>
      rw [separate.eq_2 ds hds] at h
      exact Or.inl h

lemma push?_eq_some_iff :
    push? n c = some m ↔ c.isDigit = true ∧ 10 * n.toNat + (c.toNat - '0'.toNat) = m.toNat := by
  rw [push?]
  by_cases hc : c.isDigit
  · by_cases hm : n.toNat * 10 + (c.toNat - '0'.toNat) < UInt64.size
    · simp only [hc, if_true, dif_pos hm, Option.some.injEq, ← UInt64.toNat_inj, UInt64.toNat_ofNatLT,
        true_and, Nat.mul_comm 10]
    · have hlt := m.toNat_lt_size
      simp only [hc, hm, if_true, dif_neg, not_false_iff, reduceCtorEq, true_and, false_iff]
      omega
  · simp [hc]

lemma exists_toNat_eq {k : ℕ} (hk : k < 2 ^ 64) : ∃ n : UInt64, n.toNat = k :=
  ⟨UInt64.ofNatLT k hk, UInt64.toNat_ofNatLT⟩

lemma le_ofDigitChars (cs : List Char) (k : ℕ) : k ≤ Nat.ofDigitChars 10 cs k := by
  rw [Nat.ofDigitChars_eq_ofDigitChars_zero]
  have hk : k ≤ 10 ^ cs.length * k := Nat.le_mul_of_pos_left k (Nat.pow_pos (by decide))
  omega

lemma foldlM_push?_eq_some_iff :
    cs.foldlM push? n = some m ↔
      (∀ c ∈ cs, c.isDigit = true) ∧ Nat.ofDigitChars 10 cs n.toNat = m.toNat := by
  induction cs generalizing n with
  | nil => simp [UInt64.toNat_inj]
  | cons c cs ih =>
    rw [List.foldlM_cons, Option.bind_eq_bind, Option.bind_eq_some_iff, Nat.ofDigitChars_cons]
    simp only [push?_eq_some_iff, ih, List.forall_mem_cons]
    constructor
    · rintro ⟨k, ⟨hc, hk⟩, hcs, hm⟩
      rw [hk]
      exact ⟨⟨hc, hcs⟩, hm⟩
    · rintro ⟨⟨hc, hcs⟩, hm⟩
      have hle := le_ofDigitChars cs (10 * n.toNat + (c.toNat - '0'.toNat))
      have hlt : 10 * n.toNat + (c.toNat - '0'.toNat) < 2 ^ 64 := by
        have := m.toNat_lt
        omega
      obtain ⟨k, hk⟩ := exists_toNat_eq hlt
      rw [← hk] at hm
      exact ⟨k, ⟨hc, hk.symm⟩, hcs, hm⟩

lemma isDigit_of_mem_toDigits {k : ℕ} (hc : c ∈ Nat.toDigits 10 k) : c.isDigit = true :=
  Nat.isDigit_of_mem_toDigits (by decide) (by decide) hc

lemma filter_grouped (n : UInt64) : (grouped n).filter (· != ',') = Nat.toDigits 10 n.toNat := by
  have hd : ∀ c ∈ (Nat.toDigits 10 n.toNat).reverse, c ≠ ',' := by
    rintro c hc rfl
    exact absurd (isDigit_of_mem_toDigits (List.mem_reverse.mp hc)) (by decide)
  rw [grouped, List.filter_reverse, filter_separate hd, List.reverse_reverse]

lemma readDigits?_eq_some_iff :
    readDigits? cs = some n ↔
      cs ≠ [] ∧ (∀ c ∈ cs, c.isDigit = true) ∧ Nat.ofDigitChars 10 cs 0 = n.toNat := by
  cases cs with
  | nil => simp [readDigits?]
  | cons c cs =>
    rw [readDigits?, foldlM_push?_eq_some_iff]
    · simp
    · exact List.cons_ne_nil c cs

lemma read?_of_digits (hd : ∀ c ∈ cs, c.isDigit = true) : read? cs = readDigits? cs := by
  rw [read?]
  rintro ds rfl
  exact absurd (hd '+' (by simp)) (by decide)

def value (s : String) : ℕ := Nat.ofDigitChars 10 (s.toList.filter (· != ',')) 0

def Reads (s : String) (n : UInt64) : Prop := (∃ c ∈ s.toList, c.isDigit = true) ∧ value s = n.toNat

def IsUnreadable (s : String) : Prop := (∀ c ∈ s.toList, c.isDigit = false) ∨ 2 ^ 64 - 1 < value s

variable {s : String}

lemma isUnreadable_iff : IsUnreadable s ↔ ∀ n, ¬Reads s n := by
  constructor
  · rintro hu n ⟨⟨c, hc, hd⟩, hv⟩
    have hlt := n.toNat_lt
    rcases hu with hnone | hlarge
    · rw [hnone c hc] at hd
      cases hd
    · omega
  · intro hn
    by_contra hu
    simp only [IsUnreadable, not_or, not_forall, Bool.not_eq_false, Nat.not_lt] at hu
    obtain ⟨⟨c, hc, hd⟩, hle⟩ := hu
    have hlt : value s < 2 ^ 64 := by omega
    obtain ⟨n, hv⟩ := exists_toNat_eq hlt
    exact hn n ⟨⟨c, hc, hd⟩, hv.symm⟩

lemma readGrouped?_eq_some_iff (hs : ∀ c ∈ s.toList, c.isDigit = true ∨ c = ',') :
    readGrouped? s = some n ↔ Reads s n := by
  have hd : ∀ c ∈ s.toList.filter (· != ','), c.isDigit = true := by
    intro c hc
    obtain ⟨hm, hne⟩ := List.mem_filter.mp hc
    exact (hs c hm).resolve_right (by simpa using hne)
  have hsome : s.toList.filter (· != ',') ≠ [] ↔ ∃ c ∈ s.toList, c.isDigit = true := by
    rw [Ne, List.filter_eq_nil_iff]
    push Not
    apply exists_congr
    intro c
    apply and_congr_right
    intro hm
    rcases hs c hm with hc | rfl
    · have hne : c ≠ ',' := by
        rintro rfl
        simp at hc
      simp [hc, hne]
    · decide
  rw [readGrouped?, read?_of_digits hd, readDigits?_eq_some_iff, hsome, and_iff_right hd, Reads, value]

lemma readGrouped?_eq_none_iff (hs : ∀ c ∈ s.toList, c.isDigit = true ∨ c = ',') :
    readGrouped? s = none ↔ IsUnreadable s := by
  rw [isUnreadable_iff, Option.eq_none_iff_forall_ne_some]
  exact forall_congr' fun n => not_congr (readGrouped?_eq_some_iff hs)

lemma readGrouped?_grouped (n : UInt64) : readGrouped? (.ofList (grouped n)) = some n := by
  have hd : ∀ c ∈ Nat.toDigits 10 n.toNat, c.isDigit = true := fun _ => isDigit_of_mem_toDigits
  have hr : readDigits? (Nat.toDigits 10 n.toNat) = some n :=
    readDigits?_eq_some_iff.mpr ⟨Nat.toDigits_ne_nil, hd, by simp⟩
  rw [readGrouped?, String.toList_ofList, filter_grouped, read?_of_digits hd, hr]

lemma isDigit_or_comma_of_mem_grouped (hc : c ∈ grouped n) : c.isDigit = true ∨ c = ',' := by
  rcases mem_separate (List.mem_reverse.mp hc) with hd | rfl
  · exact Or.inl (isDigit_of_mem_toDigits (List.mem_reverse.mp hd))
  · exact Or.inr rfl

lemma grouped_ne_nil (n : UInt64) : grouped n ≠ [] := by
  intro he
  have hf := filter_grouped n
  rw [he] at hf
  exact Nat.toDigits_ne_nil hf.symm

example : grouped 1234567 = "1,234,567".toList := by decide +kernel

end BenchReport.Numeral
