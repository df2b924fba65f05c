import BenchReport.Proofs.GroupedNumeral
import Mathlib.Data.Nat.Digits.Defs

namespace BenchReport.Numeral

variable {c : Char} {cs ds : List Char} {a b n m : UInt64} {s : String} {k : ℕ}

section Values

def withoutCommas (s : String) : List Char := s.toList.filter (· != ',')

def placed (ds : List Char) : ℕ := Nat.ofDigits 10 (ds.map fun c => c.toNat - '0'.toNat).reverse

inductive Denotes : List Char → ℕ → Prop
  | unsigned {ds : List Char} : ds ≠ [] → (∀ c ∈ ds, c.isDigit = true) → Denotes ds (placed ds)
  | signed {ds : List Char} : ds ≠ [] → (∀ c ∈ ds, c.isDigit = true) → Denotes ('+' :: ds) (placed ds)

lemma placed_cons (c : Char) (ds : List Char) :
    placed (c :: ds) = placed ds + 10 ^ ds.length * (c.toNat - '0'.toNat) := by
  rw [placed, placed, List.map_cons, Nat.ofDigits_reverse_cons, List.length_map]

lemma ofDigitChars_eq_placed (ds : List Char) : Nat.ofDigitChars 10 ds 0 = placed ds := by
  induction ds with
  | nil => rfl
  | cons c ds ih =>
    rw [Nat.ofDigitChars_cons, Nat.ofDigitChars_eq_ofDigitChars_zero, ih, placed_cons, Nat.mul_zero,
      Nat.zero_add, Nat.add_comm]

lemma readDigits?_eq_some_iff_placed :
    readDigits? ds = some n ↔ ds ≠ [] ∧ (∀ c ∈ ds, c.isDigit = true) ∧ placed ds = n.toNat := by
  rw [readDigits?_eq_some_iff, ofDigitChars_eq_placed]

lemma read?_eq_some_iff : read? cs = some n ↔ Denotes cs n.toNat := by
  constructor
  · intro h
    rw [read?.eq_def] at h
    split at h
    · obtain ⟨hne, hd, hv⟩ := readDigits?_eq_some_iff_placed.mp h
      exact hv ▸ Denotes.signed hne hd
    · obtain ⟨hne, hd, hv⟩ := readDigits?_eq_some_iff_placed.mp h
      exact hv ▸ Denotes.unsigned hne hd
  · intro h
    generalize hk : n.toNat = k at h
    cases h with
    | unsigned hne hd =>
      rw [read?_of_digits hd]
      exact readDigits?_eq_some_iff_placed.mpr ⟨hne, hd, hk.symm⟩
    | signed hne hd => exact readDigits?_eq_some_iff_placed.mpr ⟨hne, hd, hk.symm⟩

lemma map_readGrouped?_eq_some_iff :
    (readGrouped? s).map UInt64.toNat = some k ↔ Denotes (withoutCommas s) k ∧ k ≤ 2 ^ 64 - 1 := by
  rw [Option.map_eq_some_iff]
  constructor
  · rintro ⟨n, hn, rfl⟩
    have hlt := n.toNat_lt
    exact ⟨read?_eq_some_iff.mp hn, by omega⟩
  · rintro ⟨hd, hle⟩
    have hlt : k < 2 ^ 64 := by omega
    obtain ⟨n, rfl⟩ := exists_toNat_eq hlt
    exact ⟨n, read?_eq_some_iff.mpr hd, rfl⟩

lemma readGrouped?_eq_none_iff_denotes :
    readGrouped? s = none ↔ ∀ k, Denotes (withoutCommas s) k → 2 ^ 64 - 1 < k := by
  rw [← Option.map_eq_none_iff, Option.eq_none_iff_forall_ne_some]
  apply forall_congr'
  intro k
  rw [Ne, map_readGrouped?_eq_some_iff, not_and, Nat.not_le]

lemma readGrouped?_append_comma (u v : String) : readGrouped? (u ++ "," ++ v) = readGrouped? (u ++ v) := by
  have hc : ",".toList = [','] := rfl
  simp only [readGrouped?, String.toList_append, List.filter_append, hc]
  rw [List.filter_cons_of_neg (by simp), List.filter_nil, List.append_nil]

end Values

section Words

def checked? (overflow : Bool) (r : UInt64) : Option UInt64 := if overflow then none else some r

def times? (a b : UInt64) : Option UInt64 := checked? (a.toBitVec.umulOverflow b.toBitVec) (a * b)

def plus? (a b : UInt64) : Option UInt64 := checked? (a.toBitVec.uaddOverflow b.toBitVec) (a + b)

def digit? (c : Char) : Option UInt64 :=
  if c.isDigit then some (UInt64.ofNat (c.toNat - '0'.toNat)) else none

/-- One digit more behind a number, in words that wrap: the product and the sum are each checked apart. -/
def step? (n : UInt64) (c : Char) : Option UInt64 := do
  let m ← times? n 10
  let d ← digit? c
  plus? m d

lemma checked?_eq_some_iff (hr : a.toNat = k % 2 ^ 64) :
    checked? (decide (k ≥ 2 ^ 64)) a = some n ↔ k = n.toNat := by
  have hn := n.toNat_lt
  by_cases hk : k < 2 ^ 64
  · rw [Nat.mod_eq_of_lt hk] at hr
    rw [checked?, decide_eq_false (Nat.not_le.mpr hk), if_neg Bool.false_ne_true, Option.some.injEq,
      ← UInt64.toNat_inj, hr]
  · rw [checked?, decide_eq_true (Nat.not_lt.mp hk), if_pos rfl]
    constructor
    · rintro ⟨⟩
    · intro he
      omega

lemma times?_eq_some_iff : times? a b = some n ↔ a.toNat * b.toNat = n.toNat :=
  checked?_eq_some_iff (UInt64.toNat_mul a b)

lemma plus?_eq_some_iff : plus? a b = some n ↔ a.toNat + b.toNat = n.toNat :=
  checked?_eq_some_iff (UInt64.toNat_add a b)

lemma digit?_eq_some_iff : digit? c = some n ↔ c.isDigit = true ∧ c.toNat - '0'.toNat = n.toNat := by
  have hlt : c.toNat - '0'.toNat < UInt64.size :=
    (Nat.sub_le _ _).trans_lt (c.val.toNat_lt.trans (by decide))
  have hof := UInt64.toNat_ofNat_of_lt' hlt
  rw [digit?, Option.ite_none_right_eq_some, Option.some.injEq, ← UInt64.toNat_inj, hof]

lemma step?_eq_some_iff :
    step? n c = some m ↔ c.isDigit = true ∧ 10 * n.toNat + (c.toNat - '0'.toNat) = m.toNat := by
  have hten : (10 : UInt64).toNat = 10 := rfl
  simp only [step?, Option.bind_eq_bind, Option.bind_eq_some_iff, times?_eq_some_iff, digit?_eq_some_iff,
    plus?_eq_some_iff, hten]
  constructor
  · rintro ⟨t, ht, d, ⟨hc, hd⟩, hm⟩
    exact ⟨hc, by omega⟩
  · rintro ⟨hc, hm⟩
    -- The product is at most the sum, so its own check refuses nothing that the sum's would let pass.
    have hlt := m.toNat_lt
    have hproduct : n.toNat * 10 < 2 ^ 64 := by omega
    have hdigit : c.toNat - '0'.toNat < 2 ^ 64 := by omega
    obtain ⟨t, ht⟩ := exists_toNat_eq hproduct
    obtain ⟨d, hd⟩ := exists_toNat_eq hdigit
    exact ⟨t, ht.symm, d, ⟨hc, hd.symm⟩, by omega⟩

lemma step?_eq_push? (n : UInt64) (c : Char) : step? n c = push? n c := by
  ext m
  rw [step?_eq_some_iff, push?_eq_some_iff]

lemma foldlM_step?_eq_some_iff :
    ds.foldlM step? 0 = some n ↔ (∀ c ∈ ds, c.isDigit = true) ∧ placed ds = n.toNat := by
  have hs : step? = push? := by
    funext n c
    exact step?_eq_push? n c
  rw [hs, foldlM_push?_eq_some_iff, UInt64.toNat_zero, ofDigitChars_eq_placed]

end Words

/-- A text is read as `k` exactly if it denotes `k` and a word holds `k`; it is refused exactly if it denotes
nothing that small; a comma more changes nothing; and the digits are taken in as a machine takes them, which
comes to their exact number or, if no word holds that, to nothing. -/
theorem reading_exact :
    (∀ s k, (readGrouped? s).map UInt64.toNat = some k ↔ Denotes (withoutCommas s) k ∧ k ≤ 2 ^ 64 - 1) ∧
    (∀ s, readGrouped? s = none ↔ ∀ k, Denotes (withoutCommas s) k → 2 ^ 64 - 1 < k) ∧
    (∀ u v, readGrouped? (u ++ "," ++ v) = readGrouped? (u ++ v)) ∧
    (∀ n c, push? n c = step? n c) ∧
    ∀ ds n, ds.foldlM step? 0 = some n ↔ (∀ c ∈ ds, c.isDigit = true) ∧ placed ds = n.toNat := by
  refine ⟨?_, ?_, ?_, ?_, ?_⟩
  · intro s k
    exact map_readGrouped?_eq_some_iff
  · intro s
    exact readGrouped?_eq_none_iff_denotes
  · intro u v
    exact readGrouped?_append_comma u v
  · intro n c
    exact (step?_eq_push? n c).symm
  · intro ds n
    exact foldlM_step?_eq_some_iff

example : readGrouped? "+,018,446,744,073,709,551,615" = some (UInt64.ofNat (2 ^ 64 - 1)) := by decide +kernel

example : readGrouped? "18,446,744,073,709,551,616" = none := by decide +kernel

end BenchReport.Numeral
