import BenchReport.Proofs.GroupedNumeral
import Mathlib.Data.Int.Notation

/-! Texts that can be cut in one way only: at a separator that the pieces do not hold. -/

namespace BenchReport

variable {c : Char} {u u' s s' : List Char} {n n' : ℕ}

lemma append_cons_inj (hu : c ∉ u) (hu' : c ∉ u') (h : u ++ c :: s = u' ++ c :: s') : u = u' ∧ s = s' := by
  induction u generalizing u' with
  | nil =>
    cases u' with
    | nil => exact ⟨rfl, (List.cons.inj h).2⟩
    | cons d u' => exact absurd (List.cons.inj h).1 (List.ne_of_not_mem_cons hu')
  | cons d u ih =>
    cases u' with
    | nil => exact absurd (List.cons.inj h).1.symm (List.ne_of_not_mem_cons hu)
    | cons d' u' =>
      obtain ⟨rfl, htail⟩ := List.cons.inj h
      obtain ⟨rfl, hs⟩ := ih (List.not_mem_of_not_mem_cons hu) (List.not_mem_of_not_mem_cons hu') htail
      exact ⟨rfl, hs⟩

lemma append_cons_inj_last (hs : c ∉ s) (hs' : c ∉ s') (h : u ++ c :: s = u' ++ c :: s') : s = s' := by
  have hr := congrArg List.reverse h
  simp only [List.reverse_append, List.reverse_cons, List.append_assoc, List.singleton_append] at hr
  rw [← List.mem_reverse] at hs hs'
  exact List.reverse_inj.mp (append_cons_inj hs hs' hr).1

def ended (ls : List String) : String := String.join (ls.map (· ++ "\n"))

lemma ended_cons (l : String) (ls : List String) : ended (l :: ls) = l ++ "\n" ++ ended ls := String.join_cons

lemma toList_ended_cons (l : String) (ls : List String) :
    (ended (l :: ls)).toList = l.toList ++ '\n' :: (ended ls).toList := by
  rw [ended_cons, String.toList_append, String.toList_append, List.append_assoc]
  rfl

lemma ended_inj {ls ls' : List String} (hl : ∀ l ∈ ls, '\n' ∉ l.toList) (hl' : ∀ l ∈ ls', '\n' ∉ l.toList)
    (h : ended ls = ended ls') : ls = ls' := by
  induction ls generalizing ls' with
  | nil =>
    cases ls' with
    | nil => rfl
    | cons l' ls' =>
      have hnil := congrArg String.toList h
      rw [toList_ended_cons] at hnil
      exact absurd hnil.symm (List.append_ne_nil_of_right_ne_nil _ (List.cons_ne_nil _ _))
  | cons l ls ih =>
    cases ls' with
    | nil =>
      have hnil := congrArg String.toList h
      rw [toList_ended_cons] at hnil
      exact absurd hnil (List.append_ne_nil_of_right_ne_nil _ (List.cons_ne_nil _ _))
    | cons l' ls' =>
      rw [List.forall_mem_cons] at hl hl'
      have hc := congrArg String.toList h
      rw [toList_ended_cons, toList_ended_cons] at hc
      obtain ⟨hfirst, hrest⟩ := append_cons_inj hl.1 hl'.1 hc
      rw [String.toList_inj.mp hfirst, ih hl.2 hl'.2 (String.toList_inj.mp hrest)]

lemma toDigits_inj (h : Nat.toDigits 10 n = Nat.toDigits 10 n') : n = n' := by
  have hv := congrArg (Nat.ofDigitChars 10 · 0) h
  simpa only [Nat.ofDigitChars_ten_toDigits] using hv

lemma not_mem_toDigits (hc : c.isDigit = false) : c ∉ Nat.toDigits 10 n := by
  intro h
  rw [Numeral.isDigit_of_mem_toDigits h] at hc
  cases hc

lemma toDigits_append_cons_inj (hc : c.isDigit = false) (h : Nat.toDigits 10 n ++ c :: s = Nat.toDigits 10 n' ++ c :: s') :
    n = n' ∧ s = s' := by
  obtain ⟨hn, hs⟩ := append_cons_inj (not_mem_toDigits hc) (not_mem_toDigits hc) h
  exact ⟨toDigits_inj hn, hs⟩

end BenchReport
