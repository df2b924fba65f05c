import BenchReport.Proofs.PatternLanguage
import BenchReport.ResultLine

/-! The words of a text, which the blanks set apart, and lists where each element of a kind is followed by
one of another. -/

namespace BenchReport

section Followed

variable {α : Type} {p q : α → Bool} {a b : α} {as bs : List α}

def isFollowed (p q : α → Bool) : List α → Bool
  | [] => true
  | a :: as => (!p a || as.head?.any q) && isFollowed p q as

lemma isFollowed_cons_iff :
    isFollowed p q (a :: as) = true ↔ (p a = true → as.head?.any q = true) ∧ isFollowed p q as = true := by
  cases hp : p a <;> simp [isFollowed, hp]

lemma isFollowed_cons_of_not (ha : p a = false) (h : isFollowed p q as = true) : isFollowed p q (a :: as) = true :=
  isFollowed_cons_iff.mpr ⟨fun hp => absurd hp (by simp [ha]), h⟩

lemma isFollowed_of_forall (h : ∀ a ∈ as, p a = false) : isFollowed p q as = true := by
  induction as with
  | nil => rfl
  | cons a as ih =>
    obtain ⟨ha, has⟩ := List.forall_mem_cons.mp h
    exact isFollowed_cons_of_not ha (ih has)

lemma isFollowed_append (h : isFollowed p q as = true) (h' : isFollowed p q bs = true) :
    isFollowed p q (as ++ bs) = true := by
  induction as with
  | nil => exact h'
  | cons a as ih =>
    obtain ⟨ha, has⟩ := isFollowed_cons_iff.mp h
    apply isFollowed_cons_iff.mpr
    refine ⟨fun hp => ?_, ih has⟩
    cases as with
    | nil => exact absurd (ha hp) Bool.false_ne_true
    | cons c as => exact ha hp

lemma isFollowed_concat (h : ∀ a ∈ as, q a = true) (hp : p b = false) (hq : q b = true) :
    isFollowed p q (as ++ [b]) = true := by
  induction as with
  | nil => exact isFollowed_of_forall (List.forall_mem_singleton.mpr hp)
  | cons a as ih =>
    obtain ⟨-, has⟩ := List.forall_mem_cons.mp h
    apply isFollowed_cons_iff.mpr
    refine ⟨fun _ => ?_, ih has⟩
    cases as with
    | nil => exact hq
    | cons c as => exact has c List.mem_cons_self

lemma isFollowed_flatMap {β : Type} {f : β → List α} {xs : List β} (h : ∀ x ∈ xs, isFollowed p q (f x) = true) :
    isFollowed p q (xs.flatMap f) = true := by
  induction xs with
  | nil => rfl
  | cons x xs ih =>
    obtain ⟨hx, hxs⟩ := List.forall_mem_cons.mp h
    exact isFollowed_append hx (ih hxs)

lemma isFollowed_right (h : isFollowed p q (as ++ bs) = true) : isFollowed p q bs = true := by
  induction as with
  | nil => exact h
  | cons a as ih => exact ih (isFollowed_cons_iff.mp h).2

lemma of_isFollowed (h : isFollowed p q (as ++ a :: b :: bs) = true) (ha : p a = true) : q b = true :=
  (isFollowed_cons_iff.mp (isFollowed_right h)).1 ha

end Followed

section Words

open Text ResultLine

variable {c : Char} {s t w : List Char}

def words (s : List Char) : List (List Char) := (s.splitOnP isBlank).filter (· ≠ [])

lemma words_append_cons (hc : isBlank c = true) (s t : List Char) : words (s ++ c :: t) = words s ++ words t := by
  rw [words, List.splitOnP_append_cons s t hc, List.filter_append]
  rfl

lemma words_blanks_append (hs : ∀ c ∈ s, isBlank c = true) (t : List Char) : words (s ++ t) = words t := by
  induction s with
  | nil => rfl
  | cons c s ih =>
    obtain ⟨hc, hs⟩ := List.forall_mem_cons.mp hs
    exact (words_append_cons hc [] (s ++ t)).trans (ih hs)

lemma words_append_run (a : Run isBlank) (s t : List Char) : words (s ++ (a.chars ++ t)) = words s ++ words t := by
  obtain ⟨c, w, hw⟩ := List.exists_cons_of_ne_nil a.ne_nil
  have hall := a.all
  rw [hw] at hall ⊢
  obtain ⟨hc, hblank⟩ := List.forall_mem_cons.mp hall
  exact (words_append_cons hc s (w ++ t)).trans (congrArg (words s ++ ·) (words_blanks_append hblank t))

lemma words_of_visible (hw : ∀ c ∈ w, isVisible c = true) : words w = if w = [] then [] else [w] := by
  have hsplit : w.splitOnP isBlank = [w] := List.splitOnP_eq_singleton fun c hc => by simpa [isVisible] using hw c hc
  rw [words, hsplit]
  by_cases hne : w = [] <;> simp [hne]

lemma subset_of_mem_splitOnP {p : Char → Bool} : ∀ w ∈ s.splitOnP p, w ⊆ s := by
  induction s with
  | nil => simp
  | cons d s ih =>
    rw [List.splitOnP_cons_eq_if_modifyHead]
    obtain ⟨u, us, hs⟩ := List.exists_cons_of_ne_nil (List.splitOnP_ne_nil p s)
    rw [hs] at ih ⊢
    obtain ⟨hu, hus⟩ := List.forall_mem_cons.mp ih
    have htail : ∀ v ∈ us, v ⊆ d :: s := fun v hv => List.subset_cons_of_subset d (hus v hv)
    split_ifs
    · exact List.forall_mem_cons.mpr
        ⟨List.nil_subset _, List.forall_mem_cons.mpr ⟨List.subset_cons_of_subset d hu, htail⟩⟩
    · exact List.forall_mem_cons.mpr ⟨List.cons_subset_cons d hu, htail⟩

lemma mem_of_mem_words (hw : w ∈ words s) (hc : c ∈ w) : c ∈ s :=
  subset_of_mem_splitOnP w (List.mem_of_mem_filter hw) hc

end Words

end BenchReport
