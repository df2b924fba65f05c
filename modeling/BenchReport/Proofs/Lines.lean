import BenchReport.Proofs.Cut
import BenchReport.Proofs.StableOrder

/-! A text scanned line by line: it comes to the same exactly when no result goes on behind a line feed. -/

namespace BenchReport

def lines (text : String) : List String := (text.toList.splitOn '\n').map .ofList

lemma lines_induction {motive : List Char → Prop} (last : ∀ s, '\n' ∉ s → motive s)
    (line : ∀ l r, '\n' ∉ l → motive r → motive (l ++ '\n' :: r)) (s : List Char) : motive s := by
  induction hn : s.length using Nat.strongRecOn generalizing s with
  | ind n ih =>
    by_cases hs : '\n' ∈ s
    · obtain ⟨l, r, rfl, hl⟩ := List.eq_append_cons_of_mem hs
      rw [List.length_append, List.length_cons] at hn
      exact line l r hl (ih r.length (by omega) r rfl)
    · exact last s hs

open ResultLine

namespace Hit

variable {s l r u v : List Char} {c : Char} {p d a b : ℕ} {h : Hit}

/-- The hits of lines, each scanned alone, where the lines stand in a text from a position on. -/
def ofLines : ℕ → List (List Char) → List Hit
  | _, [] => []
  | p, l :: ls => allFrom p 0 l ++ ofLines (p + l.length + 1) ls

def byLine (text : String) : List Hit := ofLines 0 (text.toList.splitOn '\n')

lemma ofLines_add (p d : ℕ) (ls : List (List Char)) :
    ofLines (p + d) ls = (ofLines p ls).map (shift d) := by
  induction ls generalizing p with
  | nil => rfl
  | cons l ls ih =>
    have hp : p + d + l.length + 1 = p + l.length + 1 + d := by omega
    rw [ofLines, ofLines, allFrom_add, hp, ih, List.map_append]

lemma ofLines_splitOn_last (hs : '\n' ∉ s) : ofLines 0 (s.splitOn '\n') = onward s 0 := by
  rw [List.splitOn_eq_singleton hs, ofLines, ofLines, List.append_nil]
  rfl

lemma ofLines_splitOn_line (hl : '\n' ∉ l) :
    ofLines 0 ((l ++ '\n' :: r).splitOn '\n') =
      onward l 0 ++ (ofLines 0 (r.splitOn '\n')).map (shift (l.length + 1)) := by
  rw [List.splitOn_append_cons_self_of_not_mem hl, ofLines, ← ofLines_add, Nat.add_assoc]
  rfl

lemma at?_cons_eq_none (hc : c ≠ 't') : at? p (c :: s) = none := by
  rw [at?_eq_none_iff]
  intro f r he
  exact hc (List.cons.inj he).1

lemma onward_feed (l r : List Char) :
    onward (l ++ '\n' :: r) l.length = (onward r 0).map (shift (l.length + 1)) := by
  have hfeed : onward ('\n' :: r) 0 = (onward r 0).map (shift 1) := by
    rw [onward_of_none (at?_cons_eq_none (by decide))]
    exact onward_append_length ['\n'] r
  rw [onward_append_length, hfeed, List.map_map]
  congr 1
  funext h
  simp [shift, Nat.add_assoc, Nat.add_comm 1]

lemma onward_silent (hl : ¬ "test".toList <:+: l) :
    onward (l ++ '\n' :: r) 0 = (onward r 0).map (shift (l.length + 1)) := by
  rw [← onward_feed]
  apply onward_of_forall_none (Nat.zero_le _)
  intro k _ hk
  rw [at?_eq_none_iff, List.drop_append_of_le_length (Nat.le_of_lt hk)]
  intro f u he
  have hp : "test".toList <+: l.drop k ++ '\n' :: r := by
    rw [he, f.text_eq_append, Form.opening, List.append_assoc, List.append_assoc]
    exact List.prefix_append _ _
  exact hl ((prefix_of_prefix_append_cons (by decide) hp).isInfix.trans (List.drop_suffix k l).isInfix)

lemma onward_line (hc : ∀ h ∈ onward (l ++ '\n' :: r) 0, h.stop ≤ l.length ∨ l.length ≤ h.start) :
    onward (l ++ '\n' :: r) 0 = onward l 0 ++ (onward r 0).map (shift (l.length + 1)) := by
  rw [onward_append (Nat.zero_le _) hc, ← onward_append_length, onward_feed]

lemma extract_append_left (hb : b ≤ u.length) : (u ++ v).extract a b = u.extract a b := by
  by_cases ha : a ≤ u.length
  · rw [List.extract_eq_take_drop, List.extract_eq_take_drop, List.drop_append_of_le_length ha,
      List.take_append_of_le_length (by rw [List.length_drop]; omega)]
  · have hz : b - a = 0 := by omega
    rw [List.extract_eq_take_drop, List.extract_eq_take_drop, hz, List.take_zero, List.take_zero]

lemma extract_append_right (u v : List Char) (a b : ℕ) :
    (u ++ v).extract (a + u.length) (b + u.length) = v.extract a b := by
  rw [List.extract_eq_take_drop, List.extract_eq_take_drop, Nat.add_sub_add_right, Nat.add_comm a,
    ← List.drop_drop, List.drop_left]

lemma mem_extract (ha : a ≤ l.length) (hb : l.length < b) : c ∈ (l ++ c :: r).extract a b := by
  obtain ⟨n, hn⟩ : ∃ n, b - a = (l.drop a).length + (n + 1) := by
    refine ⟨b - l.length - 1, ?_⟩
    rw [List.length_drop]
    omega
  rw [List.extract_eq_take_drop, List.drop_append_of_le_length ha, hn, List.take_length_add_append]
  simp

lemma not_mem_of_mem_ofLines (hh : h ∈ ofLines 0 (s.splitOn '\n')) : '\n' ∉ s.extract h.start h.stop := by
  induction s using lines_induction generalizing h with
  | last s hs =>
    intro hm
    rw [List.extract_eq_take_drop] at hm
    exact hs (List.mem_of_mem_drop (List.mem_of_mem_take hm))
  | line l r hl ih =>
    rw [ofLines_splitOn_line hl] at hh
    rcases List.mem_append.mp hh with hh | hh
    · rw [extract_append_left (bounds_of_mem_onward hh).2.2, List.extract_eq_take_drop]
      exact fun hm => hl (List.mem_of_mem_drop (List.mem_of_mem_take hm))
    · obtain ⟨g, hg, rfl⟩ := List.mem_map.mp hh
      have he := extract_append_right (l ++ ['\n']) r g.start g.stop
      rw [List.append_assoc, List.length_append] at he
      exact he ▸ ih hg

lemma onward_eq_ofLines (hs : ∀ h ∈ onward s 0, '\n' ∉ s.extract h.start h.stop) :
    onward s 0 = ofLines 0 (s.splitOn '\n') := by
  induction s using lines_induction with
  | last s hf => exact (ofLines_splitOn_last hf).symm
  | line l r hl ih =>
    have hc : ∀ h ∈ onward (l ++ '\n' :: r) 0, h.stop ≤ l.length ∨ l.length ≤ h.start := by
      intro h hh
      by_contra hn
      exact hs h hh (mem_extract (by omega) (by omega))
    rw [ofLines_splitOn_line hl, onward_line hc]
    rw [onward_line hc] at hs
    rw [ih]
    intro g hg
    have he := extract_append_right (l ++ ['\n']) r g.start g.stop
    rw [List.append_assoc, List.length_append] at he
    exact he ▸ hs _ (List.mem_append_right _ (List.mem_map_of_mem hg))

lemma onward_eq_ofLines_iff :
    onward s 0 = ofLines 0 (s.splitOn '\n') ↔ ∀ h ∈ onward s 0, '\n' ∉ s.extract h.start h.stop :=
  ⟨fun he _ hh => not_mem_of_mem_ofLines (he ▸ hh), onward_eq_ofLines⟩

end Hit

namespace Finding

lemma map_ofHit_shift (d : ℕ) (hs : List Hit) : (hs.map (Hit.shift d)).map ofHit = hs.map ofHit := by
  rw [List.map_map]
  rfl

lemma all_ofList (l : List Char) : all (.ofList l) = (Hit.onward l 0).map ofHit := by
  rw [all, Hit.all_eq_onward, String.toList_ofList]

lemma map_ofHit_ofLines (p : ℕ) (ls : List (List Char)) :
    (Hit.ofLines p ls).map ofHit = (ls.map .ofList).flatMap all := by
  induction ls generalizing p with
  | nil => rfl
  | cons l ls ih =>
    have hl : (Hit.allFrom p 0 l).map ofHit = all (.ofList l) := by
      rw [← Nat.zero_add p, Hit.allFrom_add, map_ofHit_shift, all_ofList]
      rfl
    rw [Hit.ofLines, List.map_append, hl, ih, List.map_cons, List.flatMap_cons]

theorem all_byLine_iff (text : String) :
    (Hit.all text = Hit.byLine text ↔ ∀ h ∈ Hit.all text, '\n' ∉ text.toList.extract h.start h.stop) ∧
      ((∀ h ∈ Hit.all text, '\n' ∉ text.toList.extract h.start h.stop) →
        all text = (lines text).flatMap all) ∧
      Measurement.IsStableSort ((all text).filterMap measurement?) (Measurement.extract text) := by
  refine ⟨Hit.onward_eq_ofLines_iff, ?_, Measurement.isStableSort_sort _⟩
  intro hs
  rw [all, Hit.all_eq_onward, Hit.onward_eq_ofLines (s := text.toList) hs, map_ofHit_ofLines, lines]

theorem all_byLine_two_lines :
    let text := "test a bench: 1 ns/iter (+/- 2)\ntest b bench: 3 ns/iter (+/- 4)"
    (∀ h ∈ Hit.all text, '\n' ∉ text.toList.extract h.start h.stop) ∧
      all text = (lines text).flatMap all := by
  have hs : ∀ h ∈ Hit.all "test a bench: 1 ns/iter (+/- 2)\ntest b bench: 3 ns/iter (+/- 4)",
      '\n' ∉ "test a bench: 1 ns/iter (+/- 2)\ntest b bench: 3 ns/iter (+/- 4)".toList.extract h.start h.stop := by
    decide +kernel
  exact ⟨hs, (all_byLine_iff _).2.1 hs⟩

theorem all_ne_flatMap_lines :
    let text := "running 1 test\ntest a ... bench: 5 ns/iter (+/- 1)"
    all text = [.matched ⟨"test", 5, 1⟩] ∧ (lines text).flatMap all = [.matched ⟨"a", 5, 1⟩] ∧
      all text ≠ (lines text).flatMap all := by
  decide +kernel

end Finding

end BenchReport
