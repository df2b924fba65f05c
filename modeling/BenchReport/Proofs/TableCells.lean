import BenchReport.Proofs.Lines
import BenchReport.Proofs.OutputsInjective
import BenchReport.Proofs.Reference
import Mathlib.Data.List.DropRight

/-! The cells of the table: bars set them apart, but for bars right behind a backslash. A record has its five
cells unless there is a bar in its name that is not. -/

namespace BenchReport

open Text ResultLine Measurement

variable {c p : Char} {s u v : List Char} {xs : List (List Char)} {m : Measurement} {ms : List Measurement} {t : Instant}

lemma lines_ended {ls : List String} (h : ∀ l ∈ ls, '\n' ∉ l.toList) : lines (ended ls) = ls ++ [""] := by
  induction ls with
  | nil => rfl
  | cons l ls ih =>
    obtain ⟨hl, hls⟩ := List.forall_mem_cons.mp h
    rw [lines, toList_ended_cons, List.splitOn_append_cons_self_of_not_mem hl, List.map_cons, String.ofList_toList]
    exact congrArg (l :: ·) (ih hls)

namespace Table

section Cells

/-- A text behind a character, cut at those of its bars that are not right behind a backslash. -/
def cutAtBars (p : Char) : List Char → List (List Char)
  | [] => [[]]
  | c :: s => if c = '|' ∧ p ≠ '\\' then [] :: cutAtBars c s else (cutAtBars c s).modifyHead (c :: ·)

def trimEnd (s : List Char) : List Char := s.rdropWhile isBlank

def trim (s : List Char) : List Char := (trimEnd s).dropWhile isBlank

def unframed (xs : List (List Char)) : List (List Char) :=
  let xs := if xs.head? = some [] then xs.tail else xs
  if xs.getLast? = some [] then xs.dropLast else xs

def cells (line : String) : List String := (unframed ((cutAtBars '\n' line.toList).map trim)).map .ofList

lemma unframed_frame (xs : List (List Char)) : unframed ([] :: (xs ++ [[]])) = xs := by
  simp [unframed]

lemma exists_cutAtBars (p : Char) (s : List Char) : ∃ x xs, cutAtBars p s = x :: xs := by
  induction s generalizing p with
  | nil => exact ⟨[], [], rfl⟩
  | cons c s ih =>
    obtain ⟨x, xs, hs⟩ := ih c
    rw [cutAtBars, hs]
    split_ifs
    · exact ⟨_, _, rfl⟩
    · exact ⟨_, _, rfl⟩

lemma cutAtBars_append_bar (h : s.getLast?.getD p ≠ '\\') (u : List Char) :
    cutAtBars p (s ++ '|' :: u) = cutAtBars p s ++ cutAtBars '|' u := by
  induction s generalizing p with
  | nil => exact if_pos ⟨rfl, h⟩
  | cons c s ih =>
    rw [List.getLast?_cons] at h
    rw [List.cons_append, cutAtBars, cutAtBars, ih (by simpa using h)]
    obtain ⟨x, xs, hs⟩ := exists_cutAtBars c s
    rw [hs]
    split_ifs <;> rfl

lemma cutAtBars_eq_singleton_iff :
    cutAtBars p s = [s] ↔ ∀ u v, s = u ++ '|' :: v → u.getLast?.getD p = '\\' := by
  induction s generalizing p with
  | nil => simp [cutAtBars]
  | cons c s ih =>
    rw [cutAtBars]
    split_ifs with hc
    · obtain ⟨rfl, hp⟩ := hc
      exact iff_of_false (by simp) fun h => hp (h [] s rfl)
    · have hhead : (cutAtBars c s).modifyHead (c :: ·) = [c :: s] ↔ cutAtBars c s = [s] := by
        obtain ⟨x, xs, hs⟩ := exists_cutAtBars c s
        rw [hs]
        simp
      rw [hhead, ih]
      constructor
      · rintro h (_ | ⟨d, u⟩) v he
        · obtain ⟨rfl, rfl⟩ := List.cons.inj he
          by_contra hp
          exact hc ⟨rfl, hp⟩
        · obtain ⟨rfl, rfl⟩ := List.cons.inj he
          simpa [List.getLast?_cons] using h u v rfl
      · rintro h u v rfl
        simpa [List.getLast?_cons] using h (c :: u) v rfl

end Cells

section Trimming

lemma trimEnd_cons (c : Char) (s : List Char) :
    trimEnd (c :: s) = if trimEnd s = [] ∧ isBlank c = true then [] else c :: trimEnd s := by
  simp only [trimEnd, List.rdropWhile, List.reverse_cons, List.dropWhile_append, List.reverse_eq_nil_iff,
    List.isEmpty_iff]
  split_ifs with hs <;> simp_all

lemma trim_cons_blank (hc : isBlank c = true) (s : List Char) : trim (c :: s) = trim s := by
  rw [trim, trimEnd_cons, trim]
  split_ifs with hs
  · rw [hs.1]
  · exact List.dropWhile_cons_of_pos hc

lemma map_trimEnd_cutAtBars (hs : ∀ c ∈ s, isVisible c = true) (p : Char) :
    (cutAtBars p (s ++ [' '])).map trimEnd = cutAtBars p s := by
  induction s generalizing p with
  | nil => rfl
  | cons c s ih =>
    obtain ⟨hc, hs⟩ := List.forall_mem_cons.mp hs
    have hblank : isBlank c = false := by simpa [isVisible] using hc
    have hrest := ih hs c
    rw [List.cons_append, cutAtBars, cutAtBars, ← hrest]
    obtain ⟨x, xs, hx⟩ := exists_cutAtBars c (s ++ [' '])
    rw [hx]
    split_ifs
    · rfl
    · simp [trimEnd_cons, hblank]

lemma map_dropWhile_cutAtBars (hs : ∀ c ∈ s, isVisible c = true) (p : Char) :
    (cutAtBars p s).map (List.dropWhile isBlank) = cutAtBars p s := by
  induction s generalizing p with
  | nil => rfl
  | cons c s ih =>
    obtain ⟨hc, hs⟩ := List.forall_mem_cons.mp hs
    have hblank : isBlank c = false := by simpa [isVisible] using hc
    have hrest := ih hs c
    rw [cutAtBars]
    obtain ⟨x, xs, hx⟩ := exists_cutAtBars c s
    rw [hx] at hrest ⊢
    split_ifs
    · exact congrArg ([] :: ·) hrest
    · obtain ⟨-, hxs⟩ := List.cons.inj hrest
      simp [hblank, hxs]

lemma map_trim_cutAtBars (hs : ∀ c ∈ s, isVisible c = true) (p : Char) :
    (cutAtBars p (' ' :: (s ++ [' ']))).map trim = cutAtBars ' ' s := by
  have hlead : (cutAtBars p (' ' :: (s ++ [' ']))).map trim = (cutAtBars ' ' (s ++ [' '])).map trim := by
    rw [cutAtBars, if_neg (by simp)]
    obtain ⟨x, xs, hx⟩ := exists_cutAtBars ' ' (s ++ [' '])
    rw [hx]
    exact congrArg (· :: xs.map trim) (trim_cons_blank rfl x)
  have htrim : trim = List.dropWhile isBlank ∘ trimEnd := rfl
  rw [hlead, htrim, ← List.map_map, map_trimEnd_cutAtBars hs, map_dropWhile_cutAtBars hs]

end Trimming

section Rows

def framed (xs : List (List Char)) : List Char := '|' :: xs.flatMap fun x => ' ' :: (x ++ [' ', '|'])

def fields (m : Measurement) : List String :=
  [m.name, m.timeNs.toNat.repr, m.varianceNs.toNat.repr, Layout.table.write m.timeUs, Layout.table.write m.timeMs]

def pieces (text : String) : List String := (cutAtBars ' ' text.toList).map .ofList

lemma map_trim_framed (hxs : ∀ x ∈ xs, ∀ c ∈ x, isVisible c = true) :
    (cutAtBars '\n' (framed xs)).map trim = [] :: (xs.flatMap (cutAtBars ' ') ++ [[]]) := by
  have hrest (p : Char) : (cutAtBars p (xs.flatMap fun x => ' ' :: (x ++ [' ', '|']))).map trim =
      xs.flatMap (cutAtBars ' ') ++ [[]] := by
    induction xs generalizing p with
    | nil => rfl
    | cons x xs ih =>
      obtain ⟨hx, hxs⟩ := List.forall_mem_cons.mp hxs
      have hcell (u : List Char) : cutAtBars p (' ' :: (x ++ [' ', '|']) ++ u) =
          cutAtBars p (' ' :: (x ++ [' '])) ++ cutAtBars '|' u := by
        rw [← cutAtBars_append_bar (by simp [List.getLast?_cons])]
        simp
      rw [List.flatMap_cons, hcell, List.map_append, map_trim_cutAtBars hx, ih hxs, List.flatMap_cons,
        List.append_assoc]
  exact congrArg ([] :: ·) (hrest '|')

lemma framed_five (x₁ x₂ x₃ x₄ x₅ : List Char) :
    framed [x₁, x₂, x₃, x₄, x₅] = "| ".toList ++ (x₁ ++ (" | ".toList ++ (x₂ ++ (" | ".toList ++ (x₃ ++
      (" | ".toList ++ (x₄ ++ (" | ".toList ++ (x₅ ++ " |".toList))))))))) := by
  simp only [framed, List.flatMap_cons, List.flatMap_nil, List.append_assoc, List.cons_append, List.nil_append,
    List.append_nil]
  rfl

lemma toList_row (m : Measurement) : (row m).toList = framed ((fields m).map String.toList) := by
  have hfields := framed_five m.name.toList m.timeNs.toNat.repr.toList m.varianceNs.toNat.repr.toList
    (Layout.table.write m.timeUs).toList (Layout.table.write m.timeMs).toList
  refine Eq.trans ?_ hfields.symm
  rw [row]
  simp only [String.toList_append, List.append_assoc]

lemma isVisible_fields (h : m.IsVisible) : ∀ x ∈ (fields m).map String.toList, ∀ c ∈ x, isVisible c = true := by
  have hdigit {c : Char} (hc : c.isDigit = true) : isVisible c = true := isVisible_of_isNumeral (by simp [isNumeral, hc])
  have hnumber (n : ℕ) : ∀ c ∈ n.repr.toList, isVisible c = true := by
    rw [Nat.toList_repr]
    exact fun c hc => hdigit (Numeral.isDigit_of_mem_toDigits hc)
  have hnumeral (x : Binary64) : ∀ c ∈ (Layout.table.write x).toList, isVisible c = true := by
    intro c hc
    rcases isDigit_or_point_of_mem_numeral hc with hd | rfl
    · exact hdigit hd
    · rfl
  simp only [fields, List.map_cons, List.map_nil, List.forall_mem_cons]
  exact ⟨h, hnumber _, hnumber _, hnumeral _, hnumeral _, List.forall_mem_nil _⟩

lemma cells_row (h : m.IsVisible) : cells (row m) = (fields m).flatMap pieces := by
  rw [cells, toList_row, map_trim_framed (isVisible_fields h), unframed_frame, List.map_flatMap, List.flatMap_map]
  rfl

lemma pieces_eq_singleton_iff {text : String} :
    pieces text = [text] ↔ ∀ u v, text.toList = u ++ '|' :: v → u.getLast? = some '\\' := by
  have hpieces : pieces text = [text] ↔ cutAtBars ' ' text.toList = [text.toList] := by
    rw [pieces, List.map_eq_singleton_iff]
    constructor
    · rintro ⟨s, hs, rfl⟩
      rw [hs, String.toList_ofList]
    · exact fun hs => ⟨_, hs, String.ofList_toList⟩
  have hlast (u : List Char) : u.getLast?.getD ' ' = '\\' ↔ u.getLast? = some '\\' := by
    cases u.getLast? <;> simp
  simp only [hpieces, cutAtBars_eq_singleton_iff, hlast]

lemma pieces_of_not_mem {text : String} (h : '|' ∉ text.toList) : pieces text = [text] := by
  apply pieces_eq_singleton_iff.mpr
  intro u v he
  exact absurd (by simp [he]) h

lemma cells_row_eq (h : m.IsVisible) : cells (row m) = pieces m.name ++ (fields m).tail := by
  have hnumber (n : ℕ) : pieces n.repr = [n.repr] := pieces_of_not_mem (Nat.toList_repr ▸ not_mem_toDigits rfl)
  have hnumeral (x : Binary64) : pieces (Layout.table.write x) = [Layout.table.write x] :=
    pieces_of_not_mem (not_mem_numeral rfl (by decide))
  rw [cells_row h]
  simp only [fields, List.flatMap_cons, List.flatMap_nil, hnumber, hnumeral, List.tail_cons]
  rfl

lemma cells_row_eq_fields_iff (h : m.IsVisible) :
    cells (row m) = fields m ↔ ∀ u v, m.name.toList = u ++ '|' :: v → u.getLast? = some '\\' := by
  have hfields : fields m = [m.name] ++ (fields m).tail := rfl
  rw [cells_row_eq h, ← pieces_eq_singleton_iff]
  constructor
  · intro he
    rw [hfields] at he
    exact List.append_cancel_right he
  · intro he
    rw [he]
    rfl

lemma getElem?_lines (hms : ∀ m ∈ ms, m.IsVisible) (t : Instant) (i : Fin ms.length) :
    (BenchReport.lines (write ms t))[6 + i.val]? = some (row ms[i]) := by
  have hlines : BenchReport.lines (write ms t) = lines ms t ++ [""] := lines_ended (not_mem_lines t hms)
  rw [hlines, lines, List.append_assoc, List.append_assoc, List.getElem?_append_right (by simp),
    List.getElem?_append_left (by simp)]
  simp

end Rows

/-- The line of a record has the pieces of its name for cells, and the four numbers. Those are the record's five
fields unless a bar in the name is not right behind a backslash. -/
theorem record_cells (text : String) (t : Instant) (i : Fin (extract text).length) :
    ∃ line, (BenchReport.lines (write (extract text) t))[6 + i.val]? = some line ∧
      cells line = pieces (extract text)[i].name ++ (fields (extract text)[i]).tail ∧
      (cells line = fields (extract text)[i] ↔
        ∀ u v, (extract text)[i].name.toList = u ++ '|' :: v → u.getLast? = some '\\') := by
  have hvisible : ∀ m ∈ extract text, m.IsVisible := fun _ => isVisible_of_mem_extract
  have hi : (extract text)[i].IsVisible := hvisible _ (List.getElem_mem i.isLt)
  exact ⟨_, getElem?_lines hvisible t i, cells_row_eq hi, cells_row_eq_fields_iff hi⟩

example : cells "| a\\|b | 1 | 2 | 0.001 | 0.000001 |" = ["a\\|b", "1", "2", "0.001", "0.000001"] := by decide +kernel

theorem six_cells :
    extract "test a|b ... bench: 1 ns/iter (+/- 2)" = [⟨"a|b", 1, 2⟩] ∧
      fields ⟨"a|b", 1, 2⟩ = ["a|b", "1", "2", "0.001", "0.000001"] ∧
      (BenchReport.lines (write (extract "test a|b ... bench: 1 ns/iter (+/- 2)") ⟨0, 0⟩))[6]?.map cells =
        some ["a", "b", "1", "2", "0.001", "0.000001"] := by
  have hm : extract "test a|b ... bench: 1 ns/iter (+/- 2)" = [⟨"a|b", 1, 2⟩] := by decide +kernel
  have hfields : fields ⟨"a|b", 1, 2⟩ = ["a|b", "1", "2", "0.001", "0.000001"] := by decide +kernel
  have hvisible : ∀ m ∈ [(⟨"a|b", 1, 2⟩ : Measurement)], m.IsVisible := by
    rw [← hm]
    exact fun _ => isVisible_of_mem_extract
  have hline := getElem?_lines hvisible ⟨0, 0⟩ 0
  have hcells := cells_row_eq (hvisible _ (List.mem_singleton_self _))
  rw [hfields] at hcells
  refine ⟨hm, hfields, ?_⟩
  rw [hm]
  exact (congrArg (Option.map cells) hline).trans (congrArg some hcells)

end Table

end BenchReport
