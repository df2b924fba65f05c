import BenchReport.Proofs.PatternLanguage

/-! Patterns that are read without going back, each repetition taking all that it can, and fillers that
stop at the last place from which the rest can be read. -/

namespace BenchReport

variable {p q : Char → Bool} {i : Item} {is js : Pattern} {c d : Char} {s t r w u : List Char}

namespace Run

lemma takeWhile_append (a : Run p) (hs : ∀ c ∈ s.head?, p c = false) :
    (a.chars ++ s).takeWhile p = a.chars := by
  rw [List.takeWhile_append_of_pos a.all]
  cases s with
  | nil => simp
  | cons c s => simp [hs c rfl]

lemma dropWhile_append (a : Run p) (hs : ∀ c ∈ s.head?, p c = false) :
    (a.chars ++ s).dropWhile p = s := by
  rw [List.dropWhile_append_of_pos a.all]
  cases s with
  | nil => rfl
  | cons c s => simp [hs c rfl]

lemma head?_append (a : Run p) (hq : ∀ c, p c = true → q c = false) (s : List Char) :
    ∀ c ∈ (a.chars ++ s).head?, q c = false := by
  obtain ⟨d, w, hw⟩ := List.exists_cons_of_ne_nil a.ne_nil
  intro c hc
  rw [hw] at hc
  obtain rfl := Option.some.inj hc
  exact hq _ (a.all _ (by simp [hw]))

lemma not_mem (a : Run p) (hc : p c = false) : c ∉ a.chars := by
  intro hm
  simp [a.all c hm] at hc

end Run

lemma mem_takeWhile_of_drop {k : ℕ} (hu : u.length ≤ k) (hk : k < ((u ++ s).takeWhile p).length)
    (hd : (u ++ s).drop k = c :: t) : c ∈ s.takeWhile p := by
  rw [List.takeWhile_append] at hk
  split at hk
  · obtain ⟨j, rfl⟩ := Nat.exists_eq_add_of_le hu
    have hj : j < (s.takeWhile p).length := by
      rw [List.length_append] at hk
      omega
    rw [List.drop_length_add_append, ← List.takeWhile_append_dropWhile (p := p) (l := s),
      List.drop_append_of_le_length (Nat.le_of_lt hj), List.drop_eq_getElem_cons hj] at hd
    exact (List.cons.inj hd).1 ▸ List.getElem_mem hj
  · have hle := (List.takeWhile_prefix p (l := u)).length_le
    omega

lemma prefix_of_prefix_append_cons (hc : c ∉ u) (h : u <+: s ++ c :: t) : u <+: s := by
  have hs : s ++ [c] <+: s ++ c :: t := ⟨t, by simp⟩
  rcases List.prefix_or_prefix_of_prefix h hs with hu | hu
  · rcases List.prefix_concat_iff.mp hu with rfl | hu
    · simp at hc
    · exact hu
  · exact absurd (hu.subset (by simp)) hc

namespace Item

def longest? : Item → List Char → Option (List Char × List Char)
  | word u, s => if u.isPrefixOf s then some (u, s.drop u.length) else none
  | filler p, s => some (s.takeWhile p, s.dropWhile p)
  | run p, s => if s.takeWhile p = [] then none else some (s.takeWhile p, s.dropWhile p)
  | field p, s => if s.takeWhile p = [] then none else some (s.takeWhile p, s.dropWhile p)

lemma eq_append_of_longest? {x : List Char × List Char} (h : i.longest? s = some x) : s = x.1 ++ x.2 := by
  cases i with
  | word u =>
    simp only [longest?] at h
    split at h
    · next hu =>
      obtain ⟨v, rfl⟩ := List.isPrefixOf_iff_prefix.mp hu
      obtain rfl := Option.some.inj h
      simp
    · simp at h
  | filler p =>
    obtain rfl := Option.some.inj h
    simp
  | run p | field p =>
    simp only [longest?] at h
    split at h
    · simp at h
    · obtain rfl := Option.some.inj h
      simp

lemma cuts_filler_longest (p : Char → Bool) (s : List Char) :
    ∃ shorter, (filler p).cuts s = (s.takeWhile p, s.dropWhile p) :: shorter ∧
      ∀ x ∈ shorter, ∃ w, (∀ c ∈ w, p c = true) ∧ x.2 = w ++ s.dropWhile p := by
  induction s with
  | nil => exact ⟨[], rfl, by simp⟩
  | cons c s ih =>
    obtain ⟨shorter, he, hx⟩ := ih
    rw [cuts_filler_cons]
    by_cases hc : p c
    · refine ⟨shorter.map (fun x => (c :: x.1, x.2)) ++ [([], c :: s)], by simp [hc, he], ?_⟩
      intro x hm
      rcases List.mem_append.mp hm with hm | hm
      · obtain ⟨y, hy, rfl⟩ := List.mem_map.mp hm
        simpa [hc] using hx y hy
      · obtain rfl := List.mem_singleton.mp hm
        refine ⟨c :: s.takeWhile p, ?_, by simp [hc]⟩
        intro d hd
        rcases List.mem_cons.mp hd with rfl | hd
        · exact hc
        · exact List.all_eq_true.mp List.all_takeWhile d hd
    · exact ⟨[], by simp [hc], by simp⟩

/-- One more character for the item in front never makes the rest of the pattern match. -/
def Eager : Item → Pattern → Prop
  | word _, _ => True
  | filler p, is => ∀ c s, p c = true → is.matchAt s = none → is.matchAt (c :: s) = none
  | run p, is => ∀ c s, p c = true → is.matchAt s = none → is.matchAt (c :: s) = none
  | field p, is => ∀ c s, p c = true → is.matchAt s = none → is.matchAt (c :: s) = none

end Item

namespace Pattern

lemma matchAt_append_eq_none (h : (Item.filler p).Eager is) (hw : ∀ c ∈ w, p c = true)
    (hs : matchAt is s = none) : matchAt is (w ++ s) = none := by
  induction w with
  | nil => exact hs
  | cons c w ih => exact h c _ (hw c (by simp)) (ih fun d hd => hw d (by simp [hd]))

lemma findSome?_longest {α : Type} (h : (Item.filler p).Eager is)
    (f : List Char → List (List Char) × ℕ → α) :
    ((Item.filler p).cuts s).findSome? (fun x => (matchAt is x.2).map (f x.1)) =
      (matchAt is (s.dropWhile p)).map (f (s.takeWhile p)) := by
  obtain ⟨shorter, he, hx⟩ := Item.cuts_filler_longest p s
  rw [he, List.findSome?_cons]
  cases hm : matchAt is (s.dropWhile p) with
  | some m => simp
  | none =>
    simp only [Option.map_none]
    apply List.findSome?_eq_none_iff.mpr
    intro x hm'
    obtain ⟨w, hw, he⟩ := hx x hm'
    rw [he, matchAt_append_eq_none h hw hm, Option.map_none]

lemma matchAt_cons_of_eager (h : i.Eager is) (s : List Char) :
    matchAt (i :: is) s = (i.longest? s).bind fun x => (matchAt is x.2).map (after i x.1) := by
  have hrun (p : Char → Bool) (hp : (Item.filler p).Eager is)
      (f : List Char → List (List Char) × ℕ → List (List Char) × ℕ) :
      ((Item.run p).cuts s).findSome? (fun x => (matchAt is x.2).map (f x.1)) =
        ((Item.run p).longest? s).bind fun x => (matchAt is x.2).map (f x.1) := by
    cases s with
    | nil => rfl
    | cons c s =>
      rw [Item.cuts_run_cons, Item.longest?]
      by_cases hc : p c
      · simpa [hc, List.findSome?_map, Function.comp_def] using
          findSome?_longest (s := s) hp fun w => f (c :: w)
      · simp [hc]
  rw [matchAt_cons]
  cases i with
  | word u =>
    by_cases hu : u <+: s
    · obtain ⟨v, rfl⟩ := hu
      simp [Item.cuts, Item.ends, Item.longest?]
    · simp [Item.cuts, Item.ends, Item.longest?, hu]
  | filler p => exact findSome?_longest h _
  | run p => exact hrun p h _
  | field p =>
    rw [Item.cuts_field]
    exact hrun p h _

def longest? : Pattern → List Char → Option (List (List Char) × ℕ)
  | [], _ => some ([], 0)
  | i :: is, s => (i.longest? s).bind fun x => (longest? is x.2).map (after i x.1)

def Eager : Pattern → Pattern → Prop
  | [], _ => True
  | i :: is, js => i.Eager (is ++ js) ∧ Eager is js

lemma matchAt_append_of_eager (h : Eager is js) (s : List Char) :
    matchAt (is ++ js) s = (longest? is s).bind fun m =>
      (matchAt js (s.drop m.2)).map fun k => (m.1 ++ k.1, m.2 + k.2) := by
  induction is generalizing s with
  | nil => simp [longest?]
  | cons i is ih =>
    rw [List.cons_append, matchAt_cons_of_eager h.1, longest?]
    cases hx : i.longest? s with
    | none => rfl
    | some x =>
      have hs : s = x.1 ++ x.2 := Item.eq_append_of_longest? hx
      rw [Option.bind_some, Option.bind_some, ih h.2 x.2]
      cases longest? is x.2 with
      | none => rfl
      | some m =>
        have hd : s.drop (x.1.length + m.2) = x.2.drop m.2 := by
          rw [← List.drop_drop, hs, List.drop_left]
        simp [after, hd, Function.comp_def, Nat.add_assoc]

lemma matchAt_of_eager (h : Eager is []) (s : List Char) : matchAt is s = longest? is s := by
  have hh := matchAt_append_of_eager h s
  rw [List.append_nil] at hh
  rw [hh]
  cases longest? is s <;> simp [matchAt]

lemma Eager.append_induction {motive : Pattern → Prop} (h : Eager is js)
    (cons : ∀ i ∈ is, ∀ ks, i.Eager ks → motive ks → motive (i :: ks)) (hjs : motive js) : motive (is ++ js) := by
  induction is with
  | nil => exact hjs
  | cons i is ih =>
    rw [List.forall_mem_cons] at cons
    exact cons.1 _ h.1 (ih h.2 cons.2)

def Rejects (p : Char → Bool) (is : Pattern) : Prop :=
  ∀ c s, p c = true → matchAt is (c :: s) = none

lemma rejects_word (hd : p d = false) : Rejects p (.word (d :: u) :: is) := by
  intro c s hc
  have hne : (d == c) = false := by
    rw [beq_eq_false_iff_ne]
    rintro rfl
    simp [hd] at hc
  simp [matchAt, Item.ends, List.isPrefixOf, hne]

lemma rejects_run (hq : ∀ c, p c = true → q c = false) : Rejects p (.run q :: is) := by
  intro c s hc
  simp [matchAt, Item.ends, hq c hc]

lemma rejects_field (hq : ∀ c, p c = true → q c = false) : Rejects p (.field q :: is) := by
  intro c s hc
  simp [matchAt, Item.ends, hq c hc]

lemma Rejects.eager (h : Rejects p is) : (Item.run p).Eager is :=
  fun c s hc _ => h c s hc

lemma matchAt_filler_cons (q : Char → Bool) (is : Pattern) (c : Char) (s : List Char) :
    matchAt (.filler q :: is) (c :: s) =
      if q c then ((matchAt (.filler q :: is) s).map fun m => (m.1, m.2 + 1)).or (matchAt is (c :: s))
      else matchAt is (c :: s) := by
  have hafter : after (.filler q) [] = id := by
    funext m
    simp [after, Item.reported]
  rw [matchAt_cons, Item.cuts_filler_cons]
  by_cases hc : q c
  · have hstep (w : List Char) :
        after (.filler q) (c :: w) = (fun m => (m.1, m.2 + 1)) ∘ after (.filler q) w := by
      funext m
      simp [after, Item.reported, Nat.add_right_comm]
    rw [matchAt_cons, List.map_findSome?]
    simp [hc, List.findSome?_append, List.findSome?_map, Function.comp_def, hafter, hstep]
  · simp [hc, hafter]

lemma Rejects.eager_filler (h : Rejects p is) : (Item.run p).Eager (.filler q :: is) := by
  intro c s hc hs
  rw [matchAt_filler_cons, hs, h c s hc]
  simp

/-- The places up to the end of a filler from which the rest of the pattern can be read. -/
def marks (q : Char → Bool) (is : Pattern) (s : List Char) : List ℕ :=
  (List.range (s.takeWhile q).length).filter fun k => (longest? is (s.drop k)).isSome

lemma marks_cons (hc : q c = true) :
    marks q is (c :: s) =
      (if (longest? is (c :: s)).isSome then [0] else []) ++ (marks q is s).map (· + 1) := by
  simp only [marks, List.takeWhile_cons_of_pos hc, List.length_cons, List.range_succ_eq_map,
    List.filter_cons, List.filter_map, List.drop_zero]
  split <;> rfl

lemma matchAt_filler (he : Eager is []) (hstop : ∀ s, (∀ c ∈ s.head?, q c = false) → matchAt is s = none)
    (s : List Char) :
    matchAt (.filler q :: is) s = (marks q is s).getLast?.bind fun k =>
      (longest? is (s.drop k)).map fun m => (m.1, k + m.2) := by
  induction s with
  | nil =>
    have hn := hstop [] (by simp)
    simp [matchAt, Item.ends, runEnds, marks, hn]
  | cons c s ih =>
    rw [matchAt_filler_cons]
    by_cases hc : q c
    · rw [if_pos hc, ih, marks_cons hc, List.getLast?_append, matchAt_of_eager he,
        List.getLast?_map]
      cases hk : (marks q is s).getLast? with
      | none => cases hl : longest? is (c :: s) <;> simp [hl]
      | some k =>
        have hm := (List.mem_filter.mp (List.mem_of_getLast? hk)).2
        obtain ⟨m, hm⟩ := Option.isSome_iff_exists.mp hm
        simp [hm, Nat.add_right_comm]
    · have hn := hstop (c :: s) (by simpa using hc)
      simp [marks, hc, hn]

lemma mem_marks {k : ℕ} :
    k ∈ marks q is s ↔ k < (s.takeWhile q).length ∧ (longest? is (s.drop k)).isSome := by
  rw [marks, List.mem_filter, List.mem_range]

lemma getLast?_marks {k : ℕ} (hk : k ∈ marks q is s) (hlast : ∀ j ∈ marks q is s, j ≤ k) :
    (marks q is s).getLast? = some k := by
  have hs : (marks q is s).Pairwise (· < ·) := List.pairwise_lt_range.filter _
  cases hx : (marks q is s).getLast? with
  | none => simp [List.getLast?_eq_none_iff.mp hx] at hk
  | some x =>
    have hle := hlast x (List.mem_of_getLast? hx)
    obtain ⟨before, he⟩ := List.getLast?_eq_some_iff.mp hx
    rw [he] at hk hs
    rcases List.mem_append.mp hk with hk | hk
    · have hlt := (List.pairwise_append.mp hs).2.2 k hk x (by simp)
      omega
    · rw [List.mem_singleton.mp hk]

lemma head?_word (hu : u.head?.all (fun c => !p c) = true) (hn : u ≠ []) (s : List Char) :
    ∀ c ∈ (u ++ s).head?, p c = false := by
  obtain ⟨d, v, rfl⟩ := List.exists_cons_of_ne_nil hn
  intro c hc
  obtain rfl := Option.some.inj hc
  simpa using hu

lemma longest?_word (u s : List Char) :
    longest? (.word u :: is) (u ++ s) = (longest? is s).map (after (.word u) u) := by
  simp [longest?, Item.longest?]

lemma longest?_run (a : Run p) (hs : ∀ c ∈ s.head?, p c = false) :
    longest? (.run p :: is) (a.chars ++ s) = (longest? is s).map (after (.run p) a.chars) := by
  rw [longest?, Item.longest?, a.takeWhile_append hs, a.dropWhile_append hs, if_neg a.ne_nil,
    Option.bind_some]

lemma longest?_field (a : Run p) (hs : ∀ c ∈ s.head?, p c = false) :
    longest? (.field p :: is) (a.chars ++ s) = (longest? is s).map (after (.field p) a.chars) := by
  rw [longest?, Item.longest?, a.takeWhile_append hs, a.dropWhile_append hs, if_neg a.ne_nil,
    Option.bind_some]

end Pattern

end BenchReport
