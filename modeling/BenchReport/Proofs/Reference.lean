import BenchReport.Proofs.Scan

/-! Results read without going back: every run is as long as it can be, and the numerals are those of the
last mark on the line that has all of a tail behind it. -/

namespace BenchReport

open Text

namespace ResultLine

variable {c : Char} {s r : List Char} {k : ℕ}

lemma toNat_of_isDigit (hc : c.isDigit = true) : 48 ≤ c.toNat ∧ c.toNat ≤ 57 := by
  simp only [Char.isDigit, Bool.and_eq_true, decide_eq_true_eq, ge_iff_le, UInt32.le_iff_toNat_le] at hc
  exact hc

lemma not_isBlank_of_isNumeral (hc : isNumeral c = true) : isBlank c = false := by
  have hn : (48 ≤ c.toNat ∧ c.toNat ≤ 57) ∨ c.toNat = 44 := by
    rcases Bool.or_eq_true _ _ ▸ hc with hd | hd
    · exact Or.inl (toNat_of_isDigit hd)
    · obtain rfl := beq_iff_eq.mp hd
      exact Or.inr rfl
  simp only [isBlank, Bool.or_eq_false_iff, Bool.and_eq_false_iff, decide_eq_false_iff_not,
    beq_eq_false_iff_ne]
  omega

lemma not_isNumeral_of_isBlank (hc : isBlank c = true) : isNumeral c = false := by
  by_contra hn
  have hb := not_isBlank_of_isNumeral (Bool.not_eq_false _ ▸ hn)
  simp [hb] at hc

lemma isVisible_of_isNumeral (hc : isNumeral c = true) : isVisible c = true := by
  rw [isVisible, not_isBlank_of_isNumeral hc]
  rfl

lemma isInLine_of_isVisible (hc : isVisible c = true) : isInLine c = true := by
  have hne : c ≠ '\n' := by
    rintro rfl
    exact absurd hc (by decide)
  simp [isInLine, hne]

lemma isInLine_of_isNumeral (hc : isNumeral c = true) : isInLine c = true :=
  isInLine_of_isVisible (isVisible_of_isNumeral hc)

lemma rejects_tail {p : Char → Bool} (hb : p 'b' = false) : Pattern.Rejects p tail :=
  Pattern.rejects_word hb

lemma eager_tail : Pattern.Eager tail [] := by
  refine ⟨trivial, ?_, ?_, ?_, trivial, ?_, trivial, ?_, ?_, trivial, trivial⟩
  · exact (Pattern.rejects_field fun _ => not_isNumeral_of_isBlank).eager
  · exact (Pattern.rejects_run fun _ => not_isBlank_of_isNumeral).eager
  · exact (Pattern.rejects_word (by decide)).eager
  · exact (Pattern.rejects_word (by decide)).eager
  · exact (Pattern.rejects_field fun _ => not_isNumeral_of_isBlank).eager
  · exact (Pattern.rejects_word (by decide)).eager

lemma eager_head : Pattern.Eager head (.filler isInLine :: tail) := by
  refine ⟨trivial, ?_, ?_, ?_, trivial⟩
  · exact (Pattern.rejects_field fun _ hc => by simp [isVisible, hc]).eager
  · exact (Pattern.rejects_run fun _ hc => by simpa [isVisible] using hc).eager
  · exact (rejects_tail (by decide)).eager_filler

lemma pattern_induction {motive : Pattern → Prop} (nil : motive [])
    (cons : ∀ i ∈ head ++ tail, ∀ is, i.Eager is → motive is → motive (i :: is))
    (filler : motive tail → motive (.filler isInLine :: tail)) : motive pattern := by
  have htail : motive tail := by
    rw [← List.append_nil tail]
    exact eager_tail.append_induction (fun i hi => cons i (List.mem_append_right head hi)) nil
  rw [pattern_eq]
  exact eager_head.append_induction (fun i hi => cons i (List.mem_append_left tail hi)) (filler htail)

lemma matchAt_tail_of_stop (s : List Char) (hs : ∀ c ∈ s.head?, isInLine c = false) :
    tail.matchAt s = none := by
  cases s with
  | nil => rfl
  | cons c s => exact rejects_tail (p := fun d => !isInLine d) (by decide) c s (by simp [hs c rfl])

/-- The name of a result, then the last of its marks, then the numerals behind that. -/
def reference? (s : List Char) : Option (List (List Char) × ℕ) := do
  let (name, n) ← head.longest? s
  let k ← (Pattern.marks isInLine tail (s.drop n)).getLast?
  let (numerals, m) ← tail.longest? ((s.drop n).drop k)
  return (name ++ numerals, n + (k + m))

lemma matchAt_pattern (s : List Char) : pattern.matchAt s = reference? s := by
  rw [pattern_eq, Pattern.matchAt_append_of_eager eager_head, reference?]
  cases head.longest? s with
  | none => rfl
  | some name =>
    rw [Option.bind_some, Pattern.matchAt_filler eager_tail matchAt_tail_of_stop]
    simp only [Option.bind_eq_bind, Option.bind_some]
    cases (Pattern.marks isInLine tail (s.drop name.2)).getLast? with
    | none => rfl
    | some k =>
      simp only [Option.bind_some]
      cases tail.longest? ((s.drop name.2).drop k) <;> rfl

lemma longest?_tail (t : Tail) (r : List Char) :
    tail.longest? (t.text ++ r) = some (t.reported, t.text.length) := by
  delta Tail.text
  simp only [List.append_assoc]
  rw [tail, Pattern.longest?_word,
    Pattern.longest?_run _ (t.time.head?_append (fun _ => not_isBlank_of_isNumeral) _),
    Pattern.longest?_field _ (t.timeGap.head?_append (fun _ => not_isNumeral_of_isBlank) _),
    Pattern.longest?_run _ (Pattern.head?_word (by decide) (by decide) _), Pattern.longest?_word,
    Pattern.longest?_run _ (Pattern.head?_word (by decide) (by decide) _), Pattern.longest?_word,
    Pattern.longest?_run _ (t.variance.head?_append (fun _ => not_isBlank_of_isNumeral) _),
    Pattern.longest?_field _ (Pattern.head?_word (by decide) (by decide) _), Pattern.longest?_word]
  simp [Pattern.longest?, Pattern.after, Item.reported, Tail.reported]
  omega

lemma longest?_head (f : Form) (hs : ∀ c ∈ s.head?, isBlank c = false) :
    head.longest? (f.opening ++ s) = some ([f.name.chars], f.opening.length) := by
  have hv : ∀ c, isVisible c = true → isBlank c = false := fun c hc => by simpa [isVisible] using hc
  have hb : ∀ c, isBlank c = true → isVisible c = false := fun c hc => by simp [isVisible, hc]
  delta Form.opening
  simp only [List.append_assoc]
  rw [head, Pattern.longest?_word, Pattern.longest?_run _ (f.name.head?_append hv _),
    Pattern.longest?_field _ (f.gap.head?_append hb _), Pattern.longest?_run _ hs]
  simp [Pattern.longest?, Pattern.after, Item.reported]
  omega

lemma mem_marks_iff :
    k ∈ Pattern.marks isInLine tail s ↔
      k < (s.takeWhile isInLine).length ∧ ∃ (t : Tail) (r : List Char), s.drop k = t.text ++ r := by
  rw [Pattern.mem_marks, ← Pattern.matchAt_of_eager eager_tail, Pattern.matchAt_isSome_iff]
  apply and_congr_right
  intro _
  constructor
  · rintro ⟨w, r, fs, hs, ht⟩
    obtain ⟨t, rfl, -⟩ := takes_tail_iff.mp ht
    exact ⟨t, r, hs⟩
  · rintro ⟨t, r, hs⟩
    exact ⟨t.text, r, t.reported, hs, takes_tail_iff.mpr ⟨t, rfl, rfl⟩⟩

lemma Tail.not_mem_tail_text (t : Tail) : 'b' ∉ t.text.tail := by
  change 'b' ∉ "ench:".toList ++ (t.lead.chars ++ (t.time.chars ++ (t.timeGap.chars ++ ("ns/iter".toList ++
    (t.unitGap.chars ++ ("(+/-".toList ++ (t.signGap.chars ++ (t.variance.chars ++ ")".toList))))))))
  simp only [List.mem_append, not_or]
  refine ⟨by decide, ?_, ?_, ?_, by decide, ?_, by decide, ?_, ?_, by decide⟩
  all_goals exact Run.not_mem _ (by decide)

namespace Form

def rest (f : Form) (r : List Char) : List Char := f.filler ++ (f.tail.text ++ r)

/-- No character of the filler could belong to the gap, and no later mark on the line has a tail. -/
structure IsLongest (f : Form) (r : List Char) : Prop where
  gap : ∀ c ∈ (f.rest r).head?, isBlank c = false
  last : ∀ k < ((f.rest r).takeWhile isInLine).length, ∀ (t : Tail) (u : List Char),
    (f.rest r).drop k = t.text ++ u → k ≤ f.filler.length

lemma text_append (f : Form) (r : List Char) : f.text ++ r = f.opening ++ f.rest r := by
  rw [f.text_eq_append, rest, List.append_assoc, List.append_assoc]

lemma mem_marks_rest (f : Form) (r : List Char) :
    f.filler.length ∈ Pattern.marks isInLine ResultLine.tail (f.rest r) := by
  rw [mem_marks_iff, rest, List.takeWhile_append_of_pos f.inLine, List.length_append, List.drop_left]
  refine ⟨Nat.lt_add_of_pos_right (List.length_pos_iff.mpr ?_), f.tail, r, rfl⟩
  rw [f.tail.text_eq_cons, List.cons_append, List.takeWhile_cons_of_pos (by decide)]
  simp

lemma exists_gap (f : Form) (r : List Char) :
    ∃ g : Form, g.text = f.text ∧ ∀ c ∈ (g.rest r).head?, isBlank c = false := by
  have hgap : ∀ c ∈ f.gap.chars ++ f.filler.takeWhile isBlank, isBlank c = true := by
    intro c hc
    rcases List.mem_append.mp hc with hc | hc
    · exact f.gap.all c hc
    · exact List.all_eq_true.mp List.all_takeWhile c hc
  have hne : f.gap.chars ++ f.filler.takeWhile isBlank ≠ [] := by
    simp [f.gap.ne_nil]
  have hin : ∀ c ∈ f.filler.dropWhile isBlank, isInLine c = true :=
    fun c hc => f.inLine c ((List.dropWhile_sublist _).mem hc)
  -- the blanks that the filler begins with go to the gap
  refine ⟨⟨f.lead, f.name, ⟨_, hne, hgap⟩, f.filler.dropWhile isBlank, hin, f.tail⟩, ?_, ?_⟩
  · delta text
    simp only [List.append_assoc]
    rw [← List.append_assoc (f.filler.takeWhile isBlank), List.takeWhile_append_dropWhile]
  · intro c hc
    rw [rest] at hc
    cases hd : f.filler.dropWhile isBlank with
    | nil =>
      simp only [hd, List.nil_append] at hc
      rw [f.tail.text_eq_cons] at hc
      obtain rfl := Option.some.inj hc
      decide
    | cons d u =>
      have hn := List.head?_dropWhile_not isBlank f.filler
      simp only [hd, List.cons_append, List.head?_cons, Option.mem_some_iff] at hn hc
      simpa [hc] using hn

lemma exists_isLongest (f : Form) (r : List Char) :
    ∃ (g : Form) (u : List Char), f.text ++ r = g.text ++ u ∧ g.IsLongest u := by
  obtain ⟨g, htext, hgap⟩ := f.exists_gap r
  obtain ⟨k, hk⟩ := Option.isSome_iff_exists.mp (List.isSome_max?_of_mem (g.mem_marks_rest r))
  obtain ⟨hmem, hmax⟩ := List.max?_eq_some_iff.mp hk
  obtain ⟨hlt, t, u, hd⟩ := mem_marks_iff.mp hmem
  have hle : k ≤ (g.rest r).length :=
    Nat.le_trans (Nat.le_of_lt hlt) (List.takeWhile_prefix isInLine).length_le
  have hin : ∀ c ∈ (g.rest r).take k, isInLine c = true := by
    intro c hc
    rw [← List.takeWhile_append_dropWhile (p := isInLine) (l := g.rest r),
      List.take_append_of_le_length (Nat.le_of_lt hlt)] at hc
    exact List.all_eq_true.mp List.all_takeWhile c (List.mem_of_mem_take hc)
  -- the filler goes on to the last mark of the line, and the tail is the one found there
  let g' : Form := { g with filler := (g.rest r).take k, inLine := hin, tail := t }
  have hrest : g'.rest u = g.rest r := by
    change (g.rest r).take k ++ (t.text ++ u) = g.rest r
    rw [← hd, List.take_append_drop]
  have hlen : g'.filler.length = k := List.length_take_of_le hle
  refine ⟨g', u, ?_, hrest ▸ hgap, ?_⟩
  · rw [← htext, text_append, text_append, hrest]
    rfl
  · intro j hj t' u' hj'
    rw [hrest] at hj hj'
    rw [hlen]
    exact hmax j (mem_marks_iff.mpr ⟨hj, t', u', hj'⟩)

lemma isLongest_of_silent (f : Form) (hr : 'b' ∉ r.takeWhile isInLine)
    (hgap : ∀ c ∈ (f.rest r).head?, isBlank c = false) : f.IsLongest r := by
  refine ⟨hgap, ?_⟩
  intro k hk t u hd
  by_contra hn
  have hrest : f.rest r = (f.filler ++ ['b']) ++ (f.tail.text.tail ++ r) := by
    rw [rest, f.tail.text_eq_cons]
    simp
  have hle : (f.filler ++ ['b']).length ≤ k := by
    rw [List.length_append, List.length_singleton]
    omega
  rw [hrest] at hk hd
  rw [t.text_eq_cons] at hd
  -- a tail begins with a letter that no line holds behind the mark of the form
  have hb := mem_takeWhile_of_drop hle hk hd
  rw [List.takeWhile_append] at hb
  split at hb
  · rcases List.mem_append.mp hb with hm | hm
    · exact f.tail.not_mem_tail_text hm
    · exact hr hm
  · exact f.tail.not_mem_tail_text ((List.takeWhile_prefix isInLine).subset hb)

lemma isLongest_feed (f : Form) (hgap : ∀ c ∈ (f.rest ('\n' :: r)).head?, isBlank c = false) :
    f.IsLongest ('\n' :: r) :=
  f.isLongest_of_silent (by simp [isInLine]) hgap

end Form

lemma reference?_form {f : Form} (hf : f.IsLongest r) :
    reference? (f.text ++ r) = some (f.reported, f.text.length) := by
  have hlast : ∀ k ∈ Pattern.marks isInLine tail (f.rest r), k ≤ f.filler.length := by
    intro k hk
    obtain ⟨hlt, t, u, hd⟩ := mem_marks_iff.mp hk
    exact hf.last k hlt t u hd
  rw [reference?, f.text_append, longest?_head f hf.gap]
  simp only [Option.bind_eq_bind, Option.bind_some, List.drop_left,
    Pattern.getLast?_marks (f.mem_marks_rest r) hlast]
  rw [Form.rest, List.drop_left, longest?_tail, f.text_eq_append]
  simp only [Option.bind_some, List.length_append]
  rfl

lemma reference?_eq_some_iff {m : List (List Char) × ℕ} :
    reference? s = some m ↔
      ∃ (f : Form) (r : List Char), s = f.text ++ r ∧ f.IsLongest r ∧ m = (f.reported, f.text.length) := by
  constructor
  · intro hm
    rw [← matchAt_pattern] at hm
    obtain ⟨w, r, rfl, ht, -⟩ := Pattern.takes_of_matchAt hm
    obtain ⟨f, rfl, -⟩ := takes_pattern_iff.mp ht
    obtain ⟨g, u, he, hg⟩ := f.exists_isLongest r
    rw [matchAt_pattern, he, reference?_form hg] at hm
    exact ⟨g, u, he, hg, (Option.some.inj hm).symm⟩
  · rintro ⟨f, r, rfl, hf, rfl⟩
    exact reference?_form hf

end ResultLine

namespace Hit

open ResultLine

variable {s : List Char} {p : ℕ} {h : Hit}

def reference? (start : ℕ) (s : List Char) : Option Hit :=
  match ResultLine.reference? s with
  | some ([name, time, variance], length) =>
    some ⟨start, start + length, .ofList name, .ofList time, .ofList variance⟩
  | _ => none

lemma at?_eq_reference? (p : ℕ) (s : List Char) : at? p s = reference? p s := by
  rw [at?, matchAt_pattern]
  rfl

lemma reference?_eq_some_iff :
    reference? p s = some h ↔
      ∃ (f : Form) (r : List Char), s = f.text ++ r ∧ f.IsLongest r ∧ h.start = p ∧ h.Shows f := by
  constructor
  · intro hh
    rw [reference?] at hh
    split at hh
    · next hm =>
      obtain ⟨f, r, hs, hf, he⟩ := ResultLine.reference?_eq_some_iff.mp hm
      simp only [Form.reported, Tail.reported, Prod.mk.injEq, List.cons.injEq] at he
      obtain ⟨⟨rfl, rfl, rfl, -⟩, rfl⟩ := he
      obtain rfl := Option.some.inj hh
      exact ⟨f, r, hs, hf, rfl, rfl, rfl, rfl, rfl⟩
    · simp at hh
  · rintro ⟨f, r, rfl, hf, rfl, hstop, hname, htime, hvariance⟩
    rw [reference?, reference?_form hf]
    simp only [Form.reported, Tail.reported]
    rw [← hname, ← htime, ← hvariance, ← hstop]

/-- Every hit is what reading without going back finds there: the longest form, wherever there is one. -/
theorem all_eq_reference (text : String) :
    (∀ h ∈ all text, reference? h.start (text.toList.drop h.start) = some h) ∧
      (∀ p h, reference? p (text.toList.drop p) = some h ↔
        ∃ (f : Form) (r : List Char),
          text.toList.drop p = f.text ++ r ∧ f.IsLongest r ∧ h.start = p ∧ h.Shows f) ∧
      ∀ p, reference? p (text.toList.drop p) = none ↔
        ∀ (q : ℕ) (f : Form), text.toList.extract p q ≠ f.text := by
  refine ⟨?_, fun _ _ => reference?_eq_some_iff, ?_⟩
  · intro h hh
    rw [all_eq_onward] at hh
    rw [← at?_eq_reference?]
    exact (at?_of_mem_onward hh).2
  · intro p
    rw [← at?_eq_reference?, at?_drop_eq_none_iff]

theorem all_eq_reference_two_marks :
    let text := "test a bench: 1 ns/iter (+/- 2) bench: 3 ns/iter (+/- 4)"
    let hit : Hit := ⟨0, 56, "a", "3", "4"⟩
    hit ∈ all text ∧ reference? 0 text.toList = some hit := by
  have hm : (⟨0, 56, "a", "3", "4"⟩ : Hit) ∈ all "test a bench: 1 ns/iter (+/- 2) bench: 3 ns/iter (+/- 4)" := by
    decide +kernel
  exact ⟨hm, (all_eq_reference _).1 _ hm⟩

end Hit

end BenchReport
