import BenchReport.Proofs.Findings
import BenchReport.Proofs.Reference

namespace BenchReport

open Text ResultLine

def returned (s : List Char) : List Char := s.flatMap fun c => if c = '\n' then ['\r', '\n'] else [c]

def withReturns (text : String) : String := .ofList (returned text.toList)

variable {p q : Char → Bool} {i : Item} {is : Pattern} {c : Char} {s u : List Char}

lemma returned_feed (s : List Char) : returned ('\n' :: s) = '\r' :: '\n' :: returned s := rfl

lemma returned_cons (hc : c ≠ '\n') (s : List Char) : returned (c :: s) = c :: returned s := by
  simp [returned, hc]

lemma returned_append (s t : List Char) : returned (s ++ t) = returned s ++ returned t := List.flatMap_append

lemma returned_of_not_mem (hs : '\n' ∉ s) : returned s = s := by
  induction s with
  | nil => rfl
  | cons c s ih =>
    rw [List.mem_cons, not_or] at hs
    rw [returned_cons (Ne.symm hs.1), ih hs.2]

lemma drop_returned (n : ℕ) (s : List Char) :
    (returned s).drop (returned (s.take n)).length = returned (s.drop n) := by
  have hs := returned_append (s.take n) (s.drop n)
  rw [List.take_append_drop] at hs
  rw [hs, List.drop_left]

lemma takeWhile_returned (hp : p '\r' = p '\n') (s : List Char) :
    (returned s).takeWhile p = returned (s.takeWhile p) := by
  induction s with
  | nil => rfl
  | cons c s ih =>
    by_cases hc : c = '\n'
    · subst hc
      cases hf : p '\n' <;> simp [returned_feed, hp, hf, ih]
      rfl
    · cases hf : p c <;> simp [returned_cons hc, hf, ih]
      rfl

lemma dropWhile_returned (hp : p '\r' = p '\n') (s : List Char) :
    (returned s).dropWhile p = returned (s.dropWhile p) := by
  have hs := returned_append (s.takeWhile p) (s.dropWhile p)
  rw [List.takeWhile_append_dropWhile, ← takeWhile_returned hp] at hs
  apply (List.append_right_inj ((returned s).takeWhile p)).mp
  rw [List.takeWhile_append_dropWhile]
  exact hs

lemma prefix_returned_iff (hf : '\n' ∉ u) (hr : '\r' ∉ u) : u <+: returned s ↔ u <+: s := by
  induction u generalizing s with
  | nil => simp
  | cons d u ih =>
    rw [List.mem_cons, not_or] at hf hr
    cases s with
    | nil => rfl
    | cons c s =>
      by_cases hc : c = '\n'
      · subst hc
        rw [returned_feed, List.cons_prefix_cons, List.cons_prefix_cons]
        exact iff_of_false (fun h => hr.1 h.1.symm) (fun h => hf.1 h.1.symm)
      · rw [returned_cons hc, List.cons_prefix_cons, List.cons_prefix_cons, ih hf.2 hr.2]

namespace Item

/-- An item that takes both characters of a line's end or neither, and reports neither. -/
def EndsAlike : Item → Prop
  | word u => '\n' ∉ u ∧ '\r' ∉ u
  | filler p => p '\r' = p '\n'
  | run p => p '\r' = p '\n'
  | field p => p '\r' = false ∧ p '\n' = false

instance : DecidablePred EndsAlike
  | word u => inferInstanceAs (Decidable ('\n' ∉ u ∧ '\r' ∉ u))
  | filler p => inferInstanceAs (Decidable (p '\r' = p '\n'))
  | run p => inferInstanceAs (Decidable (p '\r' = p '\n'))
  | field p => inferInstanceAs (Decidable (p '\r' = false ∧ p '\n' = false))

lemma longest?_returned (hi : i.EndsAlike) (s : List Char) :
    i.longest? (returned s) = (i.longest? s).map fun x => (returned x.1, returned x.2) := by
  have hrun (p : Char → Bool) (hp : p '\r' = p '\n') :
      (run p).longest? (returned s) = ((run p).longest? s).map fun x => (returned x.1, returned x.2) := by
    have hnil : returned (s.takeWhile p) = [] ↔ s.takeWhile p = [] := by
      cases s.takeWhile p with
      | nil => simp [returned]
      | cons c w => by_cases hc : c = '\n' <;> simp [returned, hc]
    simp only [longest?, takeWhile_returned hp, dropWhile_returned hp, hnil]
    split <;> rfl
  cases i with
  | word u =>
    simp only [longest?, List.isPrefixOf_iff_prefix, prefix_returned_iff hi.1 hi.2]
    split
    · next hu =>
      obtain ⟨t, rfl⟩ := hu
      rw [Option.map_some, List.drop_left, returned_append, returned_of_not_mem hi.1, List.drop_left]
    · rfl
  | filler p => rw [longest?, longest?, takeWhile_returned hi, dropWhile_returned hi, Option.map_some]
  | run p => exact hrun p hi
  | field p => exact hrun p (hi.1.trans hi.2.symm)

lemma reported_returned (hi : i.EndsAlike) {x : List Char × List Char} (hx : i.longest? s = some x) :
    i.reported (returned x.1) = i.reported x.1 := by
  cases i with
  | word u => rfl
  | filler p => rfl
  | run p => rfl
  | field p =>
    simp only [longest?] at hx
    split at hx
    · cases hx
    · obtain rfl := Option.some.inj hx
      have hf : '\n' ∉ s.takeWhile p := by
        intro hm
        have hp := List.all_eq_true.mp List.all_takeWhile _ hm
        rw [hi.2] at hp
        cases hp
      rw [returned_of_not_mem hf]

end Item

namespace Pattern

def lengthened (s : List Char) (m : List (List Char) × ℕ) : List (List Char) × ℕ :=
  (m.1, (returned (s.take m.2)).length)

def EndsAlike (is : Pattern) : Prop := ∀ s, is.matchAt (returned s) = (is.matchAt s).map (lengthened s)

lemma after_lengthened {x : List Char × List Char} (hi : i.EndsAlike) (hx : i.longest? s = some x)
    (m : List (List Char) × ℕ) :
    after i (returned x.1) (lengthened x.2 m) = lengthened s (after i x.1 m) := by
  have htake : s.take (x.1.length + m.2) = x.1 ++ x.2.take m.2 := by
    rw [Item.eq_append_of_longest? hx, List.take_length_add_append]
  rw [lengthened, lengthened, after, after, Item.reported_returned hi hx, htake, returned_append,
    List.length_append]

lemma EndsAlike.cons (h : EndsAlike is) (he : i.Eager is) (hi : i.EndsAlike) : EndsAlike (i :: is) := by
  intro s
  rw [matchAt_cons_of_eager he, matchAt_cons_of_eager he, Item.longest?_returned hi]
  cases hx : i.longest? s with
  | none => rfl
  | some x =>
    simp only [Option.map_some, Option.bind_some, h x.2]
    cases matchAt is x.2 with
    | none => rfl
    | some m => rw [Option.map_some, Option.map_some, Option.map_some, Option.map_some, after_lengthened hi hx]

lemma lengthened_cons (hc : c ≠ '\n') (s : List Char) (m : List (List Char) × ℕ) :
    lengthened (c :: s) (m.1, m.2 + 1) = (m.1, (lengthened s m).2 + 1) := by
  rw [lengthened, lengthened, List.take_succ_cons, returned_cons hc, List.length_cons]

lemma EndsAlike.filler (hq : q '\n' = false) (hf : ∀ s, matchAt is ('\n' :: s) = none)
    (hr : ∀ s, matchAt is ('\r' :: s) = none) (h : EndsAlike is) : EndsAlike (.filler q :: is) := by
  intro s
  induction s with
  | nil =>
    have hnil : matchAt (.filler q :: is) [] = matchAt is [] := by
      cases hm : matchAt is [] <;> simp [matchAt, Item.ends, runEnds, Item.reported, hm]
    change matchAt (.filler q :: is) [] = _
    rw [hnil]
    exact h []
  | cons c s ih =>
    by_cases hc : c = '\n'
    · subst hc
      rw [returned_feed, matchAt_filler_cons, matchAt_filler_cons, matchAt_filler_cons, hq, hf, hf, hr]
      simp
    · rw [returned_cons hc, matchAt_filler_cons, matchAt_filler_cons, ih, ← returned_cons hc, h]
      split
      · rw [Option.map_or, Option.map_map, Option.map_map]
        congr 2
        funext m
        exact (lengthened_cons hc s m).symm
      · rfl

end Pattern

namespace ResultLine

lemma endsAlike_pattern : Pattern.EndsAlike pattern := by
  have hitems : ∀ i ∈ head ++ tail, i.EndsAlike := by decide
  refine pattern_induction (fun s => rfl) (fun i hi is he h => h.cons he (hitems i hi)) ?_
  intro htail
  refine htail.filler (by decide) ?_ ?_
  · exact fun s => rejects_tail (p := fun c => c == '\n') (by decide) _ s (by decide)
  · exact fun s => rejects_tail (p := fun c => c == '\r') (by decide) _ s (by decide)

end ResultLine

namespace Hit

lemma at?_returned (p : ℕ) (s : List Char) :
    at? p (returned s) =
      (at? p s).map fun h => { h with stop := p + (returned (s.take (h.stop - p))).length } := by
  rw [at?, at?, endsAlike_pattern]
  cases hm : pattern.matchAt s with
  | none => rfl
  | some m =>
    obtain ⟨fs, n⟩ := m
    rw [Option.map_some, Pattern.lengthened]
    split
    · next he =>
      obtain ⟨rfl, rfl⟩ := Prod.mk.inj (Option.some.inj he)
      simp
    · next hne =>
      split
      · next he =>
        obtain ⟨rfl, rfl⟩ := Prod.mk.inj (Option.some.inj he)
        exact absurd rfl (hne _ _ _ _)
      · rfl

end Hit

namespace Finding

lemma all_returned (s : List Char) : all (.ofList (returned s)) = all (.ofList s) := by
  induction s using text_induction with
  | nil => rfl
  | pass c s hn ih =>
    by_cases hc : c = '\n'
    · subst hc
      rw [returned_feed, all_of_none (Hit.at?_cons_eq_none (by decide)),
        all_of_none (Hit.at?_cons_eq_none (by decide)), all_of_none hn, ih]
    · have hr : Hit.at? 0 (c :: returned s) = none := by
        rw [← returned_cons hc, Hit.at?_returned, hn, Option.map_none]
      rw [returned_cons hc, all_of_none hr, all_of_none hn, ih]
  | hit s h hh ih =>
    have hr := Hit.at?_returned 0 s
    rw [hh, Option.map_some] at hr
    rw [all_of_some hr, all_of_some hh]
    simp only [Nat.zero_add, Nat.sub_zero, drop_returned, ih]
    rfl

theorem all_withReturns (text : String) :
    all (withReturns text) = all text ∧
      Measurement.extract (withReturns text) = Measurement.extract text := by
  have hall : all (withReturns text) = all text := by
    rw [withReturns, all_returned, String.ofList_toList]
  refine ⟨hall, ?_⟩
  rw [Measurement.extract, Measurement.extract, hall]

example : withReturns "a\nb\r\n" = "a\r\nb\r\r\n" := by decide +kernel

end Finding

end BenchReport
