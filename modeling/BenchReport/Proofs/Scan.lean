import BenchReport.Proofs.ResultForm

/-! The scan of a text: its hits are the results of the text, leftmost first, one behind the other. -/

namespace BenchReport

open ResultLine

namespace Hit

variable {s : List Char} {p q : ℕ} {h : Hit}

def onward (s : List Char) (p : ℕ) : List Hit := allFrom p 0 (s.drop p)

lemma all_eq_onward (text : String) : all text = onward text.toList 0 := rfl

lemma allFrom_skip (p k : ℕ) (s : List Char) : allFrom p k s = allFrom (p + k) 0 (s.drop k) := by
  induction s generalizing p k with
  | nil => simp [allFrom]
  | cons c s ih =>
    cases k with
    | zero => rfl
    | succ k =>
      rw [allFrom, ih]
      simp [Nat.add_assoc, Nat.add_comm 1 k]

structure Shows (h : Hit) (f : Form) : Prop where
  stop : h.stop = h.start + f.text.length
  name : h.name = .ofList f.name.chars
  time : h.time = .ofList f.tail.time.chars
  variance : h.variance = .ofList f.tail.variance.chars

lemma shows_of_at? (hh : at? p s = some h) :
    h.start = p ∧ ∃ (f : Form) (r : List Char), s = f.text ++ r ∧ h.Shows f := by
  rw [at?] at hh
  split at hh
  · next name time variance n hm =>
    obtain ⟨w, r, rfl, ht, rfl⟩ := Pattern.takes_of_matchAt hm
    obtain ⟨f, rfl, hf⟩ := takes_pattern_iff.mp ht
    simp only [Form.reported, Tail.reported, List.cons.injEq] at hf
    obtain ⟨rfl, rfl, rfl, -⟩ := hf
    obtain rfl := Option.some.inj hh
    exact ⟨rfl, f, r, rfl, rfl, rfl, rfl, rfl⟩
  · simp at hh

lemma at?_eq_none_iff : at? p s = none ↔ ∀ (f : Form) (r : List Char), s ≠ f.text ++ r := by
  constructor
  · rintro hn f r rfl
    have ht := Pattern.matchAt_isSome_of_takes (takes_pattern_iff.mpr ⟨f, rfl, rfl⟩) r
    obtain ⟨⟨fs, n⟩, hm⟩ := Option.isSome_iff_exists.mp ht
    obtain ⟨w, r', -, hw, -⟩ := Pattern.takes_of_matchAt hm
    obtain ⟨g, -, rfl⟩ := takes_pattern_iff.mp hw
    simp [at?, hm, Form.reported, Tail.reported] at hn
  · intro hf
    by_contra hn
    obtain ⟨h, hh⟩ := Option.ne_none_iff_exists'.mp hn
    obtain ⟨-, f, r, hs, -⟩ := shows_of_at? hh
    exact hf f r hs

lemma at?_drop_eq_none_iff :
    at? p (s.drop p) = none ↔ ∀ (q : ℕ) (f : Form), s.extract p q ≠ f.text := by
  rw [at?_eq_none_iff]
  constructor
  · intro hn q f he
    refine hn f ((s.drop p).drop (q - p)) ?_
    rw [← he, List.extract_eq_take_drop, List.take_append_drop]
  · intro hn f r hs
    refine hn (p + f.text.length) f ?_
    rw [List.extract_eq_take_drop, hs, Nat.add_sub_cancel_left, List.take_left]

lemma at?_bounds (hh : at? p (s.drop p) = some h) : h.start = p ∧ p < h.stop ∧ h.stop ≤ s.length := by
  obtain ⟨rfl, f, r, hs, hf⟩ := shows_of_at? hh
  have hlen := congrArg List.length hs
  have hpos := f.length_text_pos
  rw [List.length_drop, List.length_append] at hlen
  have hstop := hf.stop
  exact ⟨rfl, by omega, by omega⟩

lemma onward_of_length_le (hp : s.length ≤ p) : onward s p = [] := by
  rw [onward, List.drop_eq_nil_of_le hp, allFrom]

lemma onward_of_none (hh : at? p (s.drop p) = none) : onward s p = onward s (p + 1) := by
  by_cases hp : p < s.length
  · rw [List.drop_eq_getElem_cons hp] at hh
    rw [onward, List.drop_eq_getElem_cons hp, allFrom, hh, onward]
  · rw [onward_of_length_le (by omega), onward_of_length_le (by omega)]

lemma onward_of_some (hh : at? p (s.drop p) = some h) : onward s p = h :: onward s h.stop := by
  obtain ⟨-, hlt, hle⟩ := at?_bounds hh
  have hp : p < s.length := by omega
  rw [List.drop_eq_getElem_cons hp] at hh
  rw [onward, List.drop_eq_getElem_cons hp, allFrom, hh]
  simp only
  rw [allFrom_skip, List.drop_drop, onward]
  congr 3 <;> omega

lemma onward_of_forall_none (hpq : p ≤ q) (hn : ∀ k, p ≤ k → k < q → at? k (s.drop k) = none) :
    onward s p = onward s q := by
  induction hpq with
  | refl => rfl
  | step hle ih =>
    rw [ih fun k hk hlt => hn k hk (Nat.lt_succ_of_lt hlt)]
    exact onward_of_none (hn _ hle (Nat.lt_succ_self _))

/-- Along a scan: the position is behind the text, or nothing is found there, or a result is and the
scan goes on behind it. -/
lemma scan_induction (s : List Char) {motive : ℕ → Prop} (stop : ∀ p, s.length ≤ p → motive p)
    (pass : ∀ p, p < s.length → at? p (s.drop p) = none → motive (p + 1) → motive p)
    (hit : ∀ p h, at? p (s.drop p) = some h → motive h.stop → motive p) (p : ℕ) : motive p := by
  induction hn : s.length - p using Nat.strongRecOn generalizing p with
  | ind n ih =>
    by_cases hp : p < s.length
    · cases hh : at? p (s.drop p) with
      | none => exact pass p hp hh (ih _ (by omega) _ rfl)
      | some h =>
        obtain ⟨-, hlt, hle⟩ := at?_bounds hh
        exact hit p h hh (ih _ (by omega) _ rfl)
    · exact stop p (by omega)

lemma at?_of_mem_onward (hh : h ∈ onward s p) : p ≤ h.start ∧ at? h.start (s.drop h.start) = some h := by
  induction p using scan_induction s with
  | stop p hp => simp [onward_of_length_le hp] at hh
  | pass p _ hn ih =>
    rw [onward_of_none hn] at hh
    exact ⟨by have := (ih hh).1; omega, (ih hh).2⟩
  | hit p g hg ih =>
    obtain ⟨rfl, hlt, -⟩ := at?_bounds hg
    rw [onward_of_some hg] at hh
    rcases List.mem_cons.mp hh with rfl | hh
    · exact ⟨Nat.le_refl _, hg⟩
    · exact ⟨by have := (ih hh).1; omega, (ih hh).2⟩

lemma bounds_of_mem_onward (hh : h ∈ onward s p) : p ≤ h.start ∧ h.start < h.stop ∧ h.stop ≤ s.length :=
  ⟨(at?_of_mem_onward hh).1, (at?_bounds (at?_of_mem_onward hh).2).2⟩

lemma pairwise_onward (s : List Char) (p : ℕ) : (onward s p).Pairwise fun a b => a.stop ≤ b.start := by
  induction p using scan_induction s with
  | stop p hp => simp [onward_of_length_le hp]
  | pass p _ hn ih => rwa [onward_of_none hn]
  | hit p h hh ih =>
    rw [onward_of_some hh]
    exact List.pairwise_cons.mpr ⟨fun b hb => (at?_of_mem_onward hb).1, ih⟩

lemma at?_eq_none_of_uncovered (hp : p ≤ q) (hq : ∀ h ∈ onward s p, q < h.start ∨ h.stop ≤ q) :
    at? q (s.drop q) = none := by
  induction p using scan_induction s with
  | stop p hlen =>
    rw [List.drop_eq_nil_of_le (by omega)]
    rfl
  | pass p _ hn ih =>
    rcases Nat.eq_or_lt_of_le hp with rfl | hlt
    · exact hn
    · exact ih hlt (by rwa [onward_of_none hn] at hq)
  | hit p h hh ih =>
    rw [onward_of_some hh] at hq
    obtain ⟨rfl, -, -⟩ := at?_bounds hh
    rcases hq h (by simp) with hlt | hle
    · omega
    · exact ih hle fun g hg => hq g (by simp [hg])

structure IsScan (s : List Char) (hits : List Hit) : Prop where
  bounded : ∀ h ∈ hits, h.start < h.stop ∧ h.stop ≤ s.length
  ordered : hits.Pairwise fun a b => a.stop ≤ b.start
  sound : ∀ h ∈ hits, ∃ f : Form, s.extract h.start h.stop = f.text ∧ h.Shows f
  complete : ∀ p, (∀ h ∈ hits, p < h.start ∨ h.stop ≤ p) → ∀ (q : ℕ) (f : Form), s.extract p q ≠ f.text

theorem isScan_all (text : String) : IsScan text.toList (all text) := by
  rw [all_eq_onward]
  refine ⟨fun h hh => (bounds_of_mem_onward hh).2, pairwise_onward _ _, ?_, ?_⟩
  · intro h hh
    obtain ⟨-, f, r, hs, hf⟩ := shows_of_at? (at?_of_mem_onward hh).2
    refine ⟨f, ?_, hf⟩
    rw [List.extract_eq_take_drop, hs, hf.stop, Nat.add_sub_cancel_left, List.take_left]
  · intro p hp
    exact at?_drop_eq_none_iff.mp (at?_eq_none_of_uncovered (Nat.zero_le p) hp)

end Hit

end BenchReport
