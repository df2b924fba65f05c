import BenchReport.Extraction
import BenchReport.Proofs.Scan

/-! A text cut in two, or at its line feeds: where no result lies across a cut, the parts are scanned
as if each were alone. -/

namespace BenchReport

namespace Hit

variable {s t u v : List Char} {p d : ℕ} {h : Hit}

def shift (d : ℕ) (h : Hit) : Hit := { h with start := h.start + d, stop := h.stop + d }

lemma at?_of_append (hh : at? p (s ++ t) = some h) (hs : h.stop ≤ p + s.length) : at? p s = some h := by
  rw [at?] at hh
  split at hh
  · next name time variance n hm =>
    obtain rfl := Option.some.inj hh
    have hle : n ≤ s.length := by simpa using hs
    rw [at?, Pattern.matchAt_of_append hm hle]
  · simp at hh

lemma at?_eq_none_of_append (hh : at? p (s ++ t) = none) : at? p s = none := by
  rw [at?_eq_none_iff] at hh ⊢
  rintro f r rfl
  exact hh f (r ++ t) (by simp)

lemma at?_add (p d : ℕ) (s : List Char) : at? (p + d) s = (at? p s).map (shift d) := by
  rw [at?, at?]
  split <;> simp [shift, Nat.add_right_comm]

lemma allFrom_add (p d k : ℕ) (s : List Char) : allFrom (p + d) k s = (allFrom p k s).map (shift d) := by
  induction s generalizing p k with
  | nil => rfl
  | cons c s ih =>
    cases k with
    | succ k => rw [allFrom, allFrom, Nat.add_right_comm, ih]
    | zero =>
      rw [allFrom, allFrom, at?_add, Nat.add_right_comm]
      cases at? p (c :: s) with
      | none => exact ih _ _
      | some h =>
        simp only [Option.map_some, List.map_cons, ih]
        congr 3
        simp only [shift]
        omega

lemma onward_append_length (u v : List Char) :
    onward (u ++ v) u.length = (onward v 0).map (shift u.length) := by
  have hh := allFrom_add 0 u.length 0 v
  rw [Nat.zero_add] at hh
  rw [onward, List.drop_left, hh]
  rfl

lemma onward_append (hp : p ≤ u.length)
    (hc : ∀ h ∈ onward (u ++ v) p, h.stop ≤ u.length ∨ u.length ≤ h.start) :
    onward (u ++ v) p = onward u p ++ (onward v 0).map (shift u.length) := by
  rw [← onward_append_length]
  induction p using scan_induction (u ++ v) with
  | stop p hlen =>
    rw [List.length_append] at hlen
    rw [onward_of_length_le (by simpa using hlen), onward_of_length_le (by omega),
      onward_of_length_le (by rw [List.length_append]; omega)]
    rfl
  | pass p _ hn ih =>
    rcases Nat.eq_or_lt_of_le hp with rfl | hlt
    · rw [onward_of_length_le (s := u) (Nat.le_refl _), List.nil_append]
    · rw [onward_of_none hn] at hc ⊢
      rw [List.drop_append_of_le_length hp] at hn
      rw [onward_of_none (at?_eq_none_of_append hn)]
      exact ih hlt hc
  | hit p h hh ih =>
    rcases Nat.eq_or_lt_of_le hp with rfl | hlt
    · rw [onward_of_length_le (s := u) (Nat.le_refl _), List.nil_append]
    · obtain ⟨rfl, -, -⟩ := at?_bounds hh
      rw [onward_of_some hh] at hc ⊢
      have hs : h.stop ≤ u.length := (hc h (by simp)).resolve_right (by omega)
      rw [List.drop_append_of_le_length hp] at hh
      have hu : at? h.start (u.drop h.start) = some h :=
        at?_of_append hh (by rw [List.length_drop]; omega)
      rw [onward_of_some hu, ih hs fun g hg => hc g (by simp [hg])]
      rfl

end Hit

end BenchReport
