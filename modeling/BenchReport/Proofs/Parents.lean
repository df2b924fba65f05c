import BenchReport.Proofs.Places

namespace BenchReport

namespace Path

variable {p q : Path} {x : Bytes} {xs ys : List Bytes} {b : UInt8}

section Pieces

lemma split_cons_separator (p : Path) : split (separator :: p) = [] :: split p := by rw [split, if_pos rfl]

lemma split_cons_of_ne (hb : b ≠ separator) (h : split p = x :: xs) : split (b :: p) = (b :: x) :: xs := by
  rw [split, if_neg hb, h]

lemma separator_not_mem_of_mem_split (h : x ∈ split p) : separator ∉ x := by
  induction p generalizing x with
  | nil =>
    rw [List.mem_singleton.mp h]
    exact List.not_mem_nil
  | cons b p ih =>
    by_cases hb : b = separator
    · rw [hb, split_cons_separator] at h
      rcases List.mem_cons.mp h with rfl | h
      · exact List.not_mem_nil
      · exact ih h
    · obtain ⟨y, ys, hs⟩ := List.exists_cons_of_ne_nil (split_ne_nil p)
      rw [split_cons_of_ne hb hs] at h
      rw [hs] at ih
      rcases List.mem_cons.mp h with rfl | h
      · rw [List.mem_cons, not_or]
        exact ⟨Ne.symm hb, ih List.mem_cons_self⟩
      · exact ih (List.mem_cons_of_mem y h)

lemma split_append (hx : separator ∉ x) (h : split p = [] :: xs) : split (x ++ p) = x :: xs := by
  induction x with
  | nil => exact h
  | cons b x ih =>
    rw [List.mem_cons, not_or] at hx
    exact split_cons_of_ne (Ne.symm hx.1) (ih hx.2)

lemma split_join (hx : ∀ y ∈ x :: xs, separator ∉ y) : split (join (x :: xs)) = x :: xs := by
  have hsep (ys : List Bytes) (hy : ∀ y ∈ ys, separator ∉ y) : split (separated ys) = [] :: ys := by
    induction ys with
    | nil => rfl
    | cons y ys ih =>
      obtain ⟨hy, hys⟩ := List.forall_mem_cons.mp hy
      have hs : separated (y :: ys) = separator :: (y ++ separated ys) := rfl
      rw [hs, split_cons_separator, split_append hy (ih hys)]
  obtain ⟨hx, hxs⟩ := List.forall_mem_cons.mp hx
  rw [join_cons]
  exact split_append hx (hsep xs hxs)

end Pieces

section Idle

def Idle (xs : List Bytes) : Prop := ∀ x ∈ xs, isIdle x = true

lemma exists_idle (xs : List Bytes) : ∃ tail, Idle tail ∧ xs = trimEnd xs ++ tail := by
  refine ⟨(xs.reverse.takeWhile isIdle).reverse, fun x hx => ?_, ?_⟩
  · exact List.all_eq_true.mp List.all_takeWhile x (List.mem_reverse.mp hx)
  · rw [trimEnd, ← List.reverse_append, List.takeWhile_append_dropWhile, List.reverse_reverse]

lemma trimEnd_append (hy : Idle ys) (xs : List Bytes) : trimEnd (xs ++ ys) = trimEnd xs := by
  have h : ∀ y ∈ ys.reverse, isIdle y = true := fun y h => hy y (List.mem_reverse.mp h)
  rw [trimEnd, List.reverse_append, List.dropWhile_append_of_pos h, trimEnd]

lemma trimEnd_concat (hx : isIdle x = false) (xs : List Bytes) : trimEnd (xs ++ [x]) = xs ++ [x] := by
  simp [trimEnd, hx]

lemma trimEnd_trimEnd (xs : List Bytes) : trimEnd (trimEnd xs) = trimEnd xs := by
  obtain ⟨tail, hi, hx⟩ := exists_idle xs
  conv_rhs => rw [hx, trimEnd_append hi]

lemma filter_idle (h : Idle xs) : ∃ k, xs.filter (· ≠ []) = List.replicate k dot := by
  refine ⟨(xs.filter (· ≠ [])).length, List.eq_replicate_iff.mpr ⟨rfl, fun x hx => ?_⟩⟩
  obtain ⟨hm, hne⟩ := List.mem_filter.mp hx
  have hi := h x hm
  simp only [isIdle, decide_eq_true_eq] at hi hne
  exact hi.resolve_left hne

end Idle

section Parent

/-- A path whose last name is not idle, unless it is the only one. -/
def IsTrim (p : Path) : Prop := ∃ front xs, split p = front :: xs ∧ trimEnd xs = xs

lemma parent?_eq_some (h : parent? p = some q) :
    ∃ front xs, split p = front :: xs ∧
      ((q = [] ∧ front ≠ [] ∧ Idle xs) ∨
        ∃ init mid last tail, xs = init ++ (mid ++ last :: tail) ∧ trimEnd init = init ∧ Idle mid ∧
          isIdle last = false ∧ Idle tail ∧
          (q = join (front :: init) ∧ q ≠ [] ∨ front = [] ∧ init = [] ∧ q = [separator])) := by
  rw [parent?] at h
  split at h
  · cases h
  next front xs hs =>
    refine ⟨front, xs, hs, ?_⟩
    obtain ⟨tail, ht, hx⟩ := exists_idle xs
    split at h
    next htrim =>
      split_ifs at h with hf
      cases h
      rw [htrim, List.nil_append] at hx
      exact Or.inl ⟨rfl, hf, hx ▸ ht⟩
    next hne =>
      obtain ⟨ys, last, hl⟩ := List.eq_nil_or_concat' (trimEnd xs) |>.resolve_left hne
      obtain ⟨mid, hm, hy⟩ := exists_idle ys
      refine Or.inr ⟨trimEnd ys, mid, last, tail, ?_, trimEnd_trimEnd ys, hm, not_isIdle_of_trimEnd hl, ht, ?_⟩
      · rw [← List.singleton_append, ← List.append_assoc mid, ← List.append_assoc (trimEnd ys),
          ← List.append_assoc (trimEnd ys), ← hy, ← hl]
        exact hx
      · rw [hl, List.dropLast_concat] at h
        split at h
        next hi =>
          cases h
          split_ifs with hf
          · exact Or.inr ⟨hf, hi, rfl⟩
          · exact Or.inl ⟨by rw [hi]; rfl, hf⟩
        next hi =>
          cases h
          obtain ⟨z, zs, hz⟩ := List.exists_cons_of_ne_nil hi
          refine Or.inl ⟨rfl, ?_⟩
          rw [hz, join]
          simp

lemma prefix_of_parent? (h : parent? p = some q) : q <+: p := by
  obtain ⟨front, xs, hs, ⟨rfl, -, -⟩ | ⟨init, mid, last, tail, rfl, -, -, -, -, ⟨rfl, -⟩ | ⟨rfl, rfl, rfl⟩⟩⟩ :=
    parent?_eq_some h
  · exact List.nil_prefix
  · rw [← join_split p, hs, join_cons, join_cons, separated_append, ← List.append_assoc]
    exact List.prefix_append _ _
  · obtain ⟨y, ys, hy⟩ := List.exists_cons_of_ne_nil (l := mid ++ last :: tail) (by simp)
    rw [← join_split p, hs, join_cons, List.nil_append, List.nil_append, hy]
    exact ⟨y ++ separated ys, rfl⟩

lemma isTrim_of_parent? (h : parent? p = some q) : q = [separator] ∨ IsTrim q := by
  obtain ⟨front, xs, hs, ⟨rfl, -, -⟩ | ⟨init, mid, last, tail, rfl, hi, -, -, -, ⟨rfl, -⟩ | ⟨-, -, rfl⟩⟩⟩ :=
    parent?_eq_some h
  · exact Or.inr ⟨[], [], rfl, rfl⟩
  · refine Or.inr ⟨front, init, split_join fun y hy => ?_, hi⟩
    apply separator_not_mem_of_mem_split (p := p)
    rw [hs, ← List.cons_append]
    exact List.mem_append_left _ hy
  · exact Or.inl rfl

end Parent

end Path

namespace FileTree

open BenchReport.Path

variable {p q : Path} {t t' : FileTree}

lemma names_of_split {front : Bytes} {xs : List Bytes} (h : split p = front :: xs) :
    names p = (front :: xs).filter (· ≠ []) := by rw [names, h]

lemma names_of_init {front : Bytes} {init rest : List Bytes} (h : split p = front :: (init ++ rest))
    (hq : q = join (front :: init) ∨ front = [] ∧ init = [] ∧ q = [separator]) :
    names q = (front :: init).filter (· ≠ []) := by
  rcases hq with rfl | ⟨rfl, rfl, rfl⟩
  · refine names_of_split (split_join fun y hy => ?_)
    apply separator_not_mem_of_mem_split (p := p)
    rw [h, ← List.cons_append]
    exact List.mem_append_left _ hy
  · rfl

lemma eq_nil_of_isTrim {front : Bytes} {xs ys tail : List Bytes} (hp : IsTrim p) (h : split p = front :: xs)
    (hx : xs = ys ++ tail) (hy : trimEnd ys = ys) (ht : Idle tail) : tail = [] := by
  obtain ⟨front', xs', h', htrim⟩ := hp
  obtain ⟨-, rfl⟩ := List.cons.inj (h.symm.trans h')
  rw [hx, trimEnd_append ht, hy] at htrim
  exact List.self_eq_append_right.mp htrim

lemma names_of_parent? (h : parent? p = some q) :
    ∃ k last j, names p = names q ++ (List.replicate k dot ++ last :: List.replicate j dot) ∧ (IsTrim p → j = 0) := by
  obtain ⟨front, xs, hs, ⟨rfl, hf, hx⟩ | ⟨init, mid, last, tail, rfl, -, hm, hl, ht, hq⟩⟩ := parent?_eq_some h
  · obtain ⟨j, hj⟩ := filter_idle hx
    refine ⟨0, front, j, ?_, fun hp => ?_⟩
    · rw [names_of_split hs, List.filter_cons_of_pos (by simpa using hf), hj]
      rfl
    · rw [eq_nil_of_isTrim hp hs (List.nil_append xs).symm rfl hx] at hj
      simpa using hj
  · obtain ⟨k, hk⟩ := filter_idle hm
    obtain ⟨j, hj⟩ := filter_idle ht
    have hne : last ≠ [] := by
      rintro rfl
      exact absurd hl (by decide)
    refine ⟨k, last, j, ?_, fun hp => ?_⟩
    · have hlast : (last :: tail).filter (· ≠ []) = last :: List.replicate j dot := by
        rw [List.filter_cons_of_pos (by simpa using hne), hj]
      rw [names_of_split hs, names_of_init hs (hq.imp_left And.left), ← List.cons_append, List.filter_append,
        List.filter_append, hk, hlast]
    · have hx : init ++ (mid ++ last :: tail) = (init ++ mid ++ [last]) ++ tail := by simp
      rw [eq_nil_of_isTrim hp hs hx (trimEnd_concat hl _) ht] at hj
      simpa using hj

lemma Fits.of_parent? (hp : Fits p) (h : parent? p = some q) (hq : q ≠ []) : Fits q := by
  have hpre := prefix_of_parent? h
  exact ⟨fun hz => hp.noZero (hpre.subset hz), hq, Nat.lt_of_le_of_lt hpre.length_le hp.short⟩

lemma isDir_of_parent? (h : parent? p = some q) (hq : q ≠ []) (hp : t.isDir p = true) : t.isDir q = true := by
  obtain ⟨hf, here, hw⟩ := isDir_eq_true_iff.mp hp
  obtain ⟨k, last, j, hn, -⟩ := names_of_parent? h
  rw [hn, walk_append] at hw
  obtain ⟨there, hw, -⟩ := Report.bind_eq_ok hw
  exact isDir_eq_true_iff.mpr ⟨hf.of_parent? h hq, there, hw⟩

lemma exists_locate_of_parent? (hp : Fits p) (htrim : IsTrim p) (h : parent? p = some q)
    (hq : q ≠ [] → t.isDir q = true) : ∃ x, t.locate p = .ok x := by
  obtain ⟨k, last, j, hn, hj⟩ := names_of_parent? h
  rw [hj htrim, List.replicate_zero, ← List.append_assoc] at hn
  obtain ⟨here, hw⟩ : ∃ here, t.walk [] (names q) = .ok here := by
    rcases eq_or_ne q [] with rfl | hne
    · exact ⟨[], rfl⟩
    · exact (isDir_eq_true_iff.mp (hq hne)).2
  have hd : t.walk [] (names q ++ List.replicate k dot) = .ok here := by
    rw [walk_append, hw]
    exact walk_dots here k
  rw [locate_of_names hp hn, hd]
  exact ⟨_, rfl⟩

end FileTree

end BenchReport
