import BenchReport.Proofs.LongestChoice

/-! Patterns that are read in the same way whichever run of a class stands at a place of the text. -/

namespace BenchReport

variable {d p q : Char → Bool} {i : Item} {is : Pattern} {c : Char} {y v w s : List Char}

def AllOrNone (d p : Char → Bool) : Prop :=
  (∀ c, d c = true → p c = true) ∨ ∀ c, d c = true → p c = false

lemma takeWhile_append_of_exists (h : ∃ c ∈ y, p c = false) (s : List Char) :
    (y ++ s).takeWhile p = y.takeWhile p ∧ (y ++ s).dropWhile p = y.dropWhile p ++ s := by
  induction y with
  | nil => simp at h
  | cons c y ih =>
    cases hc : p c with
    | false => simp [hc]
    | true =>
      have hy : ∃ c ∈ y, p c = false := by simpa [hc] using h
      simpa [hc] using ih hy

namespace Item

inductive Course (d : Char → Bool) (i : Item) (y v : List Char) : Prop
  | fails (h : ∀ n : Run d, i.longest? (y ++ (n.chars ++ v)) = none)
  | before (w y' : List Char) (hy : y = w ++ y')
      (h : ∀ n : Run d, i.longest? (y ++ (n.chars ++ v)) = some (w, y' ++ (n.chars ++ v)))
  | across (w v' : List Char) (hv : v = w ++ v')
      (h : ∀ n : Run d, i.longest? (y ++ (n.chars ++ v)) = some (y ++ (n.chars ++ w), v'))

def Steady (d : Char → Bool) : Item → Prop
  | word u => ∀ c ∈ u, d c = false
  | filler p => AllOrNone d p
  | run p => AllOrNone d p
  | field p => AllOrNone d p

lemma course_word {u : List Char} (hu : ∀ c ∈ u, d c = false) (y v : List Char) : Course d (word u) y v := by
  by_cases hp : u <+: y
  · obtain ⟨y', rfl⟩ := hp
    refine .before u y' rfl ?_
    intro n
    simp [longest?, List.append_assoc]
  · refine .fails ?_
    intro n
    obtain ⟨a, m, hn⟩ := List.exists_cons_of_ne_nil n.ne_nil
    have ha : a ∉ u := by
      intro hm
      have hd := n.all a (by simp [hn])
      rw [hu a hm] at hd
      cases hd
    have hnp : ¬u <+: y ++ (n.chars ++ v) := by
      intro h
      rw [hn, List.cons_append] at h
      exact hp (prefix_of_prefix_append_cons ha h)
    simp [longest?, hnp]

lemma course_filler (hp : AllOrNone d p) (y v : List Char) : Course d (filler p) y v := by
  by_cases hy : ∃ c ∈ y, p c = false
  · refine .before (y.takeWhile p) (y.dropWhile p) List.takeWhile_append_dropWhile.symm ?_
    intro n
    obtain ⟨ht, hd⟩ := takeWhile_append_of_exists hy (n.chars ++ v)
    rw [longest?, ht, hd]
  · push Not at hy
    simp only [Bool.not_eq_false] at hy
    rcases hp with hp | hp
    · refine .across (v.takeWhile p) (v.dropWhile p) List.takeWhile_append_dropWhile.symm ?_
      intro n
      have hn : ∀ c ∈ n.chars, p c = true := fun c hc => hp c (n.all c hc)
      rw [longest?, List.takeWhile_append_of_pos hy, List.takeWhile_append_of_pos hn,
        List.dropWhile_append_of_pos hy, List.dropWhile_append_of_pos hn]
    · refine .before y [] (List.append_nil y).symm ?_
      intro n
      obtain ⟨a, m, hn⟩ := List.exists_cons_of_ne_nil n.ne_nil
      have ha : p a = false := hp a (n.all a (by simp [hn]))
      rw [longest?, List.takeWhile_append_of_pos hy, List.dropWhile_append_of_pos hy, hn]
      simp [ha]

lemma course_run (hp : AllOrNone d p) (y v : List Char) : Course d (run p) y v := by
  have hrun (s : List Char) : (run p).longest? s = if s.takeWhile p = [] then none else (filler p).longest? s := rfl
  have hfiller (s : List Char) : (filler p).longest? s = some (s.takeWhile p, s.dropWhile p) := rfl
  cases course_filler hp y v with
  | fails h => exact .fails fun n => by simp [hrun, h n]
  | before w y' hy h =>
    have hw (n : Run d) : (y ++ (n.chars ++ v)).takeWhile p = w := by
      have hn := h n
      rw [hfiller] at hn
      exact congrArg Prod.fst (Option.some.inj hn)
    by_cases hnil : w = []
    · exact .fails fun n => by rw [hrun, hw n, if_pos hnil]
    · exact .before w y' hy fun n => by rw [hrun, hw n, if_neg hnil, h n]
  | across w v' hv h =>
    refine .across w v' hv ?_
    intro n
    have hw : (y ++ (n.chars ++ v)).takeWhile p = y ++ (n.chars ++ w) := by
      have hn := h n
      rw [hfiller] at hn
      exact congrArg Prod.fst (Option.some.inj hn)
    rw [hrun, hw, if_neg (by simp [n.ne_nil]), h n]

lemma Steady.course (hi : i.Steady d) (y v : List Char) : Course d i y v := by
  cases i with
  | word u => exact course_word hi y v
  | filler p => exact course_filler hi y v
  | run p => exact course_run hi y v
  | field p =>
    have hf : (field p).longest? = (run p).longest? := rfl
    cases course_run hi y v with
    | fails h => exact .fails (hf ▸ h)
    | before w y' hy h => exact .before w y' hy (hf ▸ h)
    | across w v' hv h => exact .across w v' hv (hf ▸ h)

end Item

namespace Pattern

/-- How the preferred match goes: it fails, or ends before the run, or ends so far behind it. -/
inductive Course (d : Char → Bool) (is : Pattern) (y v : List Char) : Prop
  | fails (h : ∀ n : Run d, is.matchAt (y ++ (n.chars ++ v)) = none)
  | before (m : List (List Char) × ℕ) (hm : m.2 ≤ y.length)
      (h : ∀ n : Run d, is.matchAt (y ++ (n.chars ++ v)) = some m)
  | across (fields : Run d → List (List Char)) (k : ℕ)
      (h : ∀ n : Run d, is.matchAt (y ++ (n.chars ++ v)) = some (fields n, y.length + n.chars.length + k))

def Steady (d : Char → Bool) (is : Pattern) : Prop := ∀ y v, Course d is y v

lemma steady_nil : Steady d [] := fun y _ => .before ([], 0) (Nat.zero_le y.length) fun _ => rfl

lemma Steady.cons (h : Steady d is) (he : i.Eager is) (hi : i.Steady d) : Steady d (i :: is) := by
  intro y v
  cases hi.course y v with
  | fails hf => exact .fails fun n => by rw [matchAt_cons_of_eager he, hf n, Option.bind_none]
  | before w y' hy hb =>
    have hstep (n : Run d) : matchAt (i :: is) (y ++ (n.chars ++ v)) =
        (matchAt is (y' ++ (n.chars ++ v))).map (after i w) := by
      rw [matchAt_cons_of_eager he, hb n, Option.bind_some]
    have hlen := congrArg List.length hy
    rw [List.length_append] at hlen
    cases h y' v with
    | fails hf => exact .fails fun n => by rw [hstep, hf n, Option.map_none]
    | before m hm hm' =>
      refine .before (after i w m) ?_ fun n => by rw [hstep, hm' n, Option.map_some]
      rw [after]
      omega
    | across fields k hk =>
      refine .across (fun n => i.reported w ++ fields n) k fun n => ?_
      rw [hstep, hk n, Option.map_some, after, hlen]
      simp only [Nat.add_assoc]
  | across w v' hv ha =>
    have hstep (n : Run d) : matchAt (i :: is) (y ++ (n.chars ++ v)) =
        (matchAt is v').map (after i (y ++ (n.chars ++ w))) := by
      rw [matchAt_cons_of_eager he, ha n, Option.bind_some]
    cases hm : matchAt is v' with
    | none => exact .fails fun n => by rw [hstep, hm, Option.map_none]
    | some m =>
      refine .across (fun n => i.reported (y ++ (n.chars ++ w)) ++ m.1) (w.length + m.2) fun n => ?_
      rw [hstep, hm, Option.map_some, after]
      simp only [List.length_append, Nat.add_assoc]

lemma matchAt_filler_append (hw : ∀ c ∈ w, q c = true ∧ ∀ s, matchAt is (c :: s) = none) (s : List Char) :
    matchAt (.filler q :: is) (w ++ s) =
      (matchAt (.filler q :: is) s).map fun m => (m.1, w.length + m.2) := by
  induction w with
  | nil => simp
  | cons c w ih =>
    rw [List.forall_mem_cons] at hw
    rw [List.cons_append, matchAt_filler_cons, if_pos hw.1.1, hw.1.2, Option.or_none, ih hw.2, Option.map_map]
    congr 1
    funext m
    simp only [Function.comp_apply, List.length_cons, Nat.add_right_comm]

lemma Steady.filler (hq : ∀ c, d c = true → q c = true) (hr : Rejects d is) (h : Steady d is) :
    Steady d (.filler q :: is) := by
  intro y v
  induction y with
  | nil =>
    have hstep (n : Run d) : matchAt (.filler q :: is) ([] ++ (n.chars ++ v)) =
        (matchAt (.filler q :: is) v).map fun m => (m.1, n.chars.length + m.2) :=
      matchAt_filler_append (fun c hc => ⟨hq c (n.all c hc), fun s => hr c s (n.all c hc)⟩) v
    cases hm : matchAt (.filler q :: is) v with
    | none => exact .fails fun n => by rw [hstep, hm, Option.map_none]
    | some m =>
      refine .across (fun _ => m.1) m.2 fun n => ?_
      rw [hstep, hm, Option.map_some, List.length_nil, Nat.zero_add]
  | cons c y ih =>
    have hstep (n : Run d) : matchAt (.filler q :: is) (c :: y ++ (n.chars ++ v)) =
        if q c then ((matchAt (.filler q :: is) (y ++ (n.chars ++ v))).map fun m => (m.1, m.2 + 1)).or
          (matchAt is (c :: y ++ (n.chars ++ v)))
        else matchAt is (c :: y ++ (n.chars ++ v)) := matchAt_filler_cons q is c _
    -- where the filler goes no further, the rest of the pattern decides
    have hrest (he : ∀ n : Run d, matchAt (.filler q :: is) (c :: y ++ (n.chars ++ v)) =
        matchAt is (c :: y ++ (n.chars ++ v))) : Course d (.filler q :: is) (c :: y) v := by
      cases h (c :: y) v with
      | fails hf => exact .fails fun n => (he n).trans (hf n)
      | before m hm hb => exact .before m hm fun n => (he n).trans (hb n)
      | across fields k ha => exact .across fields k fun n => (he n).trans (ha n)
    by_cases hc : q c
    · cases ih with
      | fails hf => exact hrest fun n => by rw [hstep, if_pos hc, hf n, Option.map_none, Option.none_or]
      | before m hm hb =>
        refine .before (m.1, m.2 + 1) (Nat.succ_le_succ hm) fun n => ?_
        rw [hstep, if_pos hc, hb n, Option.map_some, Option.some_or]
      | across fields k ha =>
        refine .across fields k fun n => ?_
        rw [hstep, if_pos hc, ha n, Option.map_some, Option.some_or]
        simp only [List.length_cons, Nat.add_right_comm]
    · exact hrest fun n => by rw [hstep, if_neg hc]

end Pattern

end BenchReport
