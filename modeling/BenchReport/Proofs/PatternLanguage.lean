import BenchReport.Pattern
import Mathlib.Data.List.Basic

/-! The texts that a pattern takes: a match is one of them, and a text without a match begins with none. -/

namespace BenchReport

structure Run (p : Char → Bool) where
  chars : List Char
  ne_nil : chars ≠ []
  all : ∀ c ∈ chars, p c = true

namespace Item

def Takes : Item → List Char → Prop
  | word u, w => w = u
  | filler p, w => ∀ c ∈ w, p c = true
  | run p, w => w ≠ [] ∧ ∀ c ∈ w, p c = true
  | field p, w => w ≠ [] ∧ ∀ c ∈ w, p c = true

/-- The ways to cut an item off a text, in order of preference. -/
def cuts (i : Item) (s : List Char) : List (List Char × List Char) :=
  (i.ends s).map fun e => (s.take e.1, e.2)

end Item

variable {p : Char → Bool} {i : Item} {is js : Pattern} {c : Char} {s t r w : List Char}

lemma runEnds_append (p : Char → Bool) (n : ℕ) (s : List Char) (shorter : List (ℕ × List Char)) :
    runEnds p n s shorter = runEnds p n s [] ++ shorter := by
  induction s generalizing n shorter with
  | nil => rfl
  | cons c s ih =>
    by_cases hc : p c
    · simp only [runEnds, hc, if_true]
      rw [ih, ih (n + 1) [(n, c :: s)]]
      simp
    · simp [runEnds, hc]

lemma runEnds_succ (p : Char → Bool) (n : ℕ) (s : List Char) :
    runEnds p (n + 1) s [] = (runEnds p n s []).map fun e => (e.1 + 1, e.2) := by
  induction s generalizing n with
  | nil => rfl
  | cons c s ih =>
    by_cases hc : p c
    · simp only [runEnds, hc, if_true]
      rw [runEnds_append, runEnds_append p (n + 1) s, ih (n + 1)]
      simp
    · simp [runEnds, hc]

lemma runEnds_le (p : Char → Bool) (n : ℕ) (s : List Char) :
    ∀ e ∈ runEnds p n s [], e.1 ≤ n + s.length := by
  induction s generalizing n with
  | nil => simp [runEnds]
  | cons c s ih =>
    intro e he
    by_cases hc : p c
    · rw [runEnds, if_pos hc, runEnds_append] at he
      rcases List.mem_append.mp he with he | he
      · have hh := ih (n + 1) e he
        simp only [List.length_cons]
        omega
      · simp_all
    · simp_all [runEnds]

namespace Item

lemma end_le (i : Item) (s : List Char) : ∀ e ∈ i.ends s, e.1 ≤ s.length := by
  have hrun (p : Char → Bool) : ∀ e ∈ (run p).ends s, e.1 ≤ s.length := by
    cases s with
    | nil => simp [ends]
    | cons c s =>
      by_cases hc : p c
      · simpa [ends, hc, Nat.add_comm] using runEnds_le p 1 s
      · simp [ends, hc]
  cases i with
  | word u =>
    intro e he
    simp only [ends] at he
    split at he
    · next h =>
      obtain rfl := List.mem_singleton.mp he
      exact (List.isPrefixOf_iff_prefix.mp h).length_le
    · simp at he
  | filler p => simpa [ends] using runEnds_le p 0 s
  | run p => exact hrun p
  | field p => cases s <;> exact hrun p

lemma cuts_filler_nil (p : Char → Bool) : (filler p).cuts [] = [([], [])] := rfl

lemma cuts_filler_cons (p : Char → Bool) (c : Char) (s : List Char) :
    (filler p).cuts (c :: s) =
      if p c then ((filler p).cuts s).map (fun x => (c :: x.1, x.2)) ++ [([], c :: s)]
      else [([], c :: s)] := by
  by_cases hc : p c
  · simp only [cuts, ends, runEnds, hc, if_true]
    rw [runEnds_append, runEnds_succ]
    simp
  · simp [cuts, ends, runEnds, hc]

lemma cuts_run_cons (p : Char → Bool) (c : Char) (s : List Char) :
    (run p).cuts (c :: s) = if p c then ((filler p).cuts s).map (fun x => (c :: x.1, x.2)) else [] := by
  by_cases hc : p c
  · simp only [cuts, ends, hc, if_true, runEnds_succ]
    simp
  · simp [cuts, ends, hc]

lemma cuts_field (p : Char → Bool) (s : List Char) : (field p).cuts s = (run p).cuts s := by
  cases s <;> rfl

lemma mem_cuts_filler : (w, r) ∈ (filler p).cuts s ↔ (∀ c ∈ w, p c = true) ∧ s = w ++ r := by
  induction s generalizing w with
  | nil =>
    rw [cuts_filler_nil]
    cases w <;> cases r <;> simp
  | cons c s ih =>
    rw [cuts_filler_cons]
    cases w with
    | nil =>
      by_cases hc : p c <;> simp [hc] <;> exact eq_comm
    | cons d w =>
      by_cases hc : p c
      · simp only [hc, if_true, List.mem_append, List.mem_map, Prod.exists, Prod.mk.injEq, List.cons.injEq]
        constructor
        · rintro (⟨w', r', h, ⟨rfl, rfl⟩, rfl⟩ | h)
          · obtain ⟨hw, rfl⟩ := ih.mp h
            exact ⟨by simpa [hc] using hw, rfl⟩
          · simp at h
        · rintro ⟨hw, rfl, rfl⟩
          exact Or.inl ⟨w, r, ih.mpr ⟨fun x hx => hw x (by simp [hx]), rfl⟩, ⟨rfl, rfl⟩, rfl⟩
      · simp only [hc]
        constructor
        · intro h
          simp at h
        · rintro ⟨hw, h⟩
          obtain ⟨rfl, -⟩ := List.cons.inj h
          exact absurd (hw c (by simp)) hc

lemma mem_cuts_run : (w, r) ∈ (run p).cuts s ↔ (w ≠ [] ∧ ∀ c ∈ w, p c = true) ∧ s = w ++ r := by
  cases s with
  | nil =>
    constructor
    · intro h
      simp [cuts, ends] at h
    · rintro ⟨⟨hn, -⟩, h⟩
      exact absurd (List.append_eq_nil_iff.mp h.symm).1 hn
  | cons c s =>
    rw [cuts_run_cons]
    by_cases hc : p c
    · simp only [hc, if_true, List.mem_map, Prod.exists, Prod.mk.injEq, mem_cuts_filler]
      constructor
      · rintro ⟨w', r', ⟨hw, rfl⟩, rfl, rfl⟩
        exact ⟨⟨by simp, by simpa [hc] using hw⟩, rfl⟩
      · rintro ⟨⟨hn, hw⟩, h⟩
        obtain ⟨d, w, rfl⟩ := List.exists_cons_of_ne_nil hn
        obtain ⟨rfl, rfl⟩ := List.cons.inj h
        exact ⟨w, r, ⟨fun x hx => hw x (by simp [hx]), rfl⟩, rfl, rfl⟩
    · simp only [hc]
      constructor
      · intro h
        simp at h
      · rintro ⟨⟨hn, hw⟩, h⟩
        obtain ⟨d, w, rfl⟩ := List.exists_cons_of_ne_nil hn
        obtain ⟨rfl, -⟩ := List.cons.inj h
        exact absurd (hw c (by simp)) hc

lemma mem_cuts : (w, r) ∈ i.cuts s ↔ i.Takes w ∧ s = w ++ r := by
  cases i with
  | word u =>
    simp only [cuts, ends, Takes]
    split
    · next h =>
      obtain ⟨t, rfl⟩ := List.isPrefixOf_iff_prefix.mp h
      simp only [List.map_cons, List.map_nil, List.mem_singleton, Prod.mk.injEq, List.take_left',
        List.drop_left']
      constructor
      · rintro ⟨rfl, rfl⟩
        exact ⟨rfl, rfl⟩
      · rintro ⟨rfl, h⟩
        exact ⟨rfl, (List.append_cancel_left h).symm⟩
    · next h =>
      simp only [List.map_nil, List.not_mem_nil, false_iff]
      rintro ⟨rfl, rfl⟩
      exact h (List.isPrefixOf_iff_prefix.mpr (List.prefix_append _ _))
  | filler p => exact mem_cuts_filler
  | run p => exact mem_cuts_run
  | field p =>
    rw [cuts_field]
    exact mem_cuts_run

/-- The cuts of a text with more behind it: first such as reach into what is behind. -/
def Extended (s t : List Char) (cuts cuts' : List (List Char × List Char)) : Prop :=
  ∃ longer, cuts' = longer ++ cuts.map (fun x => (x.1, x.2 ++ t)) ∧ ∀ x ∈ longer, s.length < x.1.length

lemma Extended.cons {cuts cuts' : List (List Char × List Char)} (h : Extended s t cuts cuts') (c : Char) :
    Extended (c :: s) t (cuts.map fun x => (c :: x.1, x.2)) (cuts'.map fun x => (c :: x.1, x.2)) := by
  obtain ⟨longer, rfl, hl⟩ := h
  refine ⟨longer.map fun x => (c :: x.1, x.2), by simp, ?_⟩
  intro x hx
  obtain ⟨y, hy, rfl⟩ := List.mem_map.mp hx
  simpa using hl y hy

lemma cuts_append_filler (p : Char → Bool) (s t : List Char) :
    Extended s t ((filler p).cuts s) ((filler p).cuts (s ++ t)) := by
  induction s with
  | nil =>
    cases t with
    | nil => exact ⟨[], rfl, by simp⟩
    | cons c t =>
      rw [List.nil_append, cuts_filler_cons, cuts_filler_nil]
      by_cases hc : p c
      · refine ⟨((filler p).cuts t).map fun x => (c :: x.1, x.2), by simp [hc], ?_⟩
        intro x hx
        obtain ⟨y, -, rfl⟩ := List.mem_map.mp hx
        simp
      · exact ⟨[], by simp [hc], by simp⟩
  | cons c s ih =>
    rw [List.cons_append, cuts_filler_cons, cuts_filler_cons]
    by_cases hc : p c
    · obtain ⟨longer, he, hl⟩ := ih.cons c
      exact ⟨longer, by simp [hc, he], hl⟩
    · exact ⟨[], by simp [hc], by simp⟩

lemma cuts_append_run (p : Char → Bool) (s t : List Char) :
    Extended s t ((run p).cuts s) ((run p).cuts (s ++ t)) := by
  cases s with
  | nil =>
    refine ⟨(run p).cuts t, by simp [cuts, ends], ?_⟩
    intro x hx
    exact List.length_pos_iff.mpr (mem_cuts_run.mp hx).1.1
  | cons c s =>
    rw [List.cons_append, cuts_run_cons, cuts_run_cons]
    by_cases hc : p c
    · simpa only [hc, if_true] using (cuts_append_filler p s t).cons c
    · exact ⟨[], by simp [hc], by simp⟩

lemma cuts_append (i : Item) (s t : List Char) : Extended s t (i.cuts s) (i.cuts (s ++ t)) := by
  cases i with
  | word u =>
    by_cases hs : u <+: s
    · obtain ⟨v, rfl⟩ := hs
      exact ⟨[], by simp [cuts, ends, List.append_assoc], by simp⟩
    · refine ⟨(word u).cuts (s ++ t), by simp [cuts, ends, hs], ?_⟩
      intro x hx
      obtain ⟨rfl, hu⟩ := mem_cuts.mp hx
      by_contra hle
      exact hs (List.prefix_of_prefix_length_le ⟨_, hu.symm⟩ (List.prefix_append s t) (by omega))
  | filler p => exact cuts_append_filler p s t
  | run p => exact cuts_append_run p s t
  | field p =>
    rw [cuts_field, cuts_field]
    exact cuts_append_run p s t

end Item

namespace Pattern

inductive Takes : Pattern → List Char → List (List Char) → Prop
  | nil : Takes [] [] []
  | cons {i is w u fs} : i.Takes w → Takes is u fs → Takes (i :: is) (w ++ u) (i.reported w ++ fs)

variable {u v : List Char} {fs : List (List Char)}

lemma Takes.word (h : Takes is v fs) : Takes (.word u :: is) (u ++ v) fs :=
  .cons (i := .word u) rfl h

lemma Takes.filler (hu : ∀ c ∈ u, p c = true) (h : Takes is v fs) : Takes (.filler p :: is) (u ++ v) fs :=
  .cons (i := .filler p) hu h

lemma Takes.run (a : Run p) (h : Takes is v fs) : Takes (.run p :: is) (a.chars ++ v) fs :=
  .cons (i := .run p) ⟨a.ne_nil, a.all⟩ h

lemma Takes.field (a : Run p) (h : Takes is v fs) : Takes (.field p :: is) (a.chars ++ v) (a.chars :: fs) :=
  .cons (i := .field p) ⟨a.ne_nil, a.all⟩ h

lemma takes_nil_iff : Takes [] w fs ↔ w = [] ∧ fs = [] := by
  constructor
  · rintro ⟨⟩
    exact ⟨rfl, rfl⟩
  · rintro ⟨rfl, rfl⟩
    exact .nil

lemma takes_word_iff : Takes (.word u :: is) w fs ↔ ∃ v, w = u ++ v ∧ Takes is v fs := by
  constructor
  · rintro ⟨⟩
    next hu hv =>
      obtain rfl := hu
      exact ⟨_, rfl, hv⟩
  · rintro ⟨v, rfl, hv⟩
    exact hv.word

lemma takes_filler_iff :
    Takes (.filler p :: is) w fs ↔ ∃ u v, w = u ++ v ∧ (∀ c ∈ u, p c = true) ∧ Takes is v fs := by
  constructor
  · rintro ⟨⟩
    next hu hv => exact ⟨_, _, rfl, hu, hv⟩
  · rintro ⟨u, v, rfl, hu, hv⟩
    exact hv.filler hu

lemma takes_run_iff :
    Takes (.run p :: is) w fs ↔ ∃ (a : Run p) (v : List Char), w = a.chars ++ v ∧ Takes is v fs := by
  constructor
  · rintro ⟨⟩
    next hu hv => exact ⟨⟨_, hu.1, hu.2⟩, _, rfl, hv⟩
  · rintro ⟨a, v, rfl, hv⟩
    exact hv.run a

lemma takes_field_iff :
    Takes (.field p :: is) w fs ↔
      ∃ (a : Run p) (v : List Char) (gs : List (List Char)),
        w = a.chars ++ v ∧ fs = a.chars :: gs ∧ Takes is v gs := by
  constructor
  · rintro ⟨⟩
    next hu hv => exact ⟨⟨_, hu.1, hu.2⟩, _, _, rfl, rfl, hv⟩
  · rintro ⟨a, v, gs, rfl, rfl, hv⟩
    exact hv.field a

def after (i : Item) (w : List Char) (m : List (List Char) × ℕ) : List (List Char) × ℕ :=
  (i.reported w ++ m.1, w.length + m.2)

lemma matchAt_cons (i : Item) (is : Pattern) (s : List Char) :
    matchAt (i :: is) s = (i.cuts s).findSome? fun x => (matchAt is x.2).map (after i x.1) := by
  have hlen : ∀ e ∈ i.ends s, (s.take e.1).length = e.1 :=
    fun e he => List.length_take_of_le (Item.end_le i s e he)
  rw [matchAt, Item.cuts, List.findSome?_map, ← List.head?_filterMap, ← List.head?_filterMap]
  congr 1
  apply List.filterMap_congr
  intro e he
  cases hm : matchAt is e.2 <;> simp [hm, after, hlen e he]

lemma takes_of_matchAt {fs : List (List Char)} {n : ℕ} (h : matchAt is s = some (fs, n)) :
    ∃ w r, s = w ++ r ∧ Takes is w fs ∧ n = w.length := by
  induction is generalizing s fs n with
  | nil =>
    obtain ⟨rfl, rfl⟩ := Prod.mk.inj (Option.some.inj h)
    exact ⟨[], s, rfl, .nil, rfl⟩
  | cons i is ih =>
    rw [matchAt_cons] at h
    obtain ⟨⟨w, r⟩, hx, hm⟩ := List.exists_of_findSome?_eq_some h
    obtain ⟨⟨gs, k⟩, hk, he⟩ := Option.map_eq_some_iff.mp hm
    obtain ⟨rfl, rfl⟩ := Prod.mk.inj he
    obtain ⟨hw, rfl⟩ := Item.mem_cuts.mp hx
    obtain ⟨u, r, rfl, hu, rfl⟩ := ih hk
    exact ⟨w ++ u, r, by simp, .cons hw hu, by simp⟩

lemma matchAt_isSome_of_takes {fs : List (List Char)} (h : Takes is w fs) (r : List Char) :
    (matchAt is (w ++ r)).isSome := by
  induction h generalizing r with
  | nil => rfl
  | @cons i is w u fs hw _ ih =>
    rw [matchAt_cons, List.findSome?_isSome_iff]
    exact ⟨(w, u ++ r), Item.mem_cuts.mpr ⟨hw, by simp⟩, by simpa using ih r⟩

lemma matchAt_isSome_iff : (matchAt is s).isSome ↔ ∃ w r fs, s = w ++ r ∧ Takes is w fs := by
  constructor
  · intro h
    obtain ⟨⟨fs, n⟩, hm⟩ := Option.isSome_iff_exists.mp h
    obtain ⟨w, r, hs, ht, -⟩ := takes_of_matchAt hm
    exact ⟨w, r, fs, hs, ht⟩
  · rintro ⟨w, r, fs, rfl, ht⟩
    exact matchAt_isSome_of_takes ht r

lemma matchAt_eq_none_of_append (h : matchAt is (s ++ t) = none) : matchAt is s = none := by
  by_contra hn
  obtain ⟨w, r, fs, rfl, ht⟩ := matchAt_isSome_iff.mp (Option.isSome_iff_ne_none.mpr hn)
  have hh := matchAt_isSome_of_takes ht (r ++ t)
  rw [← List.append_assoc, h] at hh
  simp at hh

lemma matchAt_of_append {fs : List (List Char)} {n : ℕ} (h : matchAt is (s ++ t) = some (fs, n))
    (hn : n ≤ s.length) : matchAt is s = some (fs, n) := by
  induction is generalizing s fs n with
  | nil => exact h
  | cons i is ih =>
    rw [matchAt_cons] at h ⊢
    obtain ⟨longer, he, hl⟩ := Item.cuts_append i s t
    have hnone : longer.findSome? (fun x => (matchAt is x.2).map (after i x.1)) = none := by
      by_contra hc
      obtain ⟨m, hm⟩ := Option.ne_none_iff_exists'.mp hc
      rw [he, List.findSome?_append, hm, Option.some_or] at h
      obtain ⟨x, hx, hxm⟩ := List.exists_of_findSome?_eq_some hm
      obtain ⟨k, -, hk⟩ := Option.map_eq_some_iff.mp hxm
      have hlen : n = x.1.length + k.2 := by
        rw [← hk] at h
        exact (congrArg Prod.snd (Option.some.inj h)).symm
      have hh := hl x hx
      omega
    rw [he, List.findSome?_append, hnone, Option.none_or, List.findSome?_map] at h
    obtain ⟨before, x, behind, hcuts, hx, hbefore⟩ := List.findSome?_eq_some_iff.mp h
    obtain ⟨⟨gs, k⟩, hk, hm⟩ := Option.map_eq_some_iff.mp hx
    have hs : s = x.1 ++ x.2 := (Item.mem_cuts.mp (hcuts ▸ (by simp) : (x.1, x.2) ∈ i.cuts s)).2
    have hle : k ≤ x.2.length := by
      have h1 := congrArg Prod.snd hm
      have h2 := congrArg List.length hs
      simp only [after, List.length_append] at h1 h2
      omega
    refine List.findSome?_eq_some_iff.mpr ⟨before, x, behind, hcuts, ?_, ?_⟩
    · rw [ih hk hle, Option.map_some, hm]
    · intro y hy
      have hh := hbefore y hy
      simp only [Function.comp_apply, Option.map_eq_none_iff] at hh ⊢
      exact matchAt_eq_none_of_append hh

end Pattern

end BenchReport
