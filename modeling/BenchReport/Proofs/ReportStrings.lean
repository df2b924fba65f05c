import BenchReport.Proofs.ReportGrammar

namespace BenchReport.Report

variable {c : Char} {g s r u w cs : List Char} {n : ℕ}

section Gaps

lemma skipGap_append (hg : Gap g) (s : List Char) : skipGap (g ++ s) = skipGap s :=
  List.dropWhile_append_of_pos hg

lemma skipGap_cons (hc : isGap c = false) (s : List Char) : skipGap (c :: s) = c :: s :=
  List.dropWhile_cons_of_neg (by simp [hc])

lemma skipGap_append_cons (hg : Gap g) (hc : isGap c = false) (s : List Char) : skipGap (g ++ c :: s) = c :: s := by
  rw [skipGap_append hg, skipGap_cons hc]

lemma skipGap_gap (hg : Gap g) : skipGap g = [] := by
  rw [← List.append_nil g, skipGap_append hg]
  rfl

lemma exists_gap (s : List Char) : ∃ g, Gap g ∧ s = g ++ skipGap s :=
  ⟨s.takeWhile isGap, fun c hc => List.all_eq_true.mp List.all_takeWhile c hc,
    List.takeWhile_append_dropWhile.symm⟩

lemma exists_gap_of_skipGap (h : skipGap s = r) : ∃ g, Gap g ∧ s = g ++ r := h ▸ exists_gap s

lemma skipGap_skipGap (s : List Char) : skipGap (skipGap s) = skipGap s := by
  obtain ⟨g, hg, hs⟩ := exists_gap s
  conv_rhs => rw [hs, skipGap_append hg]

lemma gap_nil : Gap [] := by simp [Gap]

lemma gap_append {g' : List Char} (hg : Gap g) (hg' : Gap g') : Gap (g ++ g') := by
  intro c hc
  rcases List.mem_append.mp hc with hc | hc
  · exact hg c hc
  · exact hg' c hc

end Gaps

lemma readWord_eq_ok_iff : readWord w s = .ok r ↔ s = w ++ r := by
  induction w generalizing s with
  | nil => simp [readWord]
  | cons e w ih =>
    cases s with
    | nil => simp [readWord]
    | cons c s =>
      rw [readWord]
      by_cases hc : c = e
      · simp [hc, ih]
      · simp [hc]

lemma hexUnit?_eq_some_iff {a b c d : Char} :
    hexUnit? [a, b, c, d] = some n ↔ HexUnit [a, b, c, d] n := by
  simp only [hexUnit?, List.foldlM_cons, List.foldlM_nil, Option.bind_eq_bind,
    Option.bind_eq_some_iff, Option.map_eq_some_iff, Option.pure_def, Option.some.injEq]
  constructor
  · rintro ⟨_, ⟨w, ha, rfl⟩, _, ⟨x, hb, rfl⟩, _, ⟨y, hc, rfl⟩, _, ⟨z, hd, rfl⟩, rfl⟩
    simpa using HexUnit.mk ha hb hc hd
  · rintro (⟨ha, hb, hc, hd⟩)
    exact ⟨_, ⟨_, ha, rfl⟩, _, ⟨_, hb, rfl⟩, _, ⟨_, hc, rfl⟩, _, ⟨_, hd, rfl⟩, by simp⟩

lemma HexUnit.exists_chars (h : HexUnit u n) : ∃ a b c d, u = [a, b, c, d] := by
  cases h
  exact ⟨_, _, _, _, rfl⟩

lemma four_le_byteLength (a b c d : Char) (s : List Char) : ¬ byteLength (a :: b :: c :: d :: s) < 4 := by
  have ha := a.utf8Size_pos
  have hb := b.utf8Size_pos
  have hc := c.utf8Size_pos
  have hd := d.utf8Size_pos
  simp only [byteLength]
  omega

lemma readUnit_eq_ok_iff : readUnit s = .ok (n, r) ↔ ∃ u, HexUnit u n ∧ s = u ++ r := by
  constructor
  · intro h
    rw [readUnit.eq_def] at h
    split at h
    · cases h
    · split at h
      · next a b c d t =>
        split at h
        · next m hm =>
          cases h
          exact ⟨_, hexUnit?_eq_some_iff.mp hm, rfl⟩
        · cases h
      · cases h
  · rintro ⟨u, hu, rfl⟩
    obtain ⟨a, b, c, d, rfl⟩ := hu.exists_chars
    have hlen := four_le_byteLength a b c d r
    simp only [List.cons_append, List.nil_append, readUnit, if_neg hlen, hexUnit?_eq_some_iff.mpr hu]

lemma plainEscape?_eq_some_iff {a : Char} : plainEscape? a = some c ↔ (a, c) ∈ escapes := by
  rw [plainEscape?]
  constructor
  · intro h
    split_ifs at h with h₁ h₂ h₃ h₄ h₅ h₆
    · cases h
      rcases h₁ with rfl | rfl | rfl <;> decide
    all_goals
      cases h
      subst_vars
      decide
  · intro h
    simp only [escapes, List.mem_cons, Prod.mk.injEq, List.not_mem_nil, or_false] at h
    rcases h with ⟨rfl, rfl⟩ | ⟨rfl, rfl⟩ | ⟨rfl, rfl⟩ | ⟨rfl, rfl⟩ | ⟨rfl, rfl⟩ | ⟨rfl, rfl⟩ |
      ⟨rfl, rfl⟩ | ⟨rfl, rfl⟩ <;> decide

lemma not_mem_escapes_u : ('u', c) ∉ escapes := by
  simp [escapes]

lemma readEscape_eq_ok_iff : readEscape s = .ok (c, r) ↔ ∃ w, Spells ('\\' :: w) c ∧ s = w ++ r := by
  constructor
  · intro h
    rw [readEscape.eq_def] at h
    split at h
    · cases h
    · next t =>
      split at h
      · cases h
      · next n r' hr =>
        obtain ⟨u, hu, rfl⟩ := readUnit_eq_ok_iff.mp hr
        split_ifs at h with hlow hhigh
        · rw [readLow.eq_def] at h
          split at h
          · cases h
          · cases h
          · next v =>
            split at h
            · cases h
            · next m t hr' =>
              obtain ⟨v, hv, rfl⟩ := readUnit_eq_ok_iff.mp hr'
              split_ifs at h with hm
              obtain ⟨rfl, rfl⟩ := Prod.mk.inj (Except.ok.inj h)
              exact ⟨'u' :: (u ++ '\\' :: 'u' :: v), Spells.pair hu hhigh hv hm, by simp⟩
          · cases h
          · cases h
        · cases h
          exact ⟨_, Spells.unit hu (by simpa using hhigh) (by simpa using hlow), rfl⟩
    · next a t ha =>
      split at h
      · next d hd =>
        cases h
        exact ⟨[a], Spells.letter (plainEscape?_eq_some_iff.mp hd), rfl⟩
      · cases h
  · rintro ⟨w, hw, rfl⟩
    cases hw with
    | plain hc => exact absurd rfl hc.2.2
    | @letter a _ ha =>
      have hu : a ≠ 'u' := by
        rintro rfl
        exact not_mem_escapes_u ha
      rw [List.singleton_append, readEscape, plainEscape?_eq_some_iff.mpr ha]
      exact hu
    | unit hu hhigh hlow =>
      rw [List.cons_append, readEscape, readUnit_eq_ok_iff.mpr ⟨_, hu, rfl⟩]
      simp [hhigh, hlow]
    | @pair u v m n hu hm hv hn =>
      have hlow : isLow m = false := by
        simp only [isHigh, isLow, Bool.and_eq_true, decide_eq_true_eq] at hm ⊢
        simp only [Bool.and_eq_false_iff, decide_eq_false_iff_not]
        omega
      rw [List.cons_append, List.append_assoc, readEscape, readUnit_eq_ok_iff.mpr ⟨_, hu, rfl⟩]
      simp only [hm, hlow, List.cons_append, Bool.false_eq_true, if_false, if_true]
      rw [readLow, readUnit_eq_ok_iff.mpr ⟨_, hv, rfl⟩]
      simp [hn]

lemma readString_quote (s : List Char) : readString ('"' :: s) = .ok ([], s) := by
  rw [readString]

lemma readString_append (hw : Spells w c) (s : List Char) :
    readString (w ++ s) = (readString s).map fun (cs, r) => (c :: cs, r) := by
  have escaped {w : List Char} (hw : Spells ('\\' :: w) c) :
      readString ('\\' :: (w ++ s)) = (readString s).map fun (cs, r) => (c :: cs, r) := by
    rw [readString]
    split
    · next e he => simp [readEscape_eq_ok_iff.mpr ⟨w, hw, rfl⟩] at he
    · next d t he =>
      rw [readEscape_eq_ok_iff.mpr ⟨w, hw, rfl⟩] at he
      cases he
      rfl
  cases hw with
  | plain hc =>
    rw [List.singleton_append, readString, if_neg hc.1]
    · exact hc.2.1
    · exact hc.2.2
  | letter ha => exact escaped (.letter ha)
  | unit hu hhigh hlow => exact escaped (.unit hu hhigh hlow)
  | pair hu hm hv hn => exact escaped (.pair hu hm hv hn)

lemma readString_eq_ok_iff : readString s = .ok (cs, r) ↔ ∃ w, Spelled w cs ∧ s = w ++ '"' :: r := by
  constructor
  · intro h
    fun_induction readString s generalizing cs with
    | case1 => cases h
    | case2 r' =>
      cases h
      exact ⟨[], .nil, rfl⟩
    | case3 => cases h
    | case4 s c r' he ih =>
      obtain ⟨⟨ds, t⟩, ht, hz⟩ := map_eq_ok h
      cases hz
      obtain ⟨v, hv, rfl⟩ := readEscape_eq_ok_iff.mp he
      obtain ⟨w, hw, rfl⟩ := ih ht
      exact ⟨_, .cons hv hw, by simp⟩
    | case5 => cases h
    | case6 c s hq he hc ih =>
      obtain ⟨⟨ds, t⟩, ht, hz⟩ := map_eq_ok h
      cases hz
      obtain ⟨w, hw, rfl⟩ := ih ht
      exact ⟨_, .cons (.plain ⟨hc, hq, he⟩) hw, rfl⟩
  · rintro ⟨w, hw, rfl⟩
    induction hw with
    | nil => exact readString_quote r
    | cons hw _ ih =>
      rw [List.append_assoc, readString_append hw, ih]
      rfl

lemma skipEscape_eq_ok_iff :
    skipEscape s = .ok r ↔ (∃ a c, (a, c) ∈ escapes ∧ s = a :: r) ∨ ∃ u n, HexUnit u n ∧ s = 'u' :: (u ++ r) := by
  constructor
  · intro h
    rw [skipEscape.eq_def] at h
    split at h
    · cases h
    · split at h
      · cases h
      · next n t hr =>
        cases h
        obtain ⟨u, hu, rfl⟩ := readUnit_eq_ok_iff.mp hr
        exact Or.inr ⟨u, n, hu, rfl⟩
    · next a t _ =>
      split_ifs at h with ha
      cases h
      obtain ⟨c, hc⟩ := Option.isSome_iff_exists.mp ha
      exact Or.inl ⟨a, c, plainEscape?_eq_some_iff.mp hc, rfl⟩
  · rintro (⟨a, c, ha, rfl⟩ | ⟨u, n, hu, rfl⟩)
    · have hne : a ≠ 'u' := by
        rintro rfl
        exact not_mem_escapes_u ha
      rw [skipEscape, plainEscape?_eq_some_iff.mpr ha]
      · rfl
      · exact hne
    · rw [skipEscape, readUnit_eq_ok_iff.mpr ⟨u, hu, rfl⟩]

lemma skipString_quote (s : List Char) : skipString ('"' :: s) = .ok s := by
  rw [skipString]

lemma skipString_escape (h : skipEscape s = .ok r) : skipString ('\\' :: s) = skipString r := by
  rw [skipString]
  split
  · next e he => simp [h] at he
  · next t he =>
    rw [h] at he
    cases he
    rfl

lemma skipString_eq_ok_iff : skipString s = .ok r ↔ ∃ w, Inside w ∧ s = w ++ '"' :: r := by
  constructor
  · intro h
    fun_induction skipString s with
    | case1 => cases h
    | case2 r' =>
      cases h
      exact ⟨[], .nil, rfl⟩
    | case3 => cases h
    | case4 s r' he ih =>
      obtain ⟨w, hw, rfl⟩ := ih h
      rcases skipEscape_eq_ok_iff.mp he with ⟨a, c, ha, rfl⟩ | ⟨u, n, hu, rfl⟩
      · exact ⟨_, .letter ha hw, rfl⟩
      · exact ⟨_, .unit hu hw, by simp⟩
    | case5 => cases h
    | case6 c s hq he hc ih =>
      obtain ⟨w, hw, rfl⟩ := ih h
      exact ⟨_, .plain ⟨hc, hq, he⟩ hw, rfl⟩
  · rintro ⟨w, hw, rfl⟩
    induction hw with
    | nil => exact skipString_quote r
    | plain hc _ ih =>
      rw [List.cons_append, skipString, if_neg hc.1, ih]
      · exact hc.2.1
      · exact hc.2.2
    | letter ha _ ih =>
      rw [List.cons_append, List.cons_append,
        skipString_escape (skipEscape_eq_ok_iff.mpr (Or.inl ⟨_, _, ha, rfl⟩)), ih]
    | unit hu _ ih =>
      rw [List.cons_append, List.cons_append, List.append_assoc,
        skipString_escape (skipEscape_eq_ok_iff.mpr (Or.inr ⟨_, _, hu, rfl⟩)), ih]

end BenchReport.Report
