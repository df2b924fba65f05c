import BenchReport.Proofs.ReportNumbers

/-! Passing over a value: what the list of open brackets demands of the rest, and that a value of any
depth is passed over as a whole. -/

namespace BenchReport.Report

variable {c : Char} {g s t r w v : List Char} {b : Bracket} {outer : List Bracket}

lemma isGap_colon : isGap ':' = false := by decide

lemma readColon_eq_ok_iff : readColon s = .ok r ↔ ∃ g, Gap g ∧ s = g ++ ':' :: r := by
  constructor
  · intro h
    rw [readColon.eq_def] at h
    split at h
    · next hs =>
      cases h
      exact exists_gap_of_skipGap hs
    · cases h
    · cases h
  · rintro ⟨g, hg, rfl⟩
    simp only [readColon, skipGap_append_cons hg isGap_colon]

lemma enter_eq_ok_iff : enter b s = .ok r ↔ ∃ k, Label b k ∧ s = k ++ r := by
  constructor
  · intro h
    cases b with
    | list =>
      cases h
      exact ⟨[], .none, rfl⟩
    | object =>
      rw [enter] at h
      split at h
      · next u hu =>
        obtain ⟨x, hx, hr⟩ := bind_eq_ok h
        obtain ⟨k, hk, rfl⟩ := skipString_eq_ok_iff.mp hx
        obtain ⟨g', hg', rfl⟩ := readColon_eq_ok_iff.mp hr
        obtain ⟨g, hg, rfl⟩ := exists_gap_of_skipGap hu
        exact ⟨_, .key hg hk hg', by simp⟩
      · cases h
      · cases h
  · rintro ⟨k, hk, rfl⟩
    cases hk with
    | none => rfl
    | @key g k g' hg hk hg' =>
      have hx : skipString (k ++ '"' :: (g' ++ ':' :: r)) = .ok (g' ++ ':' :: r) :=
        skipString_eq_ok_iff.mpr ⟨k, hk, rfl⟩
      have hr : readColon (g' ++ ':' :: r) = .ok r := readColon_eq_ok_iff.mpr ⟨g', hg', rfl⟩
      simp only [List.append_assoc, List.cons_append, List.nil_append]
      rw [enter, skipGap_append_cons hg (by decide)]
      simp only [hx, bind, Except.bind, hr]

def follow : Except Fault Standing → Except Fault (List Char)
  | .error e => .error e
  | .ok (.done r) => .ok r
  | .ok (.due b outer r) => skipIn (b :: outer) r

lemma skipIn_eq_follow (outer : List Bracket) (s : List Char) : skipIn outer s = follow (advance outer s) := by
  rw [skipIn]
  split
  · next h => rw [h]; rfl
  · next h => rw [h]; rfl
  · next h => rw [h]; rfl

lemma skipIn_gap (hg : Gap g) (outer : List Bracket) (s : List Char) : skipIn outer (g ++ s) = skipIn outer s := by
  rw [skipIn_eq_follow, skipIn_eq_follow, advance, advance, skipGap_append hg]

lemma skipIn_skipGap (outer : List Bracket) (s : List Char) : skipIn outer (skipGap s) = skipIn outer s := by
  rw [skipIn_eq_follow, skipIn_eq_follow, advance, advance, skipGap_skipGap]

lemma opening?_opening (b : Bracket) : Bracket.opening? b.opening = some b := by cases b <;> rfl

lemma eq_opening_of_opening? (h : Bracket.opening? c = some b) : c = b.opening := by
  rw [Bracket.opening?] at h
  split_ifs at h with hl ho
  · cases h
    exact hl
  · cases h
    exact ho

lemma isGap_opening (b : Bracket) : isGap b.opening = false := by cases b <;> decide

lemma skipIn_opening (b : Bracket) (outer : List Bracket) (s : List Char) :
    skipIn outer (b.opening :: s) = follow (openBracket b outer s) := by
  rw [skipIn_eq_follow, advance, skipGap_cons (isGap_opening b)]
  simp only [opening?_opening]

lemma isGap_closing (b : Bracket) : isGap b.closing = false := by cases b <;> decide

lemma closing_ne_comma (b : Bracket) : b.closing ≠ ',' := by cases b <;> decide

lemma leave_comma (hg : Gap g) (b : Bracket) (outer : List Bracket) (s : List Char) :
    leave (b :: outer) (g ++ ',' :: s) = (enter b s).map (.due b outer) := by
  rw [leave, skipGap_append_cons hg (by decide)]
  simp

lemma leave_closing (hg : Gap g) (b : Bracket) (outer : List Bracket) (s : List Char) :
    leave (b :: outer) (g ++ b.closing :: s) = leave outer s := by
  rw [leave, skipGap_append_cons hg (isGap_closing b)]
  simp [closing_ne_comma]

lemma openBracket_closing (hg : Gap g) (b : Bracket) (outer : List Bracket) (s : List Char) :
    openBracket b outer (g ++ b.closing :: s) = leave outer s := by
  rw [openBracket, skipGap_append_cons hg (isGap_closing b)]
  simp

lemma ends_cons (hd : c.isDigit = false) (hp : c ≠ '.') (he : c ≠ 'e') (hE : c ≠ 'E') (s : List Char) :
    Ends (c :: s) := by
  rintro _ ⟨⟩
  exact ⟨hd, hp, he, hE⟩

lemma ends_gap_append (hg : Gap g) (hr : Ends r) : Ends (g ++ r) := by
  cases g with
  | nil => exact hr
  | cons c g =>
    have hc := hg c (by simp)
    apply ends_cons
    · by_contra hd
      rw [not_isGap_of_isDigit (by simpa using hd)] at hc
      cases hc
    all_goals
      rintro rfl
      exact absurd hc (by decide)

lemma ends_comma (s : List Char) : Ends (',' :: s) :=
  ends_cons (by decide) (by decide) (by decide) (by decide) s

lemma ends_closing (b : Bracket) (s : List Char) : Ends (b.closing :: s) := by
  cases b <;> exact ends_cons (by decide) (by decide) (by decide) (by decide) s

def IsScalar (v : List Char) : Prop :=
  ∃ c u, v = c :: u ∧ isGap c = false ∧ Bracket.opening? c = none ∧
    ∀ r, Ends r → skipScalar c (u ++ r) = .ok r

lemma isScalar_word {u : String} (hu : u ∈ ["null", "true", "false"]) : IsScalar u.toList := by
  simp only [List.mem_cons, List.not_mem_nil, or_false] at hu
  rcases hu with rfl | rfl | rfl
  · exact ⟨'n', "ull".toList, rfl, by decide, by decide, fun r _ => readWord_eq_ok_iff.mpr rfl⟩
  · exact ⟨'t', "rue".toList, rfl, by decide, by decide, fun r _ => readWord_eq_ok_iff.mpr rfl⟩
  · exact ⟨'f', "alse".toList, rfl, by decide, by decide, fun r _ => readWord_eq_ok_iff.mpr rfl⟩

lemma opening?_of_isDigit (hc : c.isDigit = true) : Bracket.opening? c = none := by
  rw [Bracket.opening?, if_neg, if_neg]
  all_goals
    rintro rfl
    exact absurd hc (by decide)

lemma skipScalar_digit (hc : c.isDigit = true) (s : List Char) : skipScalar c s = skipNumber (c :: s) := by
  rw [skipScalar, if_neg, if_neg, if_neg, if_neg, if_pos hc]
  all_goals
    rintro rfl
    exact absurd hc (by decide)

lemma isScalar_number (hw : Magnitude w) : IsScalar w := by
  obtain ⟨c, u, rfl, hc⟩ := hw.exists_cons
  refine ⟨c, u, rfl, not_isGap_of_isDigit hc, opening?_of_isDigit hc, ?_⟩
  intro r hr
  rw [skipScalar_digit hc, ← List.cons_append]
  exact skipNumber_append hw hr

lemma isScalar_negative (hw : Magnitude w) : IsScalar ('-' :: w) :=
  ⟨'-', w, rfl, by decide, by decide, fun _ => skipNumber_append hw⟩

lemma isScalar_text (hw : Inside w) : IsScalar ('"' :: (w ++ ['"'])) := by
  refine ⟨'"', w ++ ['"'], rfl, by decide, by decide, ?_⟩
  intro r _
  rw [List.append_assoc]
  exact skipString_eq_ok_iff.mpr ⟨w, hw, rfl⟩

lemma skipIn_scalar (hv : IsScalar v) (hr : Ends r) (outer : List Bracket) :
    skipIn outer (v ++ r) = follow (leave outer r) := by
  obtain ⟨c, u, rfl, hc, ho, hs⟩ := hv
  rw [List.cons_append, skipIn_eq_follow, advance, skipGap_cons hc]
  simp only [ho, hs r hr, bind, Except.bind]

lemma IsScalar.exists_cons (h : IsScalar v) : ∃ c u, v = c :: u ∧ isGap c = false ∧ c ≠ ']' := by
  obtain ⟨c, u, rfl, hc, -, hs⟩ := h
  refine ⟨c, u, rfl, hc, ?_⟩
  rintro rfl
  have := hs [] ends_nil
  simp [skipScalar] at this

lemma Value.exists_cons (hv : Value v) : ∃ c u, v = c :: u ∧ isGap c = false ∧ c ≠ ']' := by
  cases hv with
  | word hu => exact (isScalar_word hu).exists_cons
  | number hw => exact (isScalar_number hw).exists_cons
  | negative hw => exact (isScalar_negative hw).exists_cons
  | text hw => exact (isScalar_text hw).exists_cons
  | @empty b => exact ⟨b.opening, _, rfl, isGap_opening b, by cases b <;> decide⟩
  | @filled b => exact ⟨b.opening, _, rfl, isGap_opening b, by cases b <;> decide⟩

lemma skipGap_value (hg : Gap g) (hv : Value v) (s : List Char) :
    ∃ c u, skipGap (g ++ (v ++ s)) = c :: u ∧ c ≠ ']' := by
  obtain ⟨c, u, rfl, hc, hne⟩ := hv.exists_cons
  exact ⟨c, u ++ s, by rw [skipGap_append hg, List.cons_append, skipGap_cons hc], hne⟩

lemma Members.exists_cons (hw : Members b w) (r : List Char) :
    ∃ c u, skipGap (w ++ r) = c :: u ∧ c ≠ b.closing := by
  have labelled {k g v s : List Char} (hk : Label b k) (hg : Gap g) (hv : Value v) :
      ∃ c u, skipGap (k ++ (g ++ (v ++ s))) = c :: u ∧ c ≠ b.closing := by
    cases hk with
    | none => exact skipGap_value hg hv s
    | key hg =>
      rw [List.append_assoc, skipGap_append hg, List.cons_append, skipGap_cons (by decide)]
      exact ⟨_, _, rfl, by decide⟩
  cases hw with
  | last hk hg hv =>
    simp only [List.append_assoc]
    exact labelled hk hg hv
  | more hk hg hv =>
    simp only [List.append_assoc]
    exact labelled hk hg hv

lemma follow_openBracket (h : skipGap s = c :: t) (hc : c ≠ b.closing) (outer : List Bracket) :
    follow (openBracket b outer s) = follow ((enter b s).map (.due b outer)) := by
  rw [openBracket, h]
  simp only [if_neg hc]
  cases b with
  | list =>
    calc skipIn (.list :: outer) (c :: t)
      _ = skipIn (.list :: outer) (skipGap s) := by rw [h]
      _ = skipIn (.list :: outer) s := skipIn_skipGap _ _
  | object => rw [enter, enter, ← h, skipGap_skipGap]

mutual

lemma skipIn_value {v r : List Char} (hv : Value v) (hr : Ends r) (outer : List Bracket) :
    skipIn outer (v ++ r) = follow (leave outer r) := by
  match hv with
  | .word hu => exact skipIn_scalar (isScalar_word hu) hr outer
  | .number hw => exact skipIn_scalar (isScalar_number hw) hr outer
  | .negative hw => exact skipIn_scalar (isScalar_negative hw) hr outer
  | .text hw => exact skipIn_scalar (isScalar_text hw) hr outer
  | @Value.empty b g hg =>
    rw [List.cons_append, skipIn_opening, List.append_assoc, List.singleton_append, openBracket_closing hg]
  | @Value.filled b w hw =>
    obtain ⟨c, t, hc, hne⟩ := hw.exists_cons (b.closing :: r)
    rw [List.cons_append, skipIn_opening, List.append_assoc, List.singleton_append,
      follow_openBracket hc hne, follow_members hw]

lemma follow_members {b : Bracket} {w : List Char} (hw : Members b w) (outer : List Bracket) (r : List Char) :
    follow ((enter b (w ++ b.closing :: r)).map (.due b outer)) = follow (leave outer r) := by
  match hw with
  | @Members.last _ k g v g' hk hg hv hg' =>
    have he : enter b (k ++ (g ++ (v ++ (g' ++ b.closing :: r)))) = .ok _ :=
      enter_eq_ok_iff.mpr ⟨k, hk, rfl⟩
    simp only [List.append_assoc, he]
    calc skipIn (b :: outer) (g ++ (v ++ (g' ++ b.closing :: r)))
      _ = skipIn (b :: outer) (v ++ (g' ++ b.closing :: r)) := skipIn_gap hg _ _
      _ = follow (leave (b :: outer) (g' ++ b.closing :: r)) :=
        skipIn_value hv (ends_gap_append hg' (ends_closing b r)) _
      _ = follow (leave outer r) := by rw [leave_closing hg']
  | @Members.more _ k g v g' w hk hg hv hg' hw =>
    have he : enter b (k ++ (g ++ (v ++ (g' ++ ',' :: (w ++ b.closing :: r))))) = .ok _ :=
      enter_eq_ok_iff.mpr ⟨k, hk, rfl⟩
    simp only [List.append_assoc, List.cons_append, he]
    calc skipIn (b :: outer) (g ++ (v ++ (g' ++ ',' :: (w ++ b.closing :: r))))
      _ = skipIn (b :: outer) (v ++ (g' ++ ',' :: (w ++ b.closing :: r))) := skipIn_gap hg _ _
      _ = follow (leave (b :: outer) (g' ++ ',' :: (w ++ b.closing :: r))) :=
        skipIn_value hv (ends_gap_append hg' (ends_comma _)) _
      _ = follow ((enter b (w ++ b.closing :: r)).map (.due b outer)) := by rw [leave_comma hg']
      _ = follow (leave outer r) := follow_members hw outer r

end

lemma exists_of_skipScalar (h : skipScalar c s = .ok r) : ∃ v, Value v ∧ c :: s = v ++ r := by
  rw [skipScalar] at h
  split_ifs at h with hn ht hf hm hd hq
  · obtain rfl := readWord_eq_ok_iff.mp h
    exact ⟨"null".toList, .word (by simp), by rw [hn]; rfl⟩
  · obtain rfl := readWord_eq_ok_iff.mp h
    exact ⟨"true".toList, .word (by simp), by rw [ht]; rfl⟩
  · obtain rfl := readWord_eq_ok_iff.mp h
    exact ⟨"false".toList, .word (by simp), by rw [hf]; rfl⟩
  · obtain ⟨w, hw, rfl⟩ := exists_of_skipNumber h
    exact ⟨'-' :: w, .negative hw, by rw [hm]; rfl⟩
  · obtain ⟨w, hw, hs⟩ := exists_of_skipNumber h
    exact ⟨w, .number hw, hs⟩
  · obtain ⟨w, hw, rfl⟩ := skipString_eq_ok_iff.mp h
    exact ⟨'"' :: (w ++ ['"']), .text hw, by simp [hq]⟩

lemma exists_of_follow_enter (h : follow ((enter b s).map (.due b outer)) = .ok r) :
    ∃ k u, Label b k ∧ s = k ++ u ∧ skipIn (b :: outer) u = .ok r := by
  cases he : enter b s with
  | error e =>
    rw [he] at h
    cases h
  | ok u =>
    rw [he] at h
    obtain ⟨k, hk, hs⟩ := enter_eq_ok_iff.mp he
    exact ⟨k, u, hk, hs, h⟩

def Passes (outer : List Bracket) (s r : List Char) : Prop :=
  ∃ g v t, Gap g ∧ Value v ∧ s = g ++ (v ++ t) ∧ follow (leave outer t) = .ok r

def Closes (b : Bracket) (outer : List Bracket) (s r : List Char) : Prop :=
  ∃ w t, Members b w ∧ s = w ++ b.closing :: t ∧ follow (leave outer t) = .ok r

lemma closed_or_more_of_leave (h : follow (leave (b :: outer) s) = .ok r) :
    ∃ g u, Gap g ∧ (s = g ++ b.closing :: u ∧ follow (leave outer u) = .ok r ∨
      s = g ++ ',' :: u ∧ follow ((enter b u).map (.due b outer)) = .ok r) := by
  rw [leave] at h
  split at h
  · cases h
  · next c u hc =>
    obtain ⟨g, hg, rfl⟩ := exists_gap_of_skipGap hc
    split_ifs at h with hcomma hclose
    · exact ⟨g, u, hg, Or.inr ⟨by rw [hcomma], h⟩⟩
    · exact ⟨g, u, hg, Or.inl ⟨by rw [hclose], h⟩⟩
    · cases h

lemma closed_or_enter_of_openBracket (h : follow (openBracket b outer s) = .ok r) :
    (∃ g u, Gap g ∧ s = g ++ b.closing :: u ∧ follow (leave outer u) = .ok r) ∨
      follow ((enter b s).map (.due b outer)) = .ok r := by
  cases hs : skipGap s with
  | nil =>
    rw [openBracket, hs] at h
    cases h
  | cons c u =>
    by_cases hc : c = b.closing
    · obtain ⟨g, hg, rfl⟩ := exists_gap_of_skipGap hs
      rw [hc, openBracket_closing hg] at h
      exact Or.inl ⟨g, u, hg, by rw [hc], h⟩
    · rw [follow_openBracket hs hc] at h
      exact Or.inr h

lemma passes_of_skipIn (h : skipIn outer s = .ok r)
    (ih : ∀ b u, u.length < s.length → follow ((enter b u).map (.due b outer)) = .ok r → Closes b outer u r) :
    Passes outer s r := by
  rw [skipIn_eq_follow, advance] at h
  split at h
  · cases h
  · next c u hc =>
    obtain ⟨g, hg, rfl⟩ := exists_gap_of_skipGap hc
    split at h
    · next b hb =>
      obtain rfl := eq_opening_of_opening? hb
      rcases closed_or_enter_of_openBracket h with ⟨g', t, hg', rfl, ht⟩ | he
      · exact ⟨g, _, t, hg, .empty (b := b) hg', by simp, ht⟩
      · have hlt : u.length < (g ++ b.opening :: u).length := by
          rw [List.length_append, List.length_cons]
          omega
        obtain ⟨w, t, hw, rfl, ht⟩ := ih b u hlt he
        exact ⟨g, _, t, hg, .filled hw, by simp, ht⟩
    · cases hs : skipScalar c u with
      | error e =>
        rw [hs] at h
        cases h
      | ok t =>
        rw [hs] at h
        obtain ⟨v, hv, hvt⟩ := exists_of_skipScalar hs
        exact ⟨g, v, t, hg, hv, by rw [hvt], h⟩

lemma closes_of_follow_enter (h : follow ((enter b s).map (.due b outer)) = .ok r)
    (hp : ∀ outer u, u.length ≤ s.length → skipIn outer u = .ok r → Passes outer u r)
    (ih : ∀ u, u.length < s.length → follow ((enter b u).map (.due b outer)) = .ok r → Closes b outer u r) :
    Closes b outer s r := by
  obtain ⟨k, u, hk, rfl, hu⟩ := exists_of_follow_enter h
  obtain ⟨g, v, t, hg, hv, rfl, ht⟩ := hp _ u (by simp) hu
  obtain ⟨g', x, hg', ⟨rfl, hx⟩ | ⟨rfl, hx⟩⟩ := closed_or_more_of_leave ht
  · exact ⟨_, x, .last hk hg hv hg', by simp, hx⟩
  · have hlt : x.length < (k ++ (g ++ (v ++ (g' ++ ',' :: x)))).length := by
      simp only [List.length_append, List.length_cons]
      omega
    obtain ⟨w, y, hw, rfl, hy⟩ := ih x hlt hx
    exact ⟨_, y, .more hk hg hv hg' hw, by simp, hy⟩

lemma passes_and_closes (n : ℕ) : ∀ s, s.length ≤ n →
    (∀ outer, skipIn outer s = .ok r → Passes outer s r) ∧
      ∀ b outer, follow ((enter b s).map (.due b outer)) = .ok r → Closes b outer s r := by
  -- on the length of the text: members are shorter than the value they stand in, but may begin it
  induction n using Nat.strongRecOn with
  | ind n ih =>
    have closes {u : List Char} (hu : u.length < n) := (ih u.length hu u (Nat.le_refl _)).2
    have passes (s : List Char) (hs : s.length ≤ n) (outer : List Bracket) (h : skipIn outer s = .ok r) :
        Passes outer s r :=
      passes_of_skipIn h fun b u hu => closes (Nat.lt_of_lt_of_le hu hs) b outer
    intro s hs
    refine ⟨passes s hs, fun b outer h => ?_⟩
    exact closes_of_follow_enter h (fun outer u hu => passes u (Nat.le_trans hu hs) outer)
      fun u hu => closes (Nat.lt_of_lt_of_le hu hs) b outer

lemma exists_of_skipValue (h : skipValue s = .ok r) : ∃ g v, Gap g ∧ Value v ∧ s = g ++ (v ++ r) := by
  obtain ⟨g, v, t, hg, hv, rfl, ht⟩ := (passes_and_closes s.length s (Nat.le_refl _)).1 [] h
  cases ht
  exact ⟨g, v, hg, hv, rfl⟩

lemma skipValue_append (hg : Gap g) (hv : Value v) (hr : Ends r) : skipValue (g ++ (v ++ r)) = .ok r := by
  rw [skipValue, skipIn_gap hg, skipIn_value hv hr]
  rfl

end BenchReport.Report
