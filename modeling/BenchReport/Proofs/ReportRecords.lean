import BenchReport.Proofs.ReportValues
import BenchReport.Report.Reader

namespace BenchReport.Report

variable {α : Type} {item : List Char → α → Prop} {c close : Char} {first : Bool}
variable {g s r u w k : List Char} {a : α} {as : List α} {m : Measurement} {n : String} {t v : UInt64}

section Listed

/-- What is left of a list when some of its items have been taken, and of the text behind it. -/
inductive Listed (item : List Char → α → Prop) (close : Char) : Bool → List Char → List α → List Char → Prop
  | done {first : Bool} {g r : List Char} : Gap g → Listed item close first (g ++ close :: r) [] r
  | first {g w s r : List Char} {a : α} {as : List α} : Gap g → item w a → Listed item close false s as r →
      Listed item close true (g ++ (w ++ s)) (a :: as) r
  | more {g g' w s r : List Char} {a : α} {as : List α} : Gap g → Gap g' → item w a →
      Listed item close false s as r → Listed item close false (g ++ ',' :: (g' ++ (w ++ s))) (a :: as) r

lemma Listed.ends {b : Bracket} (h : Listed item b.closing false s as r) : Ends s := by
  cases h with
  | done hg => exact ends_gap_append hg (ends_closing b r)
  | more hg => exact ends_gap_append hg (ends_comma _)

lemma Listed.comma (h : Listed item close true s as r) (ha : as ≠ []) (hg : Gap g) :
    Listed item close false (g ++ ',' :: s) as r := by
  cases h with
  | done => exact absurd rfl ha
  | first hg' hw hs => exact .more hg hg' hw hs

lemma Separated.ne_nil (h : Separated item w as) : as ≠ [] := by cases h <;> simp

lemma Separated.listed (h : Separated item w as) (close : Char) (r : List Char) :
    Listed item close true (w ++ close :: r) as r := by
  induction h with
  | last hg hw hg' =>
    simp only [List.append_assoc]
    exact .first hg hw (.done hg')
  | more hg hw hg' hs ih =>
    simp only [List.append_assoc, List.cons_append]
    exact .first hg hw (ih.comma hs.ne_nil hg')

lemma Listed.separated (h : Listed item close first s as r) :
    (as = [] ∧ ∃ g, Gap g ∧ s = g ++ close :: r) ∨
      ∃ p w, Separated item w as ∧ s = p ++ (w ++ close :: r) ∧
        (first = true ∧ p = [] ∨ first = false ∧ ∃ g, Gap g ∧ p = g ++ [',']) := by
  induction h with
  | done hg => exact Or.inl ⟨rfl, _, hg, rfl⟩
  | @first g w s r a as hg hw _ ih =>
    refine Or.inr ⟨[], ?_⟩
    rcases ih with ⟨rfl, g', hg', rfl⟩ | ⟨p, w', hs, rfl, ⟨hf, -⟩ | ⟨-, g', hg', rfl⟩⟩
    · exact ⟨_, .last hg hw hg', by simp, by simp⟩
    · cases hf
    · exact ⟨_, .more hg hw hg' hs, by simp, by simp⟩
  | @more g₀ g w s r a as hg₀ hg hw _ ih =>
    refine Or.inr ⟨g₀ ++ [','], ?_⟩
    rcases ih with ⟨rfl, g', hg', rfl⟩ | ⟨p, w', hs, rfl, ⟨hf, -⟩ | ⟨-, g', hg', rfl⟩⟩
    · exact ⟨_, .last hg hw hg', by simp, Or.inr ⟨rfl, g₀, hg₀, rfl⟩⟩
    · cases hf
    · exact ⟨_, .more hg hw hg' hs, by simp, Or.inr ⟨rfl, g₀, hg₀, rfl⟩⟩

lemma listed_true_iff :
    Listed item close true s as r ↔
      (as = [] ∧ ∃ g, Gap g ∧ s = g ++ close :: r) ∨ ∃ w, Separated item w as ∧ s = w ++ close :: r := by
  constructor
  · intro h
    rcases h.separated with hn | ⟨p, w, hs, rfl, ⟨-, rfl⟩ | ⟨hf, -⟩⟩
    · exact Or.inl hn
    · exact Or.inr ⟨w, hs, rfl⟩
    · cases hf
  · rintro (⟨rfl, g, hg, rfl⟩ | ⟨w, hs, rfl⟩)
    · exact .done hg
    · exact hs.listed close r

end Listed

section Steps

def Starts (s : List Char) : Prop := ∃ c u, s = c :: u ∧ isGap c = false ∧ c ≠ ']'

lemma nextElement_close_iff : nextElement first s = .ok (.close r) ↔ ∃ g, Gap g ∧ s = g ++ ']' :: r := by
  constructor
  · intro h
    rw [nextElement.eq_def] at h
    split at h
    · cases h
    · next hs =>
      cases h
      exact exists_gap_of_skipGap hs
    · split_ifs at h
      · cases h
      · split at h <;> cases h
  · rintro ⟨g, hg, rfl⟩
    have hs : skipGap (g ++ ']' :: r) = ']' :: r := skipGap_append_cons hg (by decide) _
    simp only [nextElement, hs]

lemma exists_of_nextElement (h : nextElement first s = .ok (.member r)) :
    (first = true ∧ ∃ g, Gap g ∧ s = g ++ r) ∨
      first = false ∧ ∃ g g', Gap g ∧ Gap g' ∧ s = g ++ ',' :: (g' ++ r) := by
  rw [nextElement.eq_def] at h
  split at h
  · cases h
  · cases h
  · next c u _ hs =>
    obtain ⟨g, hg, rfl⟩ := exists_gap_of_skipGap hs
    split_ifs at h with hf hc
    · cases h
      exact Or.inl ⟨hf, g, hg, rfl⟩
    · split at h
      · cases h
      · cases h
      · cases h
        obtain ⟨g', hg', hu⟩ := exists_gap u
        exact Or.inr ⟨by simpa using hf, g, g', hg, hg', by rw [hc, ← hu]⟩

lemma nextElement_first (hg : Gap g) (hr : Starts r) : nextElement true (g ++ r) = .ok (.member r) := by
  obtain ⟨c, u, rfl, hc, hne⟩ := hr
  have hs : skipGap (g ++ c :: u) = c :: u := skipGap_append_cons hg hc u
  rw [nextElement.eq_def, hs]
  split
  · next h => cases h
  · next h => exact absurd (List.cons.inj h).1 hne
  · next h =>
    cases h
    rfl

lemma nextElement_more {g' : List Char} (hg : Gap g) (hg' : Gap g') (hr : Starts r) :
    nextElement false (g ++ ',' :: (g' ++ r)) = .ok (.member r) := by
  obtain ⟨c, u, rfl, hc, hne⟩ := hr
  have hs : skipGap (g ++ ',' :: (g' ++ c :: u)) = ',' :: (g' ++ c :: u) :=
    skipGap_append_cons hg (by decide) _
  have hs' : skipGap (g' ++ c :: u) = c :: u := skipGap_append_cons hg' hc u
  simp [nextElement, hs, hs', hne]

lemma nextKey_close_iff : nextKey first s = .ok (.close r) ↔ ∃ g, Gap g ∧ s = g ++ '\x7d' :: r := by
  constructor
  · intro h
    rw [nextKey.eq_def] at h
    split at h
    · cases h
    · next hs =>
      cases h
      exact exists_gap_of_skipGap hs
    · split_ifs at h
      · cases h
      · split at h <;> cases h
  · rintro ⟨g, hg, rfl⟩
    have hs : skipGap (g ++ '\x7d' :: r) = '\x7d' :: r := skipGap_append_cons hg (by decide) _
    simp only [nextKey, hs]

lemma nextKey_first_iff : nextKey true s = .ok (.member r) ↔ ∃ g, Gap g ∧ s = g ++ '"' :: r := by
  constructor
  · intro h
    rw [nextKey.eq_def] at h
    split at h
    · cases h
    · cases h
    · next c u _ hs =>
      rw [if_pos rfl] at h
      split_ifs at h with hc
      cases h
      exact hc ▸ exists_gap_of_skipGap hs
  · rintro ⟨g, hg, rfl⟩
    have hs : skipGap (g ++ '"' :: r) = '"' :: r := skipGap_append_cons hg (by decide) _
    simp [nextKey, hs]

lemma nextKey_more_iff :
    nextKey false s = .ok (.member r) ↔ ∃ g g', Gap g ∧ Gap g' ∧ s = g ++ ',' :: (g' ++ '"' :: r) := by
  constructor
  · intro h
    rw [nextKey.eq_def] at h
    split at h
    · cases h
    · cases h
    · next c u _ hs =>
      obtain ⟨g, hg, rfl⟩ := exists_gap_of_skipGap hs
      rw [if_neg (by decide)] at h
      split_ifs at h with hc
      split at h
      · cases h
      · next hu =>
        cases h
        obtain ⟨g', hg', rfl⟩ := exists_gap_of_skipGap hu
        exact ⟨g, g', hg, hg', by rw [hc]⟩
      · cases h
      · cases h
  · rintro ⟨g, g', hg, hg', rfl⟩
    have hs : skipGap (g ++ ',' :: (g' ++ '"' :: r)) = ',' :: (g' ++ '"' :: r) :=
      skipGap_append_cons hg (by decide) _
    have hs' : skipGap (g' ++ '"' :: r) = '"' :: r := skipGap_append_cons hg' (by decide) _
    simp [nextKey, hs, hs']

lemma closeTriple_eq_ok_iff : closeTriple s = .ok r ↔ ∃ g, Gap g ∧ s = g ++ ']' :: r := by
  constructor
  · intro h
    rw [closeTriple.eq_def] at h
    split at h
    · next hs =>
      cases h
      exact exists_gap_of_skipGap hs
    · split at h <;> cases h
    · cases h
    · cases h
  · rintro ⟨g, hg, rfl⟩
    have hs : skipGap (g ++ ']' :: r) = ']' :: r := skipGap_append_cons hg (by decide) _
    simp only [closeTriple, hs]

end Steps

section Values

lemma readText_eq_ok_iff : readText s = .ok (n, r) ↔ ∃ g w, Gap g ∧ Quotes w n ∧ s = g ++ (w ++ r) := by
  constructor
  · intro h
    rw [readText] at h
    split at h
    · next u hu =>
      obtain ⟨⟨cs, t⟩, hc, hz⟩ := map_eq_ok h
      cases hz
      obtain ⟨k, hk, rfl⟩ := readString_eq_ok_iff.mp hc
      obtain ⟨g, hg, rfl⟩ := exists_gap_of_skipGap hu
      exact ⟨g, _, hg, ⟨k, by simpa using hk, rfl⟩, by simp⟩
    · cases h
  · rintro ⟨g, _, hg, ⟨k, hk, rfl⟩, rfl⟩
    have hs : skipGap (g ++ (('"' :: (k ++ ['"'])) ++ r)) = '"' :: (k ++ '"' :: r) := by
      rw [skipGap_append hg]
      simp [skipGap_cons (show isGap '"' = false by decide)]
    simp only [readText, hs, readString_eq_ok_iff.mpr ⟨k, hk, rfl⟩, Except.map, String.ofList_toList]

lemma Quotes.starts (h : Quotes w n) (s : List Char) : Starts (w ++ s) := by
  obtain ⟨k, -, rfl⟩ := h
  exact ⟨'"', _, rfl, by decide, by decide⟩

lemma Counts.starts (h : Counts w t) (s : List Char) : Starts (w ++ s) := by
  obtain ⟨c, u, rfl, hc⟩ := h.1.exists_cons
  refine ⟨c, u ++ s, rfl, not_isGap_of_isDigit hc, ?_⟩
  rintro rfl
  exact absurd hc (by decide)

end Values

section Drafts

variable {d d' : Draft} {f : Field} {key : Key} {fs : List Field}

def Field.key? : Field → Option Key
  | name _ => some .name
  | time _ => some .time
  | variance _ => some .variance
  | other => none

lemma Key.ofText?_eq_some_iff (key : Key) : Key.ofText? k = some key ↔ k = key.text.toList := by
  constructor
  · intro h
    have hk := List.find?_some h
    exact (of_decide_eq_true hk).symm
  · rintro rfl
    cases key <;> decide

lemma Key.ofText?_eq_none_iff : Key.ofText? k = none ↔ ∀ key : Key, k ≠ key.text.toList := by
  rw [Option.eq_none_iff_forall_ne_some]
  simp only [ne_eq, Key.ofText?_eq_some_iff]

lemma Field.isNamed_iff : f.IsNamed k ↔ Key.ofText? k = f.key? := by
  cases f with
  | name n => exact (Key.ofText?_eq_some_iff .name).symm
  | time t => exact (Key.ofText?_eq_some_iff .time).symm
  | variance t => exact (Key.ofText?_eq_some_iff .variance).symm
  | other =>
    rw [key?, Key.ofText?_eq_none_iff]
    constructor
    · rintro ⟨hn, ht, hv⟩ (_ | _ | _)
      · exact hn
      · exact ht
      · exact hv
    · intro h
      exact ⟨h .name, h .time, h .variance⟩

namespace Draft

def put (d : Draft) : Field → Draft
  | .name n => { d with name := some n }
  | .time t => { d with time := some t }
  | .variance v => { d with variance := some v }
  | .other => d

def Lacks (d : Draft) (f : Field) : Prop := ∀ key ∈ f.key?, d.has key = false

lemma exists_of_read (h : d.read s key = .ok (d', r)) :
    ∃ g w f, Gap g ∧ Says w f ∧ f.key? = some key ∧ s = g ++ (w ++ r) ∧ d' = d.put f := by
  cases key with
  | name =>
    obtain ⟨⟨n, t⟩, ht, hz⟩ := map_eq_ok h
    cases hz
    obtain ⟨g, w, hg, hw, rfl⟩ := readText_eq_ok_iff.mp ht
    exact ⟨g, w, .name n, hg, .name hw, rfl, rfl, rfl⟩
  | time =>
    obtain ⟨⟨v, t⟩, ht, hz⟩ := map_eq_ok h
    cases hz
    obtain ⟨g, w, hg, hw, rfl⟩ := exists_of_readTime ht
    exact ⟨g, w, .time v, hg, .time hw, rfl, rfl, rfl⟩
  | variance =>
    obtain ⟨⟨v, t⟩, ht, hz⟩ := map_eq_ok h
    cases hz
    obtain ⟨g, w, hg, hw, rfl⟩ := exists_of_readTime ht
    exact ⟨g, w, .variance v, hg, .variance hw, rfl, rfl, rfl⟩

lemma read_append (hg : Gap g) (hw : Says w f) (hk : f.key? = some key) (hr : Ends r) (d : Draft) :
    d.read (g ++ (w ++ r)) key = .ok (d.put f, r) := by
  cases hw with
  | name hw =>
    cases hk
    rw [read, readText_eq_ok_iff.mpr ⟨g, w, hg, hw, rfl⟩]
    rfl
  | time hw =>
    cases hk
    rw [read, readTime_append hg hw hr]
    rfl
  | variance hw =>
    cases hk
    rw [read, readTime_append hg hw hr]
    rfl
  | other => cases hk

end Draft

lemma exists_of_readMember (h : readMember d s = .ok (d', r)) :
    ∃ w f, Member w f ∧ '"' :: s = w ++ r ∧ d.Lacks f ∧ d' = d.put f := by
  rw [readMember] at h
  split at h
  · cases h
  · next name t hs =>
    obtain ⟨k, hk, rfl⟩ := readString_eq_ok_iff.mp hs
    split at h
    · next hn =>
      obtain ⟨r', hr, hz⟩ := map_eq_ok h
      cases hz
      obtain ⟨u, hu, hx⟩ := bind_eq_ok hr
      obtain ⟨g, hg, rfl⟩ := readColon_eq_ok_iff.mp hu
      obtain ⟨g', v, hg', hv, rfl⟩ := exists_of_skipValue hx
      exact ⟨_, .other, .mk hk (Field.isNamed_iff.mpr hn) hg hg' (.other hv), by simp,
        fun _ hkey => (nomatch hkey), rfl⟩
    · next key hn =>
      split_ifs at h with hhas
      split at h
      · cases h
      · next u hu =>
        obtain ⟨g, hg, rfl⟩ := readColon_eq_ok_iff.mp hu
        obtain ⟨g', v, f, hg', hv, hf, rfl, hd⟩ := Draft.exists_of_read h
        refine ⟨_, f, .mk hk (Field.isNamed_iff.mpr (hn.trans hf.symm)) hg hg' hv, by simp, ?_, hd⟩
        simpa [Draft.Lacks, hf] using hhas

lemma readMember_append (hw : Member ('"' :: u) f) (hr : Ends r) (hd : d.Lacks f) :
    readMember d (u ++ r) = .ok (d.put f, r) := by
  cases hw with
  | mk hk hn hg hg' hv =>
    simp only [List.append_assoc, List.cons_append]
    rw [readMember, readString_eq_ok_iff.mpr ⟨_, hk, rfl⟩]
    simp only [Field.isNamed_iff.mp hn, readColon_eq_ok_iff.mpr ⟨_, hg, rfl⟩]
    cases hf : f.key? with
    | none =>
      cases hv with
      | other hv => simp [skipValue_append hg' hv hr, bind, Except.bind, Except.map, Draft.put]
      | _ => cases hf
    | some key => simp [hd key hf, Draft.read_append hg' hv hf hr]

inductive Draft.Takes : Draft → List Field → Draft → Prop
  | nil {d : Draft} : Takes d [] d
  | cons {d d' : Draft} {f : Field} {fs : List Field} : d.Lacks f → Takes (d.put f) fs d' → Takes d (f :: fs) d'

lemma exists_of_readMembers (h : readMembers first d s = .ok (m, r)) :
    ∃ fs d', Listed Member '\x7d' first s fs r ∧ d.Takes fs d' ∧ d'.finish = .ok m := by
  fun_induction readMembers first d s with
  | case1 => cases h
  | case2 first d s r' hn m' hf =>
    cases h
    obtain ⟨g, hg, rfl⟩ := nextKey_close_iff.mp hn
    exact ⟨[], d, .done hg, .nil, hf⟩
  | case3 => cases h
  | case4 => cases h
  | case5 first d s r' hn d' u hm ih =>
    obtain ⟨fs, d'', hl, ht, hf⟩ := ih h
    obtain ⟨w, f, hw, hs, hd, rfl⟩ := exists_of_readMember hm
    refine ⟨f :: fs, d'', ?_, .cons hd ht, hf⟩
    cases first with
    | true =>
      obtain ⟨g, hg, rfl⟩ := nextKey_first_iff.mp hn
      rw [hs]
      exact .first hg hw hl
    | false =>
      obtain ⟨g, g', hg, hg', rfl⟩ := nextKey_more_iff.mp hn
      rw [hs]
      exact .more hg hg' hw hl

lemma Member.exists_cons (h : Member w f) : ∃ u, w = '"' :: u := by
  cases h
  exact ⟨_, rfl⟩

lemma readMembers_close (hn : nextKey first s = .ok (.close r)) (hf : d.finish = .ok m) :
    readMembers first d s = .ok (m, r) := by
  rw [readMembers.eq_def]
  split
  · next he => simp [hn] at he
  · next he =>
    rw [hn] at he
    cases he
    rw [hf]
  · next he => simp [hn] at he

lemma readMembers_member (hn : nextKey first s = .ok (.member u)) (hm : readMember d u = .ok (d', r)) :
    readMembers first d s = readMembers false d' r := by
  rw [readMembers.eq_def]
  split
  · next he => simp [hn] at he
  · next he => simp [hn] at he
  · next he =>
    rw [hn] at he
    cases he
    split
    · next he => simp [hm] at he
    · next he =>
      rw [hm] at he
      cases he
      rfl

lemma readMembers_of_listed (h : Listed Member '\x7d' first s fs r) (ht : d.Takes fs d')
    (hf : d'.finish = .ok m) : readMembers first d s = .ok (m, r) := by
  induction h generalizing d with
  | done hg =>
    cases ht
    exact readMembers_close (nextKey_close_iff.mpr ⟨_, hg, rfl⟩) hf
  | first hg hw hl ih =>
    obtain ⟨u, rfl⟩ := hw.exists_cons
    cases ht with
    | cons hd ht =>
      have hm := readMember_append hw (hl.ends (b := .object)) hd
      rw [List.cons_append, readMembers_member (nextKey_first_iff.mpr ⟨_, hg, rfl⟩) hm]
      exact ih ht
  | more hg hg' hw hl ih =>
    obtain ⟨u, rfl⟩ := hw.exists_cons
    cases ht with
    | cons hd ht =>
      have hm := readMember_append hw (hl.ends (b := .object)) hd
      rw [List.cons_append, readMembers_member (nextKey_more_iff.mpr ⟨_, _, hg, hg', rfl⟩) hm]
      exact ih ht

lemma Draft.takes_cons_iff : d.Takes (f :: fs) d' ↔ d.Lacks f ∧ (d.put f).Takes fs d' := by
  constructor
  · rintro (_ | ⟨hd, ht⟩)
    exact ⟨hd, ht⟩
  · rintro ⟨hd, ht⟩
    exact .cons hd ht

lemma toList_injective {β : Type} {x y : Option β} (h : x.toList = y.toList) : x = y := by
  cases x <;> cases y <;> simp_all

lemma toList_append_eq_iff {β : Type} {x y : Option β} {b : β} {bs : List β} :
    x.toList ++ b :: bs = y.toList ↔ x = none ∧ b :: bs = y.toList := by
  cases x <;> cases y <;> simp

lemma Draft.takes_iff :
    d.Takes fs d' ↔ d.name.toList ++ fs.filterMap Field.name? = d'.name.toList ∧
      d.time.toList ++ fs.filterMap Field.time? = d'.time.toList ∧
      d.variance.toList ++ fs.filterMap Field.variance? = d'.variance.toList := by
  induction fs generalizing d with
  | nil =>
    obtain ⟨n, t, v⟩ := d
    obtain ⟨n', t', v'⟩ := d'
    constructor
    · rintro ⟨⟩
      simp
    · simp only [List.filterMap_nil, List.append_nil]
      rintro ⟨hn, ht, hv⟩
      rw [toList_injective hn, toList_injective ht, toList_injective hv]
      exact .nil
  | cons f fs ih =>
    rw [takes_cons_iff, ih]
    cases f with
    | name n =>
      simp [Lacks, Field.key?, has, put, List.filterMap_cons, Field.name?, Field.time?, Field.variance?,
        toList_append_eq_iff, and_assoc]
    | time t =>
      simp [Lacks, Field.key?, has, put, List.filterMap_cons, Field.name?, Field.time?, Field.variance?,
        toList_append_eq_iff]
      tauto
    | variance v =>
      simp [Lacks, Field.key?, has, put, List.filterMap_cons, Field.name?, Field.time?, Field.variance?,
        toList_append_eq_iff]
      tauto
    | other =>
      simp [Lacks, Field.key?, put, List.filterMap_cons, Field.name?, Field.time?, Field.variance?]

lemma Draft.finish_eq_ok_iff :
    d.finish = .ok m ↔ d = ⟨some m.name, some m.timeNs, some m.varianceNs⟩ := by
  obtain ⟨n, t, v⟩ := d
  obtain ⟨n', t', v'⟩ := m
  cases n <;> cases t <;> cases v <;> simp [finish]

lemma comprises_iff : Comprises fs m ↔ ∃ d' : Draft, Draft.Takes {} fs d' ∧ d'.finish = .ok m := by
  simp only [Draft.finish_eq_ok_iff, Draft.takes_iff, exists_eq_right, Option.toList_none,
    Option.toList_some, List.nil_append]
  constructor
  · rintro ⟨hn, ht, hv⟩
    exact ⟨hn, ht, hv⟩
  · rintro ⟨hn, ht, hv⟩
    exact ⟨hn, ht, hv⟩

end Drafts

section Records

variable {fs : List Field} {ms : List Measurement}

lemma readMembers_eq_ok_iff :
    readMembers true {} s = .ok (m, r) ↔ ∃ fs, Listed Member '\x7d' true s fs r ∧ Comprises fs m := by
  constructor
  · intro h
    obtain ⟨fs, d, hl, ht, hf⟩ := exists_of_readMembers h
    exact ⟨fs, hl, comprises_iff.mpr ⟨d, ht, hf⟩⟩
  · rintro ⟨fs, hl, hc⟩
    obtain ⟨d, ht, hf⟩ := comprises_iff.mp hc
    exact readMembers_of_listed hl ht hf

variable {β : Type} {x : β} {read : List Char → Except Fault (β × List Char)} {i : ℕ}

lemma exists_of_readPlace (h : readPlace i read s = .ok (x, r)) :
    ∃ u, read u = .ok (x, r) ∧ ((i = 0 ∧ ∃ g, Gap g ∧ s = g ++ u) ∨
      i ≠ 0 ∧ ∃ g g', Gap g ∧ Gap g' ∧ s = g ++ ',' :: (g' ++ u)) := by
  rw [readPlace] at h
  split at h
  · cases h
  · cases h
  · next u hu => exact ⟨u, h, by simpa using exists_of_nextElement hu⟩

lemma readPlace_first (hg : Gap g) (hu : Starts u) : readPlace 0 read (g ++ u) = read u := by
  simp only [readPlace, decide_true, nextElement_first hg hu]

lemma readPlace_more {g' : List Char} (hi : i ≠ 0) (hg : Gap g) (hg' : Gap g') (hu : Starts u) :
    readPlace i read (g ++ ',' :: (g' ++ u)) = read u := by
  simp only [readPlace, decide_eq_false hi, nextElement_more hg hg' hu]

lemma exists_of_readPlace_text (h : readPlace 0 readText s = .ok (n, r)) :
    ∃ g w, Gap g ∧ Quotes w n ∧ s = g ++ (w ++ r) := by
  obtain ⟨u, hu, ⟨-, g, hg, rfl⟩ | ⟨hi, -⟩⟩ := exists_of_readPlace h
  · obtain ⟨g', w, hg', hw, rfl⟩ := readText_eq_ok_iff.mp hu
    exact ⟨g ++ g', w, gap_append hg hg', hw, by simp⟩
  · exact absurd rfl hi

lemma exists_of_readPlace_time (hi : i ≠ 0) (h : readPlace i readTime s = .ok (t, r)) :
    ∃ g g' w, Gap g ∧ Gap g' ∧ Counts w t ∧ s = g ++ ',' :: (g' ++ (w ++ r)) := by
  obtain ⟨u, hu, ⟨hi', -⟩ | ⟨-, g, g₁, hg, hg₁, rfl⟩⟩ := exists_of_readPlace h
  · exact absurd hi' hi
  · obtain ⟨g₂, w, hg₂, hw, rfl⟩ := exists_of_readTime hu
    exact ⟨g, g₁ ++ g₂, w, hg, gap_append hg₁ hg₂, hw, by simp⟩

lemma listed_of_readTriple (h : readTriple s = .ok (m, r)) :
    Listed Says ']' true s [.name m.name, .time m.timeNs, .variance m.varianceNs] r := by
  rw [readTriple] at h
  obtain ⟨⟨n, s₁⟩, h₁, h⟩ := bind_eq_ok h
  obtain ⟨⟨t, s₂⟩, h₂, h⟩ := bind_eq_ok h
  obtain ⟨⟨v, s₃⟩, h₃, h⟩ := bind_eq_ok h
  obtain ⟨s₄, h₄, h⟩ := bind_eq_ok h
  cases h
  obtain ⟨g₁, w₁, hg₁, hw₁, rfl⟩ := exists_of_readPlace_text h₁
  obtain ⟨g₂, g₂', w₂, hg₂, hg₂', hw₂, rfl⟩ := exists_of_readPlace_time (by decide) h₂
  obtain ⟨g₃, g₃', w₃, hg₃, hg₃', hw₃, rfl⟩ := exists_of_readPlace_time (by decide) h₃
  obtain ⟨g₄, hg₄, rfl⟩ := closeTriple_eq_ok_iff.mp h₄
  exact .first hg₁ (.name hw₁) (.more hg₂ hg₂' (.time hw₂) (.more hg₃ hg₃' (.variance hw₃) (.done hg₄)))

lemma readPlace_text (hg : Gap g) (hw : Quotes w n) (r : List Char) :
    readPlace 0 readText (g ++ (w ++ r)) = .ok (n, r) := by
  rw [readPlace_first hg (hw.starts r)]
  exact readText_eq_ok_iff.mpr ⟨[], w, gap_nil, hw, rfl⟩

lemma readPlace_time {g' : List Char} (hi : i ≠ 0) (hg : Gap g) (hg' : Gap g') (hw : Counts w t)
    (hr : Ends r) : readPlace i readTime (g ++ ',' :: (g' ++ (w ++ r))) = .ok (t, r) := by
  rw [readPlace_more hi hg hg' (hw.starts r)]
  exact readTime_append gap_nil hw hr

lemma readTriple_of_listed (h : Listed Says ']' true s [.name n, .time t, .variance v] r) :
    readTriple s = .ok (⟨n, t, v⟩, r) := by
  obtain _ | ⟨hg₁, hw₁, h₁⟩ | _ := h
  obtain ⟨hw₁⟩ := hw₁
  obtain _ | _ | ⟨hg₂, hg₂', hw₂, h₂⟩ := h₁
  obtain _ | ⟨hw₂⟩ := hw₂
  have hr₂ := readPlace_time (i := 1) (by decide) hg₂ hg₂' hw₂ (h₂.ends (b := .list))
  obtain _ | _ | ⟨hg₃, hg₃', hw₃, h₃⟩ := h₂
  obtain _ | _ | ⟨hw₃⟩ := hw₃
  have hr₃ := readPlace_time (i := 2) (by decide) hg₃ hg₃' hw₃ (h₃.ends (b := .list))
  obtain ⟨hg₄⟩ := h₃
  have hr₄ := (closeTriple_eq_ok_iff (r := r)).mpr ⟨_, hg₄, rfl⟩
  rw [readTriple]
  simp only [readPlace_text hg₁ hw₁, hr₂, hr₃, hr₄, bind, Except.bind]
  rfl

lemma exists_of_readRecord (h : readRecord s = .ok (m, r)) :
    ∃ g w, Gap g ∧ Record w m ∧ s = g ++ (w ++ r) := by
  rw [readRecord] at h
  split at h
  · next u hu =>
    obtain ⟨g, hg, rfl⟩ := exists_gap_of_skipGap hu
    rcases listed_true_iff.mp (listed_of_readTriple h) with ⟨hn, -⟩ | ⟨w, hw, rfl⟩
    · cases hn
    · exact ⟨g, _, hg, .triple hw, by simp⟩
  · next u hu =>
    obtain ⟨g, hg, rfl⟩ := exists_gap_of_skipGap hu
    obtain ⟨fs, hl, hc⟩ := readMembers_eq_ok_iff.mp h
    rcases listed_true_iff.mp hl with ⟨rfl, -⟩ | ⟨w, hw, rfl⟩
    · cases hc.name
    · exact ⟨g, _, hg, .object hw hc, by simp⟩
  · cases h

lemma readRecord_append (hg : Gap g) (hw : Record w m) (r : List Char) :
    readRecord (g ++ (w ++ r)) = .ok (m, r) := by
  cases hw with
  | @object w fs _ hs hc =>
    have hsk : skipGap (g ++ ('\x7b' :: (w ++ ['\x7d']) ++ r)) = '\x7b' :: (w ++ '\x7d' :: r) := by
      rw [skipGap_append hg, List.cons_append, skipGap_cons (by decide)]
      simp
    simp only [readRecord, hsk]
    exact readMembers_eq_ok_iff.mpr ⟨fs, hs.listed _ r, hc⟩
  | @triple w n t v hs =>
    have hsk : skipGap (g ++ ('[' :: (w ++ [']']) ++ r)) = '[' :: (w ++ ']' :: r) := by
      rw [skipGap_append hg, List.cons_append, skipGap_cons (by decide)]
      simp
    simp only [readRecord, hsk]
    exact readTriple_of_listed (hs.listed _ r)

lemma Record.starts (hw : Record w m) (r : List Char) : Starts (w ++ r) := by
  cases hw with
  | object => exact ⟨'\x7b', _, rfl, by decide, by decide⟩
  | triple => exact ⟨'[', _, rfl, by decide, by decide⟩

lemma readElements_close (hn : nextElement first s = .ok (.close r)) : readElements first s = .ok ([], r) := by
  rw [readElements.eq_def]
  split
  · next he => simp [hn] at he
  · next he =>
    rw [hn] at he
    cases he
    rfl
  · next he => simp [hn] at he

lemma readElements_member (hn : nextElement first s = .ok (.member u)) (hr : readRecord u = .ok (m, r)) :
    readElements first s = (readElements false r).map fun (ms, rest) => (m :: ms, rest) := by
  rw [readElements.eq_def]
  split
  · next he => simp [hn] at he
  · next he => simp [hn] at he
  · next he =>
    rw [hn] at he
    cases he
    split
    · next he => simp [hr] at he
    · next he =>
      rw [hr] at he
      cases he
      rfl

lemma readElements_eq_ok_iff :
    readElements first s = .ok (ms, r) ↔ Listed Record ']' first s ms r := by
  constructor
  · intro h
    fun_induction readElements first s generalizing ms with
    | case1 => cases h
    | case2 first s r' hn =>
      cases h
      obtain ⟨g, hg, rfl⟩ := nextElement_close_iff.mp hn
      exact .done hg
    | case3 => cases h
    | case4 first s u hn m u' hm ih =>
      obtain ⟨⟨ms, r'⟩, hms, hz⟩ := map_eq_ok h
      cases hz
      have hl := ih hms
      obtain ⟨g', w, hg', hw, rfl⟩ := exists_of_readRecord hm
      obtain ⟨rfl, g, hg, rfl⟩ | ⟨rfl, g, g₁, hg, hg₁, rfl⟩ := exists_of_nextElement hn
      · rw [← List.append_assoc]
        exact .first (gap_append hg hg') hw hl
      · rw [← List.append_assoc g₁]
        exact .more hg (gap_append hg₁ hg') hw hl
  · intro h
    induction h with
    | done hg => exact readElements_close (nextElement_close_iff.mpr ⟨_, hg, rfl⟩)
    | first hg hw hl ih =>
      have hr := readRecord_append gap_nil hw
      rw [readElements_member (nextElement_first hg (hw.starts _)) (hr _), ih]
      rfl
    | more hg hg' hw hl ih =>
      have hr := readRecord_append gap_nil hw
      rw [readElements_member (nextElement_more hg hg' (hw.starts _)) (hr _), ih]
      rfl

lemma readList_eq_ok_iff : readList s = .ok ms ↔ IsReport s ms := by
  constructor
  · intro h
    rw [readList] at h
    split at h
    · next u hu =>
      obtain ⟨g, hg, rfl⟩ := exists_gap_of_skipGap hu
      split at h
      · cases h
      · next ms' r hr =>
        split at h
        · next hgap =>
          cases h
          obtain ⟨g', hg', he⟩ := exists_gap_of_skipGap hgap
          rw [List.append_nil] at he
          subst he
          rcases listed_true_iff.mp (readElements_eq_ok_iff.mp hr) with ⟨rfl, g₁, hg₁, rfl⟩ | ⟨w, hw, rfl⟩
          · exact .empty hg hg₁ hg'
          · exact .records hg hw hg'
        · cases h
    · cases h
  · intro h
    have hread {g u r : List Char} (hg : Gap g) (hl : Listed Record ']' true u ms r) (hr : Gap r) :
        readList (g ++ '[' :: u) = .ok ms := by
      have hs : skipGap (g ++ '[' :: u) = '[' :: u := skipGap_append_cons hg (by decide) _
      simp only [readList, hs, readElements_eq_ok_iff.mpr hl, skipGap_gap hr]
    cases h with
    | empty hg hg' hg'' => exact hread hg (.done hg') hg''
    | records hg hw hg' => exact hread hg (hw.listed ']' _) hg'

end Records

end BenchReport.Report
