import BenchReport.Proofs.OutputsInjective
import BenchReport.Proofs.ReportPrinting
import BenchReport.Proofs.Words

/-! What is written of measurements is no benchmark output: a scan finds nothing in it. In the report and in
the summary the first word of a result is never followed by a blank, and in the table its last words never meet. -/

namespace BenchReport

open Text ResultLine

variable {c : Char} {s u : List Char} {m : Measurement} {ms : List Measurement} {text : String}

namespace Hit

lemma all_eq_nil (h : ∀ (u r : List Char) (f : Form), text.toList ≠ u ++ (f.text ++ r)) : all text = [] := by
  rw [all_eq_onward, onward_of_forall_none (Nat.zero_le text.toList.length)]
  · exact onward_of_length_le (Nat.le_refl _)
  · intro k _ _
    apply at?_eq_none_iff.mpr
    intro f r hk
    apply h (text.toList.take k) r f
    rw [← hk, List.take_append_drop]

/-- Whether a text has no blank right behind a `t`, which is how every result begins. -/
abbrev isUnopened (s : List Char) : Bool := isFollowed (· == 't') isVisible s

lemma all_eq_nil_of_isUnopened (h : isUnopened text.toList = true) : all text = [] := by
  apply all_eq_nil
  intro u r f ht
  obtain ⟨c, w, hw⟩ := List.exists_cons_of_ne_nil f.lead.ne_nil
  have hblank : isBlank c = true := f.lead.all c (by simp [hw])
  have hopen : f.text ++ r = "tes".toList ++ 't' :: c :: (w ++ (f.name.chars ++ (f.gap.chars ++
      (f.filler ++ f.tail.text))) ++ r) := by
    delta Form.text
    rw [hw]
    rfl
  rw [ht, hopen, ← List.append_assoc] at h
  have hv := of_isFollowed h rfl
  simp [isVisible, hblank] at hv

def unit : List Char := "ns/iter".toList

def sign : List Char := "(+/-".toList

abbrev isUnended (s : List Char) : Bool := isFollowed (· == unit) (· != sign) (words s)

lemma words_form (u : List Char) (f : Form) (r : List Char) :
    ∃ ws ws', words (u ++ (f.text ++ r)) = ws ++ unit :: sign :: ws' := by
  let before := u ++ "test".toList ++ f.lead.chars ++ f.name.chars ++ f.gap.chars ++ f.filler ++ "bench:".toList ++
    f.tail.lead.chars ++ f.tail.time.chars
  let behind := f.tail.variance.chars ++ ")".toList ++ r
  have hcut : u ++ (f.text ++ r) = before ++ (f.tail.timeGap.chars ++ (unit ++ (f.tail.unitGap.chars ++
      (sign ++ (f.tail.signGap.chars ++ behind))))) := by
    delta Form.text Tail.text
    simp only [before, behind, List.append_assoc]
    rfl
  have hunit : words unit = [unit] := by decide
  have hsign : words sign = [sign] := by decide
  refine ⟨words before, words behind, ?_⟩
  rw [hcut, words_append_run, words_append_run, words_append_run, hunit, hsign]
  rfl

lemma all_eq_nil_of_isUnended (h : isUnended text.toList = true) : all text = [] := by
  apply all_eq_nil
  intro u r f ht
  obtain ⟨ws, ws', hw⟩ := words_form u f r
  rw [isUnended, ht, hw] at h
  have hne := of_isFollowed h (beq_self_eq_true unit)
  simp at hne

end Hit

open Hit Measurement

lemma isUnopened_of_not_mem (h : 't' ∉ s) : isUnopened s = true :=
  isFollowed_of_forall fun _ hc => beq_false_of_ne fun he => h (he ▸ hc)

namespace Report

lemma isVisible_escapedChar (hc : isVisible c = true) : ∀ d ∈ escapedChar c, isVisible d = true := by
  have hshort : ∀ n < 0x10, ("\\u000".toList ++ hexDigits n).all isVisible = true := by decide
  have hlong : ∀ n < 0x20, ("\\u00".toList ++ hexDigits n).all isVisible = true := by decide
  rw [escapedChar]
  split_ifs with hq hb hf hn hr ht hx hy
  · exact List.forall_mem_cons.mpr ⟨by decide, List.forall_mem_singleton.mpr hc⟩
  · exact List.all_eq_true.mp (by decide)
  · exact List.all_eq_true.mp (by decide)
  · exact List.all_eq_true.mp (by decide)
  · exact List.all_eq_true.mp (by decide)
  · exact List.all_eq_true.mp (by decide)
  · exact List.all_eq_true.mp (hshort _ hx)
  · exact List.all_eq_true.mp (hlong _ hy)
  · exact List.forall_mem_singleton.mpr hc

lemma isUnopened_string (hs : ∀ c ∈ s, isVisible c = true) : isUnopened (string s) = true := by
  apply isFollowed_concat
  · refine List.forall_mem_cons.mpr ⟨by decide, fun d hd => ?_⟩
    obtain ⟨c, hc, hd⟩ := List.mem_flatMap.mp hd
    exact isVisible_escapedChar (hs c hc) d hd
  · rfl
  · rfl

lemma isUnopened_intercalate {ls : List (List Char)} (h : ∀ l ∈ ls, isUnopened l = true) :
    isUnopened ([','].intercalate ls) = true := by
  induction ls with
  | nil => rfl
  | cons l ls ih =>
    obtain ⟨hl, hls⟩ := List.forall_mem_cons.mp h
    cases ls with
    | nil => simpa using hl
    | cons l' ls =>
      rw [List.intercalate_cons_cons]
      exact isFollowed_append (isFollowed_append hl rfl) (ih hls)

lemma not_mem_newLine (n : ℕ) : 't' ∉ newLine n := fun h => by
  simp [newLine] at h

lemma Magnitude.not_mem {w : List Char} (h : Magnitude w) : 't' ∉ w := by
  have hdigits {ds : List Char} (hd : Digits ds) : 't' ∉ ds := fun hm => absurd (hd _ hm) (by decide)
  obtain ⟨hi, hf, he⟩ := h
  simp only [List.mem_append, not_or]
  refine ⟨hdigits hi.digits_all, ?_, ?_⟩
  · cases hf with
    | none => exact List.not_mem_nil
    | some _ hd => exact List.not_mem_cons_of_ne_of_not_mem (by decide) (hdigits hd)
  · cases he with
    | none => exact List.not_mem_nil
    | some hmark hsign _ hd =>
      have hs : ∀ u ∈ [[], ['+'], ['-']], 't' ∉ u := by decide
      have hm : 't' ∉ ['e', 'E'] := by decide
      refine List.not_mem_cons_of_ne_of_not_mem (ne_of_mem_of_not_mem hmark hm).symm ?_
      rw [List.mem_append, not_or]
      exact ⟨hs _ hsign, hdigits hd⟩

lemma isUnopened_fields (h : m.IsVisible) : ∀ kv ∈ fields m,
    (∀ c ∈ kv.1.toList, isVisible c = true) ∧ isUnopened kv.2 = true := by
  have hnumber (n : ℕ) : isUnopened (Nat.toDigits 10 n) = true := isUnopened_of_not_mem (not_mem_toDigits rfl)
  have hdouble (x : Binary64) : isUnopened (Layout.report.write x).toList = true :=
    isUnopened_of_not_mem (magnitude_write x).not_mem
  have hkey {k : String} (hk : k.toList.all isVisible = true) : ∀ c ∈ k.toList, isVisible c = true :=
    List.all_eq_true.mp hk
  simp only [fields, List.forall_mem_cons]
  exact ⟨⟨hkey (by decide), isUnopened_string h⟩, ⟨hkey (by decide), hnumber _⟩, ⟨hkey (by decide), hnumber _⟩,
    ⟨hkey (by decide), hdouble _⟩, ⟨hkey (by decide), hdouble _⟩, List.forall_mem_nil _⟩

lemma isUnopened_prettyRecord (n : ℕ) (h : m.IsVisible) : isUnopened (prettyRecord n m) = true := by
  have hline (k : ℕ) : isUnopened (newLine k) = true := isUnopened_of_not_mem (not_mem_newLine k)
  refine isFollowed_append (isFollowed_append (isFollowed_cons_of_not rfl ?_) (hline n)) rfl
  apply isUnopened_intercalate
  refine List.forall_mem_map.mpr fun kv hkv => ?_
  obtain ⟨hk, hv⟩ := isUnopened_fields h kv hkv
  exact isFollowed_append (isFollowed_append (hline _) (isUnopened_string hk))
    (isFollowed_cons_of_not rfl (isFollowed_cons_of_not rfl hv))

lemma isUnopened_write (h : ∀ m ∈ ms, m.IsVisible) : isUnopened (write ms).toList = true := by
  have hline (k : ℕ) : isUnopened (newLine k) = true := isUnopened_of_not_mem (not_mem_newLine k)
  rw [write, String.toList_ofList]
  cases ms with
  | nil => rfl
  | cons m ms =>
    refine isFollowed_append (isFollowed_append (isFollowed_cons_of_not rfl ?_) (hline 0)) rfl
    apply isUnopened_intercalate
    refine List.forall_mem_map.mpr fun m hm => ?_
    exact isFollowed_append (hline 2) (isUnopened_prettyRecord 2 (h m hm))

end Report

lemma isUnopened_ended {ls : List String} (h : ∀ l ∈ ls, isUnopened l.toList = true) :
    isUnopened (ended ls).toList = true := by
  induction ls with
  | nil => rfl
  | cons l ls ih =>
    obtain ⟨hl, hls⟩ := List.forall_mem_cons.mp h
    rw [toList_ended_cons]
    exact isFollowed_append hl (isFollowed_cons_of_not rfl (ih hls))

namespace Summary

lemma isUnopened_write (h : ∀ m ∈ ms, m.IsVisible) : isUnopened (write ms).toList = true := by
  have hnumber (n : ℕ) : isUnopened n.repr.toList = true := by
    rw [Nat.toList_repr]
    exact isUnopened_of_not_mem (not_mem_toDigits rfl)
  have hfirst (n : ℕ) : isUnopened (firstLine n).toList = true := by
    simp only [firstLine, String.toList_append]
    exact isFollowed_append (isFollowed_append (by decide) (hnumber n)) (by decide)
  have hline (m : Measurement) (hm : m.IsVisible) : isUnopened (line m).toList = true := by
    have hname : isUnopened (m.name.toList ++ [':']) = true := isFollowed_concat hm rfl rfl
    have hcut : (line m).toList =
        "  ".toList ++ (m.name.toList ++ [':']) ++ [' '] ++ m.timeNs.toNat.repr.toList ++ " ns".toList := by
      simp only [line, String.toList_append, List.append_assoc]
      rfl
    rw [hcut]
    exact isFollowed_append (isFollowed_append (isFollowed_append (isFollowed_append rfl hname) rfl) (hnumber _)) (by decide)
  rw [write_eq]
  apply isUnopened_ended
  exact List.forall_mem_cons.mpr ⟨hfirst _, List.forall_mem_map.mpr fun m hm => hline m (h m hm)⟩

end Summary

lemma words_ended (ls : List String) : words (ended ls).toList = ls.flatMap fun l => words l.toList := by
  induction ls with
  | nil => rfl
  | cons l ls ih =>
    rw [toList_ended_cons, words_append_cons rfl, ih]
    rfl

lemma isUnended_of_not_mem (h : '/' ∉ s) : isUnended s = true := by
  apply isFollowed_of_forall
  intro w hw
  apply beq_false_of_ne
  rintro rfl
  exact h (mem_of_mem_words hw (by decide))

namespace Table

lemma isUnended_row (h : m.IsVisible) : isUnended (row m).toList = true := by
  let behind := m.timeNs.toNat.repr.toList ++ " | ".toList ++ m.varianceNs.toNat.repr.toList ++ " | ".toList ++
    (Layout.table.write m.timeUs).toList ++ " | ".toList ++ (Layout.table.write m.timeMs).toList ++ " |".toList
  have hcut : (row m).toList = ['|'] ++ ' ' :: (m.name.toList ++ ' ' :: (['|'] ++ ' ' :: behind)) := by
    simp only [row, behind, String.toList_append, List.append_assoc]
    rfl
  have hbehind : '/' ∉ behind := by
    simp only [behind, List.mem_append, not_or, Nat.toList_repr]
    refine ⟨⟨⟨⟨⟨⟨⟨not_mem_toDigits rfl, ?_⟩, not_mem_toDigits rfl⟩, ?_⟩, not_mem_numeral rfl (by decide)⟩, ?_⟩,
      not_mem_numeral rfl (by decide)⟩, ?_⟩ <;> decide
  have hbar : words ['|'] = [['|']] := by decide
  have hname : isFollowed (· == unit) (· != sign) (words m.name.toList ++ [['|']]) = true := by
    rw [words_of_visible h]
    split_ifs
    · rfl
    · exact isFollowed_cons_iff.mpr ⟨fun _ => rfl, rfl⟩
  rw [isUnended, hcut, words_append_cons rfl, words_append_cons rfl, words_append_cons rfl, hbar,
    ← List.append_assoc (words m.name.toList)]
  exact isFollowed_append rfl (isFollowed_append hname (isUnended_of_not_mem hbehind))

lemma isUnended_write (h : ∀ m ∈ ms, m.IsVisible) (t : Instant) : isUnended (write ms t).toList = true := by
  have hinstant : '/' ∉ ("Generated: " ++ t.write).toList := by
    rw [String.toList_append, List.mem_append, not_or]
    exact ⟨by decide, Instant.not_mem_write rfl (by decide)⟩
  have htotal : '/' ∉ ("Total benchmarks: " ++ ms.length.repr).toList := by
    rw [String.toList_append, List.mem_append, not_or, Nat.toList_repr]
    exact ⟨by decide, not_mem_toDigits rfl⟩
  have hwords : words (write ms t).toList = (lines ms t).flatMap fun l => words l.toList := words_ended _
  rw [isUnended, hwords]
  apply isFollowed_flatMap
  simp only [lines, List.forall_mem_append, List.forall_mem_cons, List.forall_mem_map, List.not_mem_nil,
    false_implies, implies_true, and_true]
  refine ⟨⟨⟨?_, ?_, isUnended_of_not_mem hinstant, ?_, ?_, ?_⟩, fun m hm => isUnended_row (h m hm)⟩, ?_, ?_,
    isUnended_of_not_mem htotal⟩
  all_goals exact isUnended_of_not_mem (by decide +kernel)

end Table

theorem outputs_silent (text : String) (t : Instant) :
    Finding.all (Report.write (extract text)) = [] ∧ Finding.all (Summary.write (extract text)) = [] ∧
      Finding.all (Table.write (extract text) t) = [] := by
  have hvisible : ∀ m ∈ extract text, m.IsVisible := fun _ => isVisible_of_mem_extract
  have hreport := all_eq_nil_of_isUnopened (Report.isUnopened_write hvisible)
  have hsummary := all_eq_nil_of_isUnopened (Summary.isUnopened_write hvisible)
  have htable := all_eq_nil_of_isUnended (Table.isUnended_write hvisible t)
  exact ⟨congrArg (List.map Finding.ofHit) hreport, congrArg (List.map Finding.ofHit) hsummary,
    congrArg (List.map Finding.ofHit) htable⟩

end BenchReport
