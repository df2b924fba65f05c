import BenchReport.Proofs.GroupedNumeral
import BenchReport.Proofs.Lines
import BenchReport.Proofs.Reference

/-! What a benchmark run prints, and that its measurements are got back from it. -/

namespace BenchReport

open Text ResultLine

namespace Numeral

def run (n : UInt64) : Run isNumeral where
  chars := grouped n
  ne_nil := grouped_ne_nil n
  all := by
    intro c hc
    rcases isDigit_or_comma_of_mem_grouped hc with hd | rfl
    · simp [isNumeral, hd]
    · rfl

end Numeral

def spaces (n : ℕ) : Run isBlank where
  chars := List.replicate (n + 1) ' '
  ne_nil := List.replicate_succ ▸ List.cons_ne_nil _ _
  all := by
    intro c hc
    obtain rfl := List.eq_of_mem_replicate hc
    decide

inductive Printed
  | result (name : Run isVisible) (timeNs varianceNs : UInt64) (afterName afterMark : ℕ)
  | other (text : List Char) (silent : ¬ "test".toList <:+: text)

namespace Printed

def line : Printed → List Char
  | result name timeNs varianceNs afterName afterMark =>
    "test ".toList ++ name.chars ++ (spaces afterName).chars ++ "... bench:".toList ++
      (spaces afterMark).chars ++ Numeral.grouped timeNs ++ " ns/iter (+/- ".toList ++
      Numeral.grouped varianceNs ++ ")".toList
  | other text _ => text

def measurement? : Printed → Option Measurement
  | result name timeNs varianceNs _ _ => some ⟨.ofList name.chars, timeNs, varianceNs⟩
  | other .. => none

def transcript (ps : List Printed) : String := .ofList (ps.flatMap fun p => p.line ++ ['\n'])

section

variable (name : Run isVisible) (timeNs varianceNs : UInt64) (afterName afterMark : ℕ)

def form : Form where
  lead := spaces 0
  name := name
  gap := spaces afterName
  filler := "... ".toList
  inLine := List.all_eq_true.mp (by decide)
  tail := ⟨spaces afterMark, Numeral.run timeNs, spaces 0, spaces 0, spaces 0, Numeral.run varianceNs⟩

lemma text_form :
    (form name timeNs varianceNs afterName afterMark).text =
      (result name timeNs varianceNs afterName afterMark).line := by
  delta Form.text Tail.text line
  simp only [List.append_assoc]
  rfl

end

lemma all_line (p : Printed) (s : List Char) :
    Finding.all (.ofList (p.line ++ '\n' :: s)) =
      (p.measurement?.map Finding.matched).toList ++ Finding.all (.ofList s) := by
  rw [Finding.all_ofList, Finding.all_ofList]
  cases p with
  | other text silent =>
    change (Hit.onward (text ++ '\n' :: s) 0).map Finding.ofHit = (Hit.onward s 0).map Finding.ofHit
    rw [Hit.onward_silent silent, Finding.map_ofHit_shift]
  | result name timeNs varianceNs afterName afterMark =>
    have hl : (form name timeNs varianceNs afterName afterMark).IsLongest ('\n' :: s) :=
      Form.isLongest_feed _ (Pattern.head?_word (u := "... ".toList) (by decide) (by decide) _)
    have hh : Hit.at? 0 ((form name timeNs varianceNs afterName afterMark).text ++ '\n' :: s) =
        some ⟨0, (form name timeNs varianceNs afterName afterMark).text.length, .ofList name.chars,
          .ofList (Numeral.grouped timeNs), .ofList (Numeral.grouped varianceNs)⟩ := by
      rw [Hit.at?_eq_reference?, Hit.reference?_eq_some_iff]
      exact ⟨_, _, rfl, hl, rfl, (Nat.zero_add _).symm, rfl, rfl, rfl⟩
    rw [← text_form, Hit.onward_of_some hh, List.map_cons, Hit.onward_feed, Finding.map_ofHit_shift,
      Finding.ofHit]
    simp only [Numeral.readGrouped?_grouped]
    rfl

lemma all_transcript (ps : List Printed) :
    Finding.all (transcript ps) = (ps.filterMap measurement?).map .matched := by
  rw [transcript]
  induction ps with
  | nil => rfl
  | cons p ps ih =>
    rw [List.flatMap_cons, List.append_assoc, List.singleton_append, all_line, ih, List.filterMap_cons]
    cases p.measurement? <;> rfl

theorem extract_transcript (ps : List Printed) :
    Finding.all (transcript ps) = (ps.filterMap measurement?).map .matched ∧
      Measurement.IsStableSort (ps.filterMap measurement?) (Measurement.extract (transcript ps)) := by
  have hall := all_transcript ps
  refine ⟨hall, ?_⟩
  have hm : (Finding.all (transcript ps)).filterMap Finding.measurement? = ps.filterMap measurement? := by
    rw [hall, List.filterMap_map]
    exact List.filterMap_some
  rw [Measurement.extract, hm]
  exact Measurement.isStableSort_sort _

example :
    transcript [.result ⟨['a'], by simp, List.all_eq_true.mp (by decide)⟩ 1234 5 0 5] =
      "test a ... bench:      1,234 ns/iter (+/- 5)\n" := by
  decide +kernel

end Printed

end BenchReport
