import BenchReport.Proofs.LongestChoice
import BenchReport.ResultLine

namespace BenchReport

open Text

namespace ResultLine

structure Tail where
  lead : Run isBlank
  time : Run isNumeral
  timeGap : Run isBlank
  unitGap : Run isBlank
  signGap : Run isBlank
  variance : Run isNumeral

structure Form where
  lead : Run isBlank
  name : Run isVisible
  gap : Run isBlank
  filler : List Char
  inLine : ∀ c ∈ filler, isInLine c = true
  tail : Tail

namespace Tail

def text (t : Tail) : List Char :=
  "bench:".toList ++ (t.lead.chars ++ (t.time.chars ++ (t.timeGap.chars ++ ("ns/iter".toList ++
    (t.unitGap.chars ++ ("(+/-".toList ++ (t.signGap.chars ++ (t.variance.chars ++ ")".toList))))))))

def reported (t : Tail) : List (List Char) := [t.time.chars, t.variance.chars]

lemma text_eq_cons (t : Tail) : t.text = 'b' :: t.text.tail := rfl

end Tail

namespace Form

def text (f : Form) : List Char :=
  "test".toList ++ (f.lead.chars ++ (f.name.chars ++ (f.gap.chars ++ (f.filler ++ f.tail.text))))

def reported (f : Form) : List (List Char) := f.name.chars :: f.tail.reported

def opening (f : Form) : List Char := "test".toList ++ (f.lead.chars ++ (f.name.chars ++ f.gap.chars))

lemma text_eq_append (f : Form) : f.text = f.opening ++ (f.filler ++ f.tail.text) := by
  delta text opening
  simp only [List.append_assoc]

lemma length_text_pos (f : Form) : 0 < f.text.length := Nat.zero_lt_succ _

end Form

def head : Pattern := [.word "test".toList, .run isBlank, .field isVisible, .run isBlank]

def tail : Pattern :=
  [.word "bench:".toList, .run isBlank, .field isNumeral, .run isBlank, .word "ns/iter".toList,
    .run isBlank, .word "(+/-".toList, .run isBlank, .field isNumeral, .word ")".toList]

lemma pattern_eq : pattern = head ++ .filler isInLine :: tail := rfl

variable {c : Char} {s w : List Char} {fs : List (List Char)}

lemma takes_tail_iff : tail.Takes w fs ↔ ∃ t : Tail, w = t.text ∧ fs = t.reported := by
  constructor
  · intro h
    obtain ⟨w₁, rfl, h₁⟩ := Pattern.takes_word_iff.mp h
    obtain ⟨lead, w₂, rfl, h₂⟩ := Pattern.takes_run_iff.mp h₁
    obtain ⟨time, w₃, fs₃, rfl, rfl, h₃⟩ := Pattern.takes_field_iff.mp h₂
    obtain ⟨timeGap, w₄, rfl, h₄⟩ := Pattern.takes_run_iff.mp h₃
    obtain ⟨w₅, rfl, h₅⟩ := Pattern.takes_word_iff.mp h₄
    obtain ⟨unitGap, w₆, rfl, h₆⟩ := Pattern.takes_run_iff.mp h₅
    obtain ⟨w₇, rfl, h₇⟩ := Pattern.takes_word_iff.mp h₆
    obtain ⟨signGap, w₈, rfl, h₈⟩ := Pattern.takes_run_iff.mp h₇
    obtain ⟨variance, w₉, fs₉, rfl, rfl, h₉⟩ := Pattern.takes_field_iff.mp h₈
    obtain ⟨w₁₀, rfl, h₁₀⟩ := Pattern.takes_word_iff.mp h₉
    obtain ⟨rfl, rfl⟩ := Pattern.takes_nil_iff.mp h₁₀
    exact ⟨⟨lead, time, timeGap, unitGap, signGap, variance⟩, rfl, rfl⟩
  · rintro ⟨t, rfl, rfl⟩
    exact .word <| .run t.lead <| .field t.time <| .run t.timeGap <| .word <| .run t.unitGap <| .word <|
      .run t.signGap <| .field t.variance <| .word .nil

lemma takes_pattern_iff : pattern.Takes w fs ↔ ∃ f : Form, w = f.text ∧ fs = f.reported := by
  constructor
  · intro h
    obtain ⟨w₁, rfl, h₁⟩ := Pattern.takes_word_iff.mp h
    obtain ⟨lead, w₂, rfl, h₂⟩ := Pattern.takes_run_iff.mp h₁
    obtain ⟨name, w₃, fs₃, rfl, rfl, h₃⟩ := Pattern.takes_field_iff.mp h₂
    obtain ⟨gap, w₄, rfl, h₄⟩ := Pattern.takes_run_iff.mp h₃
    obtain ⟨filler, w₅, rfl, hf, h₅⟩ := Pattern.takes_filler_iff.mp h₄
    obtain ⟨t, rfl, rfl⟩ := takes_tail_iff.mp h₅
    exact ⟨⟨lead, name, gap, filler, hf, t⟩, rfl, rfl⟩
  · rintro ⟨f, rfl, rfl⟩
    have ht : tail.Takes f.tail.text f.tail.reported := takes_tail_iff.mpr ⟨f.tail, rfl, rfl⟩
    exact .word <| .run f.lead <| .field f.name <| .run f.gap <| .filler f.inLine ht

end ResultLine

end BenchReport
