import BenchReport.Pattern
import BenchReport.Text.Blank

/-! Where a text holds benchmark results, and the name and numerals written there. -/

namespace BenchReport

namespace ResultLine

open Text

def isVisible (c : Char) : Bool := !isBlank c

def isInLine (c : Char) : Bool := c != '\n'

def isNumeral (c : Char) : Bool := c.isDigit || c == ','

/-- `test`, the name, whatever else is on its line, `bench:`, the time and, in brackets, its variance. -/
def pattern : Pattern :=
  [.word "test".toList, .run isBlank, .field isVisible, .run isBlank, .filler isInLine,
    .word "bench:".toList, .run isBlank, .field isNumeral, .run isBlank, .word "ns/iter".toList,
    .run isBlank, .word "(+/-".toList, .run isBlank, .field isNumeral, .word ")".toList]

end ResultLine

/-- A result found in a text, between two positions counted in characters. -/
structure Hit where
  start : Nat
  stop : Nat
  name : String
  time : String
  variance : String
  deriving DecidableEq, Repr

namespace Hit

def at? (start : Nat) (s : List Char) : Option Hit :=
  match ResultLine.pattern.matchAt s with
  | some ([name, time, variance], length) =>
    some ⟨start, start + length, .ofList name, .ofList time, .ofList variance⟩
  | _ => none

/-- The results of a text that starts at position `start` and whose first `skip` characters belong
to a result already found. -/
def allFrom (start skip : Nat) : List Char → List Hit
  | [] => []
  | c :: s =>
    match skip with
    | skip + 1 => allFrom (start + 1) skip s
    | 0 =>
      match at? start (c :: s) with
      | some h => h :: allFrom (start + 1) (h.stop - start - 1) s
      | none => allFrom (start + 1) 0 s

def all (text : String) : List Hit := allFrom 0 0 text.toList

end Hit

end BenchReport
