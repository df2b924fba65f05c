import BenchReport.Report.Skip
import Mathlib.Data.List.Basic

/-! The texts that are JSON values, and those that are reports: lists of records, each an object with
the three fields or a list of the three. -/

namespace BenchReport.Report

def Gap (g : List Char) : Prop := ∀ c ∈ g, isGap c = true

inductive HexUnit : List Char → ℕ → Prop
  | mk {a b c d : Char} {w x y z : ℕ} : Text.hexDigit? a = some w → Text.hexDigit? b = some x →
      Text.hexDigit? c = some y → Text.hexDigit? d = some z →
      HexUnit [a, b, c, d] (((w * 16 + x) * 16 + y) * 16 + z)

def escapes : List (Char × Char) :=
  [('"', '"'), ('\\', '\\'), ('/', '/'), ('b', '\x08'), ('f', '\x0c'), ('n', '\n'), ('r', '\r'), ('t', '\t')]

def Plain (c : Char) : Prop := ¬ c < ' ' ∧ c ≠ '"' ∧ c ≠ '\\'

/-- A character, as it is written inside a string: surrogates only in pairs. -/
inductive Spells : List Char → Char → Prop
  | plain {c : Char} : Plain c → Spells [c] c
  | letter {a c : Char} : (a, c) ∈ escapes → Spells ['\\', a] c
  | unit {u : List Char} {n : ℕ} : HexUnit u n → isHigh n = false → isLow n = false →
      Spells ('\\' :: 'u' :: u) (Char.ofNat n)
  | pair {u v : List Char} {m n : ℕ} : HexUnit u m → isHigh m = true → HexUnit v n → isLow n = true →
      Spells ('\\' :: 'u' :: (u ++ '\\' :: 'u' :: v))
        (Char.ofNat (0x10000 + (m - 0xD800) * 0x400 + (n - 0xDC00)))

inductive Spelled : List Char → List Char → Prop
  | nil : Spelled [] []
  | cons {w s cs : List Char} {c : Char} : Spells w c → Spelled s cs → Spelled (w ++ s) (c :: cs)

/-- What stands inside a string of which only the form matters: surrogates need not pair. -/
inductive Inside : List Char → Prop
  | nil : Inside []
  | plain {c : Char} {s : List Char} : Plain c → Inside s → Inside (c :: s)
  | letter {a c : Char} {s : List Char} : (a, c) ∈ escapes → Inside s → Inside ('\\' :: a :: s)
  | unit {u s : List Char} {n : ℕ} : HexUnit u n → Inside s → Inside ('\\' :: 'u' :: (u ++ s))

def Digits (ds : List Char) : Prop := ∀ d ∈ ds, d.isDigit = true

inductive Whole : List Char → Prop
  | zero : Whole ['0']
  | digits {c : Char} {ds : List Char} : c.isDigit = true → c ≠ '0' → Digits ds → Whole (c :: ds)

inductive Fraction : List Char → Prop
  | none : Fraction []
  | some {ds : List Char} : ds ≠ [] → Digits ds → Fraction ('.' :: ds)

inductive Exponent : List Char → Prop
  | none : Exponent []
  | some {mark : Char} {sign ds : List Char} : mark ∈ ['e', 'E'] → sign ∈ [[], ['+'], ['-']] → ds ≠ [] →
      Digits ds → Exponent (mark :: (sign ++ ds))

inductive Magnitude : List Char → Prop
  | mk {i f e : List Char} : Whole i → Fraction f → Exponent e → Magnitude (i ++ (f ++ e))

def Bracket.opening : Bracket → Char
  | list => '['
  | object => '\x7b'

inductive Label : Bracket → List Char → Prop
  | none : Label .list []
  | key {g k g' : List Char} : Gap g → Inside k → Gap g' →
      Label .object (g ++ '"' :: (k ++ '"' :: (g' ++ [':'])))

mutual

inductive Value : List Char → Prop
  | word {w : String} : w ∈ ["null", "true", "false"] → Value w.toList
  | number {w : List Char} : Magnitude w → Value w
  | negative {w : List Char} : Magnitude w → Value ('-' :: w)
  | text {w : List Char} : Inside w → Value ('"' :: (w ++ ['"']))
  | empty {b : Bracket} {g : List Char} : Gap g → Value (b.opening :: (g ++ [b.closing]))
  | filled {b : Bracket} {w : List Char} : Members b w → Value (b.opening :: (w ++ [b.closing]))

inductive Members : Bracket → List Char → Prop
  | last {b : Bracket} {k g v g' : List Char} : Label b k → Gap g → Value v → Gap g' →
      Members b (k ++ (g ++ (v ++ g')))
  | more {b : Bracket} {k g v g' w : List Char} : Label b k → Gap g → Value v → Gap g' → Members b w →
      Members b (k ++ (g ++ (v ++ (g' ++ ',' :: w))))

end

inductive Separated {α : Type} (item : List Char → α → Prop) : List Char → List α → Prop
  | last {g w g' : List Char} {a : α} : Gap g → item w a → Gap g' → Separated item (g ++ (w ++ g')) [a]
  | more {g w g' s : List Char} {a : α} {as : List α} : Gap g → item w a → Gap g' →
      Separated item s as → Separated item (g ++ (w ++ (g' ++ ',' :: s))) (a :: as)

inductive Field
  | name (n : String)
  | time (t : UInt64)
  | variance (t : UInt64)
  | other

namespace Field

def name? : Field → Option String
  | name n => some n
  | _ => none

def time? : Field → Option UInt64
  | time t => some t
  | _ => none

def variance? : Field → Option UInt64
  | variance t => some t
  | _ => none

def IsNamed : Field → List Char → Prop
  | name _, k => k = "name".toList
  | time _, k => k = "time_ns".toList
  | variance _, k => k = "variance_ns".toList
  | other, k => k ≠ "name".toList ∧ k ≠ "time_ns".toList ∧ k ≠ "variance_ns".toList

end Field

def Quotes (w : List Char) (n : String) : Prop := ∃ u, Spelled u n.toList ∧ w = '"' :: (u ++ ['"'])

def Counts (w : List Char) (t : UInt64) : Prop := Whole w ∧ Nat.ofDigitChars 10 w 0 = t.toNat

inductive Says : List Char → Field → Prop
  | name {w : List Char} {n : String} : Quotes w n → Says w (.name n)
  | time {w : List Char} {t : UInt64} : Counts w t → Says w (.time t)
  | variance {w : List Char} {t : UInt64} : Counts w t → Says w (.variance t)
  | other {w : List Char} : Value w → Says w .other

inductive Member : List Char → Field → Prop
  | mk {k key g g' v : List Char} {f : Field} : Spelled k key → f.IsNamed key → Gap g → Gap g' → Says v f →
      Member ('"' :: (k ++ '"' :: (g ++ ':' :: (g' ++ v)))) f

structure Comprises (fs : List Field) (m : Measurement) : Prop where
  name : fs.filterMap Field.name? = [m.name]
  time : fs.filterMap Field.time? = [m.timeNs]
  variance : fs.filterMap Field.variance? = [m.varianceNs]

inductive Record : List Char → Measurement → Prop
  | object {w : List Char} {fs : List Field} {m : Measurement} : Separated Member w fs → Comprises fs m →
      Record ('\x7b' :: (w ++ ['\x7d'])) m
  | triple {w : List Char} {n : String} {t v : UInt64} : Separated Says w [.name n, .time t, .variance v] →
      Record ('[' :: (w ++ [']'])) ⟨n, t, v⟩

inductive IsReport : List Char → List Measurement → Prop
  | empty {g g' g'' : List Char} : Gap g → Gap g' → Gap g'' → IsReport (g ++ '[' :: (g' ++ ']' :: g'')) []
  | records {g w g' : List Char} {ms : List Measurement} : Gap g → Separated Record w ms → Gap g' →
      IsReport (g ++ '[' :: (w ++ ']' :: g')) ms

end BenchReport.Report
