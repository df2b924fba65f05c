import BenchReport.Report.Strings

namespace BenchReport.Report

def digit (c : Char) : Nat := c.toNat - '0'.toNat

def dropDigits (s : List Char) : List Char := s.dropWhile Char.isDigit

def startsWithDigit : List Char → Bool
  | c :: _ => c.isDigit
  | [] => false

def pushDigits (most : Nat) : Nat → List Char → Nat × List Char
  | n, [] => (n, [])
  | n, c :: s =>
    if c.isDigit ∧ n * 10 + digit c ≤ most then pushDigits most (n * 10 + digit c) s
    else (n, c :: s)

def mostSignificand : Nat := UInt64.size - 1

def mostExponent : Nat := 2147483647

def power (n : Nat) : Binary64 := .ofNat (Nat.pow 10 n)

/-- `x * 10 ^ e`, unless it is too large. Exponents go down in steps that are powers of ten among
the doubles, and each step rounds. -/
def scale? (x : Binary64) (e : Int) : Option Binary64 :=
  if 0 ≤ e then
    if e ≤ 308 then
      let y := x.mul (power e.toNat)
      if y.tooLarge then none else some y
    else if x.sig = 0 then some x
    else none
  else if -308 ≤ e then some (x.div (power (-e).toNat))
  else if x.sig = 0 then some x
  else scale? (x.div (power 308)) (e + 308)
termination_by (-e).toNat

def finishReal (minus : Bool) (n : Nat) (e : Int) (rest : List Char) : Except Fault (Number × List Char) :=
  match scale? (.ofNat n) e with
  | some x => .ok (.real minus x, rest)
  | none => .error (.before .outOfRange rest)

/-- An exponent of more than 31 bits makes a number zero or too large. -/
def finishHuge (minus down : Bool) (n : Nat) (rest : List Char) : Except Fault (Number × List Char) :=
  if n ≠ 0 ∧ !down then .error (.before .outOfRange (rest.drop 1))
  else .ok (.real minus ⟨0, 0⟩, dropDigits rest)

def readExponentDigits (minus down : Bool) (n : Nat) (e : Int) :
    List Char → Except Fault (Number × List Char)
  | [] => .error (.before .endInValue [])
  | c :: s =>
    if c.isDigit then
      let p := pushDigits mostExponent (digit c) s
      if startsWithDigit p.2 then finishHuge minus down n p.2
      else finishReal minus n (if down then e - p.1 else e + p.1) p.2
    else .error (.at .badNumber (c :: s))

def readExponent (minus : Bool) (n : Nat) (e : Int) : List Char → Except Fault (Number × List Char)
  | '+' :: s => readExponentDigits minus false n e s
  | '-' :: s => readExponentDigits minus true n e s
  | s => readExponentDigits minus false n e s

def readMark (minus : Bool) (n : Nat) (e : Int) : List Char → Except Fault (Number × List Char)
  | 'e' :: s => readExponent minus n e s
  | 'E' :: s => readExponent minus n e s
  | s => finishReal minus n e s

/-- Digits that would take the significand out of 64 bits count for nothing behind the point. -/
def readFraction (minus : Bool) (n : Nat) (e : Int) (s : List Char) : Except Fault (Number × List Char) :=
  let p := pushDigits mostSignificand n s
  if startsWithDigit s then readMark minus p.1 (e - (s.length - p.2.length : Nat)) (dropDigits p.2)
  else match s with
    | [] => .error (.before .endInValue [])
    | _ => .error (.at .badNumber s)

def whole (minus : Bool) (n : Nat) : Number :=
  if !minus then .natural n
  else if n = 0 ∨ Nat.pow 2 63 < n then .real true (.ofNat n)
  else .negative n

def readTail (minus : Bool) (n : Nat) (s : List Char) : Except Fault (Number × List Char) :=
  if startsWithDigit s then
    let e := s.length - (dropDigits s).length
    match dropDigits s with
    | '.' :: r => readFraction minus n e r
    | r => readMark minus n e r
  else match s with
    | '.' :: r => readFraction minus n 0 r
    | 'e' :: r => readExponent minus n 0 r
    | 'E' :: r => readExponent minus n 0 r
    | s => .ok (whole minus n, s)

def readNumber (minus : Bool) : List Char → Except Fault (Number × List Char)
  | [] => .error (.before .endInValue [])
  | '0' :: s => if startsWithDigit s then .error (.at .badNumber s) else readTail minus 0 s
  | c :: s =>
    if c.isDigit then
      let p := pushDigits mostSignificand (digit c) s
      readTail minus p.1 p.2
    else .error (.at .badNumber (c :: s))

def skipExponentDigits : List Char → Except Fault (List Char)
  | [] => .error (.before .badNumber [])
  | c :: s => if c.isDigit then .ok (dropDigits s) else .error (.at .badNumber (c :: s))

def skipExponent : List Char → Except Fault (List Char)
  | '+' :: s => skipExponentDigits s
  | '-' :: s => skipExponentDigits s
  | s => skipExponentDigits s

def skipMark : List Char → Except Fault (List Char)
  | 'e' :: s => skipExponent s
  | 'E' :: s => skipExponent s
  | s => .ok s

def skipTail : List Char → Except Fault (List Char)
  | '.' :: s => if startsWithDigit s then skipMark (dropDigits s) else .error (.at .badNumber s)
  | s => skipMark s

def skipNumber : List Char → Except Fault (List Char)
  | [] => .error (.before .badNumber [])
  | '0' :: s => if startsWithDigit s then .error (.at .badNumber s) else skipTail s
  | c :: s => if c.isDigit then skipTail (dropDigits s) else .error (.at .badNumber (c :: s))

theorem length_dropDigits_le (s : List Char) : (dropDigits s).length ≤ s.length :=
  length_dropWhile_le _ s

theorem length_pushDigits_le (most n : Nat) (s : List Char) :
    (pushDigits most n s).2.length ≤ s.length := by
  fun_induction pushDigits most n s with
  | case1 => exact Nat.le_refl _
  | case2 _ _ _ _ ih => exact Nat.le_succ_of_le ih
  | case3 => exact Nat.le_refl _

section
variable {minus down : Bool} {n : Nat} {e : Int} {s r : List Char} {x : Number}

theorem eq_of_finishReal (h : finishReal minus n e s = .ok (x, r)) : r = s := by
  unfold finishReal at h
  grind

theorem length_finishHuge_le (h : finishHuge minus down n s = .ok (x, r)) : r.length ≤ s.length := by
  unfold finishHuge at h
  grind [length_dropDigits_le]

theorem length_readExponentDigits (h : readExponentDigits minus down n e s = .ok (x, r)) :
    r.length < s.length := by
  unfold readExponentDigits at h
  grind [length_pushDigits_le, → length_finishHuge_le, → eq_of_finishReal]

theorem length_readExponent (h : readExponent minus n e s = .ok (x, r)) : r.length < s.length := by
  unfold readExponent at h
  grind [→ length_readExponentDigits]

theorem length_readMark_le (h : readMark minus n e s = .ok (x, r)) : r.length ≤ s.length := by
  unfold readMark at h
  grind [→ length_readExponent, → eq_of_finishReal]

theorem length_readFraction_le (h : readFraction minus n e s = .ok (x, r)) : r.length ≤ s.length := by
  unfold readFraction at h
  grind [→ length_readMark_le, length_pushDigits_le, length_dropDigits_le]

theorem length_readTail_le (h : readTail minus n s = .ok (x, r)) : r.length ≤ s.length := by
  have := length_dropDigits_le s
  unfold readTail at h
  grind [→ length_readFraction_le, → length_readExponent, → length_readMark_le]

theorem length_readNumber (h : readNumber minus s = .ok (x, r)) : r.length < s.length := by
  unfold readNumber at h
  grind [→ length_readTail_le, length_pushDigits_le]

theorem length_skipExponentDigits (h : skipExponentDigits s = .ok r) : r.length < s.length := by
  unfold skipExponentDigits at h
  grind [length_dropDigits_le]

theorem length_skipExponent (h : skipExponent s = .ok r) : r.length < s.length := by
  unfold skipExponent at h
  grind [→ length_skipExponentDigits]

theorem length_skipMark_le (h : skipMark s = .ok r) : r.length ≤ s.length := by
  unfold skipMark at h
  grind [→ length_skipExponent]

theorem length_skipTail_le (h : skipTail s = .ok r) : r.length ≤ s.length := by
  unfold skipTail at h
  grind [→ length_skipMark_le, length_dropDigits_le]

theorem length_skipNumber (h : skipNumber s = .ok r) : r.length < s.length := by
  unfold skipNumber at h
  grind [→ length_skipTail_le, length_dropDigits_le]

end

end BenchReport.Report
