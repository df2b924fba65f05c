import BenchReport.Report.Skip

namespace BenchReport.Report

def wrongType (w : Wanted) : List Char → Fault
  | [] => .at .endInValue []
  | c :: r =>
    let number (p : Except Fault (Number × List Char)) : Fault :=
      match p with
      | .ok (n, r) => .before (.wrongType (.number n) w) r
      | .error e => e
    let literal (word : String) (f : Found) : Fault :=
      match readWord word.toList r with
      | .ok r => .before (.wrongType f w) r
      | .error e => e
    if c = 'n' then literal "ull" .null
    else if c = 't' then literal "rue" (.bool true)
    else if c = 'f' then literal "alse" (.bool false)
    else if c = '-' then number (readNumber true r)
    else if c.isDigit then number (readNumber false (c :: r))
    else if c = '"' then
      match readString r with
      | .ok (s, r) => .before (.wrongType (.text (.ofList s)) w) r
      | .error e => e
    else if c = '[' then .before (.wrongType .list w) (c :: r)
    else if c = '\x7b' then .before (.wrongType .object w) (c :: r)
    else .at .noValue (c :: r)

def readText (s : List Char) : Except Fault (String × List Char) :=
  match skipGap s with
  | '"' :: r => (readString r).map fun (cs, r) => (.ofList cs, r)
  | s => .error (wrongType .text s)

def takeTime : Number × List Char → Except Fault (UInt64 × List Char)
  | (.natural n, r) => .ok (.ofNat n, r)
  | (.negative n, r) => .error (.before (.wrongValue (.negative n) .time) r)
  | (.real minus x, r) => .error (.before (.wrongType (.number (.real minus x)) .time) r)

def readTime (s : List Char) : Except Fault (UInt64 × List Char) :=
  match skipGap s with
  | [] => .error (.at .endInValue [])
  | c :: r =>
    if c = '-' then readNumber true r >>= takeTime
    else if c.isDigit then readNumber false (c :: r) >>= takeTime
    else .error (wrongType .time (c :: r))

inductive Next
  | close (rest : List Char)
  | member (rest : List Char)
  deriving DecidableEq, Repr

def nextElement (first : Bool) (s : List Char) : Except Fault Next :=
  match skipGap s with
  | [] => .error (.at .endInList [])
  | ']' :: r => .ok (.close r)
  | c :: r =>
    if first then .ok (.member (c :: r))
    else if c = ',' then
      match skipGap r with
      | [] => .error (.at .endInValue [])
      | ']' :: r => .error (.at .trailingComma (']' :: r))
      | s => .ok (.member s)
    else .error (.at .noListSeparator (c :: r))

def nextKey (first : Bool) (s : List Char) : Except Fault Next :=
  match skipGap s with
  | [] => .error (.at .endInObject [])
  | '\x7d' :: r => .ok (.close r)
  | c :: r =>
    if first then if c = '"' then .ok (.member r) else .error (.at .noKey (c :: r))
    else if c = ',' then
      match skipGap r with
      | [] => .error (.at .endInValue [])
      | '"' :: r => .ok (.member r)
      | '\x7d' :: r => .error (.at .trailingComma ('\x7d' :: r))
      | s => .error (.at .noKey s)
    else .error (.at .noObjectSeparator (c :: r))

section
variable {s r : List Char}

theorem length_readText {t : String} (h : readText s = .ok (t, r)) : r.length < s.length := by
  have := length_skipGap_le s
  unfold readText at h
  split at h
  · obtain ⟨p, hp, h⟩ := map_eq_ok h
    have := length_readString hp
    grind
  · cases h

theorem eq_of_takeTime {p : Number × List Char} {t : UInt64} (h : takeTime p = .ok (t, r)) :
    r = p.2 := by
  unfold takeTime at h
  grind

theorem length_takeTime {m : Bool} {t : UInt64} (h : (readNumber m s >>= takeTime) = .ok (t, r)) :
    r.length < s.length := by
  obtain ⟨p, hp, h⟩ := bind_eq_ok h
  obtain rfl := eq_of_takeTime h
  exact length_readNumber hp

theorem length_readTime {t : UInt64} (h : readTime s = .ok (t, r)) : r.length < s.length := by
  have := length_skipGap_le s
  unfold readTime at h
  grind [→ length_takeTime]

theorem length_nextElement_le {first : Bool} (h : nextElement first s = .ok (.member r)) :
    r.length ≤ s.length := by
  have := length_skipGap_le s
  unfold nextElement at h
  grind [length_skipGap_le]

theorem length_nextKey {first : Bool} (h : nextKey first s = .ok (.member r)) :
    r.length < s.length := by
  have := length_skipGap_le s
  unfold nextKey at h
  grind [length_skipGap_le]

theorem length_nextKey_close {first : Bool} (h : nextKey first s = .ok (.close r)) :
    r.length < s.length := by
  have := length_skipGap_le s
  unfold nextKey at h
  grind

end

end BenchReport.Report
