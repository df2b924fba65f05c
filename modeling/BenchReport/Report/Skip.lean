import BenchReport.Report.Numbers

namespace BenchReport.Report

inductive Bracket
  | list
  | object
  deriving DecidableEq, Repr

namespace Bracket

def opening? (c : Char) : Option Bracket :=
  if c = '[' then some list else if c = '\x7b' then some object else none

def closing : Bracket → Char
  | list => ']'
  | object => '\x7d'

def atEnd : Bracket → Reason
  | list => .endInList
  | object => .endInObject

def noSeparator : Bracket → Reason
  | list => .noListSeparator
  | object => .noObjectSeparator

end Bracket

def readColon (s : List Char) : Except Fault (List Char) :=
  match skipGap s with
  | ':' :: r => .ok r
  | [] => .error (.at .endInObject [])
  | s => .error (.at .noColon s)

def enter : Bracket → List Char → Except Fault (List Char)
  | .list, s => .ok s
  | .object, s =>
    match skipGap s with
    | '"' :: r => skipString r >>= readColon
    | [] => .error (.at .endInObject [])
    | s => .error (.at .noKey s)

inductive Standing
  | done (rest : List Char)
  | due (b : Bracket) (outer : List Bracket) (rest : List Char)
  deriving DecidableEq, Repr

def Standing.rest : Standing → List Char
  | done r => r
  | due _ _ r => r

def leave : List Bracket → List Char → Except Fault Standing
  | [], s => .ok (.done s)
  | b :: outer, s =>
    match skipGap s with
    | [] => .error (.at b.atEnd [])
    | c :: r =>
      if c = ',' then (enter b r).map (.due b outer)
      else if c = b.closing then leave outer r
      else .error (.at b.noSeparator (c :: r))

def openBracket (b : Bracket) (outer : List Bracket) (s : List Char) : Except Fault Standing :=
  match skipGap s with
  | [] => .error (.at b.atEnd [])
  | c :: r => if c = b.closing then leave outer r else (enter b (c :: r)).map (.due b outer)

def skipScalar (c : Char) (r : List Char) : Except Fault (List Char) :=
  if c = 'n' then readWord "ull".toList r
  else if c = 't' then readWord "rue".toList r
  else if c = 'f' then readWord "alse".toList r
  else if c = '-' then skipNumber r
  else if c.isDigit then skipNumber (c :: r)
  else if c = '"' then skipString r
  else .error (.at .noValue (c :: r))

def advance (outer : List Bracket) (s : List Char) : Except Fault Standing :=
  match skipGap s with
  | [] => .error (.at .endInValue [])
  | c :: r =>
    match Bracket.opening? c with
    | some b => openBracket b outer r
    | none => skipScalar c r >>= leave outer

section
variable {s r : List Char} {b : Bracket} {outer : List Bracket} {x : Standing}

theorem length_readColon (h : readColon s = .ok r) : r.length < s.length := by
  have := length_skipGap_le s
  unfold readColon at h
  grind

theorem length_enter_le (h : enter b s = .ok r) : r.length ≤ s.length := by
  have := length_skipGap_le s
  unfold enter at h
  split at h
  · grind
  · split at h
    · obtain ⟨t, ht, h⟩ := bind_eq_ok h
      have := length_skipString ht
      have := length_readColon h
      grind
    · cases h
    · cases h

theorem length_enter_map_le (h : (enter b s).map (.due b outer) = .ok x) :
    x.rest.length ≤ s.length := by
  obtain ⟨r, hr, rfl⟩ := map_eq_ok h
  exact length_enter_le hr

theorem length_leave_le (h : leave outer s = .ok x) : x.rest.length ≤ s.length := by
  induction outer generalizing s with
  | nil => cases h; exact Nat.le_refl _
  | cons b outer ih =>
    have := length_skipGap_le s
    unfold leave at h
    grind [→ length_enter_map_le]

theorem length_openBracket_le (h : openBracket b outer s = .ok x) : x.rest.length ≤ s.length := by
  have := length_skipGap_le s
  unfold openBracket at h
  grind [→ length_leave_le, → length_enter_map_le]

theorem length_skipScalar_le {c : Char} (h : skipScalar c s = .ok r) : r.length ≤ s.length := by
  unfold skipScalar at h
  grind [→ length_readWord_le, → length_skipNumber, → length_skipString]

theorem length_advance (h : advance outer s = .ok x) : x.rest.length < s.length := by
  have := length_skipGap_le s
  unfold advance at h
  split at h
  · cases h
  · split at h
    · have := length_openBracket_le h
      grind
    · obtain ⟨t, ht, h⟩ := bind_eq_ok h
      have := length_skipScalar_le ht
      have := length_leave_le h
      grind

end

def skipIn (outer : List Bracket) (s : List Char) : Except Fault (List Char) :=
  match _h : advance outer s with
  | .error e => .error e
  | .ok (.done r) => .ok r
  | .ok (.due b outer r) => skipIn (b :: outer) r
termination_by s.length
decreasing_by
  exact length_advance ‹_›

def skipValue (s : List Char) : Except Fault (List Char) := skipIn [] s

theorem length_skipIn {outer : List Bracket} {s r : List Char} (h : skipIn outer s = .ok r) :
    r.length < s.length := by
  fun_induction skipIn outer s with
  | case1 => cases h
  | case2 outer s r' hs =>
    cases h
    exact length_advance hs
  | case3 outer s b outer' r' hs ih => exact Nat.lt_trans (ih h) (length_advance hs)

end BenchReport.Report
