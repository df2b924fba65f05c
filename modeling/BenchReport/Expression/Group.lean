import BenchReport.Expression.Mode
import BenchReport.Text.Alphanumeric

namespace BenchReport.Expression

inductive Opening
  | flags (m : Mode)
  | group (m : Mode) (name : Option (List Char))
  deriving DecidableEq, Repr

def startsName (c : Char) : Bool := c == '_' || Text.isAlphabetic c

def continuesName (c : Char) : Bool :=
  c == '_' || c == '.' || c == '[' || c == ']' || Text.isAlphanumeric c

def isName : List Char → Bool
  | [] => false
  | c :: s => startsName c && s.all continuesName

def readGroupName? (m : Mode) (s : List Char) : Option (Opening × List Char) :=
  let name := s.takeWhile (· != '>')
  match s.dropWhile (· != '>') with
  | _ :: r => if isName name then some (.group m (some name), r) else none
  | [] => none

def flagChars : List Char := "imsUuRx".toList

def areFlags (fs : List Char) : Bool :=
  fs.all (fun c => c ∈ flagChars || c == '-') && decide fs.Nodup && fs.getLast? != some '-'

def switch (fs : List Char) (flag : Char) (was : Bool) : Bool :=
  if flag ∈ fs.takeWhile (· != '-') then true
  else if flag ∈ fs then false
  else was

def Mode.change (m : Mode) (fs : List Char) : Mode where
  verbose := switch fs 'x' m.verbose
  unicode := switch fs 'u' m.unicode

def endsFlags (c : Char) : Bool := c == ':' || c == ')'

def readFlags? (m : Mode) (s : List Char) : Option (Opening × List Char) :=
  let fs := s.takeWhile fun c => !endsFlags c
  match s.dropWhile fun c => !endsFlags c with
  | ':' :: r => if areFlags fs then some (.group (m.change fs) none, r) else none
  | _ :: r => if areFlags fs && fs != [] then some (.flags (m.change fs), r) else none
  | [] => none

def readGroup? (m : Mode) (s : List Char) : Option (Opening × List Char) :=
  match m.skip s with
  | '?' :: 'P' :: '<' :: r => readGroupName? m r
  | '?' :: '<' :: r => readGroupName? m r
  | '?' :: r => readFlags? m r
  | r => some (.group m none, r)

theorem length_readGroupName?_le {m : Mode} {o : Opening} {s r : List Char}
    (h : readGroupName? m s = some (o, r)) : r.length ≤ s.length := by
  have hs := (List.dropWhile_suffix (· != '>') (l := s)).sublist.length_le
  grind [readGroupName?]

theorem length_readFlags?_le {m : Mode} {o : Opening} {s r : List Char}
    (h : readFlags? m s = some (o, r)) : r.length ≤ s.length := by
  have hs := (List.dropWhile_suffix (fun c => !endsFlags c) (l := s)).sublist.length_le
  grind [readFlags?]

theorem length_readGroup?_le {m : Mode} {o : Opening} {s r : List Char}
    (h : readGroup? m s = some (o, r)) : r.length ≤ s.length := by
  have hs := m.length_skip_le s
  unfold readGroup? at h
  split at h
  · next t ht =>
    have := length_readGroupName?_le h
    simp [ht] at hs
    omega
  · next t ht =>
    have := length_readGroupName?_le h
    simp [ht] at hs
    omega
  · next t _ _ ht =>
    have := length_readFlags?_le h
    simp [ht] at hs
    omega
  · simp only [Option.some.injEq, Prod.mk.injEq] at h
    exact h.2 ▸ hs

end BenchReport.Expression
