import BenchReport.Report.Fields

namespace BenchReport.Report

structure Draft where
  name : Option String := none
  time : Option UInt64 := none
  variance : Option UInt64 := none
  deriving DecidableEq, Repr

namespace Draft

def has (d : Draft) : Key → Bool
  | .name => d.name.isSome
  | .time => d.time.isSome
  | .variance => d.variance.isSome

def finish : Draft → Except Key Measurement
  | ⟨none, _, _⟩ => .error .name
  | ⟨some _, none, _⟩ => .error .time
  | ⟨some _, some _, none⟩ => .error .variance
  | ⟨some n, some t, some v⟩ => .ok ⟨n, t, v⟩

def read (d : Draft) (s : List Char) : Key → Except Fault (Draft × List Char)
  | .name => (readText s).map fun (n, r) => ({ d with name := some n }, r)
  | .time => (readTime s).map fun (t, r) => ({ d with time := some t }, r)
  | .variance => (readTime s).map fun (v, r) => ({ d with variance := some v }, r)

end Draft

def closeObject (s : List Char) : List Char :=
  match skipGap s with
  | '\x7d' :: r => r
  | s => s

def readMember (d : Draft) (s : List Char) : Except Fault (Draft × List Char) :=
  match readString s with
  | .error e => .error e
  | .ok (key, r) =>
    match Key.ofText? key with
    | none => (readColon r >>= skipValue).map fun r => (d, r)
    | some k =>
      if d.has k then .error (.before (.repeated k) (closeObject r))
      else
        match readColon r with
        | .error e => .error e
        | .ok r => d.read r k

section
variable {s r : List Char} {d d' : Draft}

theorem length_read {k : Key} (h : d.read s k = .ok (d', r)) : r.length < s.length := by
  cases k with
  | name =>
    obtain ⟨p, hp, h⟩ := map_eq_ok h
    cases h
    exact length_readText hp
  | time | variance =>
    obtain ⟨p, hp, h⟩ := map_eq_ok h
    cases h
    exact length_readTime hp

theorem length_readMember (h : readMember d s = .ok (d', r)) : r.length < s.length := by
  unfold readMember at h
  split at h
  · cases h
  next hq =>
    have := length_readString hq
    split at h
    · obtain ⟨p, hp, h⟩ := map_eq_ok h
      obtain ⟨q, hc, hv⟩ := bind_eq_ok hp
      have := length_readColon hc
      have := length_skipIn hv
      grind
    · split at h
      · cases h
      · split at h
        · cases h
        next hc =>
          have := length_readColon hc
          have := length_read h
          omega

end

def readMembers (first : Bool) (d : Draft) (s : List Char) : Except Fault (Measurement × List Char) :=
  match _h : nextKey first s with
  | .error e => .error e
  | .ok (.close r) =>
    match d.finish with
    | .ok m => .ok (m, r)
    | .error k => .error (.before (.missing k) r)
  | .ok (.member r) =>
    match _h' : readMember d r with
    | .error e => .error e
    | .ok (d, r) => readMembers false d r
termination_by s.length
decreasing_by
  have := length_nextKey ‹_›
  have := length_readMember ‹_›
  omega

def closeTriple (s : List Char) : Except Fault (List Char) :=
  match skipGap s with
  | ']' :: r => .ok r
  | ',' :: r =>
    match skipGap r with
    | ']' :: r => .error (.at .trailingComma (']' :: r))
    | s => .error (.at .trailingCharacters s)
  | [] => .error (.at .endInList [])
  | s => .error (.at .trailingCharacters s)

def readPlace {α : Type} (n : Nat) (read : List Char → Except Fault (α × List Char)) (s : List Char) :
    Except Fault (α × List Char) :=
  match nextElement (n = 0) s with
  | .error e => .error e
  | .ok (.close r) => .error (.before (.tooShort n) r)
  | .ok (.member r) => read r

def readTriple (s : List Char) : Except Fault (Measurement × List Char) := do
  let (name, s) ← readPlace 0 readText s
  let (time, s) ← readPlace 1 readTime s
  let (variance, s) ← readPlace 2 readTime s
  let s ← closeTriple s
  return (⟨name, time, variance⟩, s)

def readRecord (s : List Char) : Except Fault (Measurement × List Char) :=
  match skipGap s with
  | '[' :: r => readTriple r
  | '\x7b' :: r => readMembers true {} r
  | s => .error (wrongType .record s)

section
variable {s r : List Char} {m : Measurement}

theorem length_readMembers {first : Bool} {d : Draft} (h : readMembers first d s = .ok (m, r)) :
    r.length < s.length := by
  fun_induction readMembers first d s with
  | case1 => cases h
  | case2 first d s r' hn m' hf =>
    cases h
    exact length_nextKey_close hn
  | case3 => cases h
  | case4 => cases h
  | case5 first d s r' hn d' r'' hm ih =>
    have := length_nextKey hn
    have := length_readMember hm
    have := ih h
    omega

theorem length_readPlace {α : Type} {n : Nat} {x : α} {read : List Char → Except Fault (α × List Char)}
    (hr : ∀ {s r x}, read s = .ok (x, r) → r.length < s.length) (h : readPlace n read s = .ok (x, r)) :
    r.length < s.length := by
  unfold readPlace at h
  split at h
  · cases h
  · cases h
  next hn => exact Nat.lt_of_lt_of_le (hr h) (length_nextElement_le hn)

theorem length_closeTriple_le (h : closeTriple s = .ok r) : r.length ≤ s.length := by
  have := length_skipGap_le s
  unfold closeTriple at h
  grind

theorem length_readTriple (h : readTriple s = .ok (m, r)) : r.length < s.length := by
  unfold readTriple at h
  obtain ⟨_, h0, h⟩ := bind_eq_ok h
  obtain ⟨_, h1, h⟩ := bind_eq_ok h
  obtain ⟨_, h2, h⟩ := bind_eq_ok h
  obtain ⟨_, h3, h⟩ := bind_eq_ok h
  cases h
  have := length_readPlace length_readText h0
  have := length_readPlace length_readTime h1
  have := length_readPlace length_readTime h2
  have := length_closeTriple_le h3
  omega

theorem length_readRecord (h : readRecord s = .ok (m, r)) : r.length < s.length := by
  have := length_skipGap_le s
  unfold readRecord at h
  grind [→ length_readTriple, → length_readMembers]

end

end BenchReport.Report
