import BenchReport.Expression.Escape

namespace BenchReport.Expression

inductive SetOperator
  | intersection
  | difference
  | symmetricDifference
  deriving DecidableEq, Repr

namespace SetOperator

def apply : SetOperator → Bool → Bool → Bool
  | intersection, a, b => a && b
  | difference, a, b => a && !b
  | symmetricDifference, a, b => a != b

def read? : List Char → Option (SetOperator × List Char)
  | '&' :: '&' :: s => some (intersection, s)
  | '-' :: '-' :: s => some (difference, s)
  | '~' :: '~' :: s => some (symmetricDifference, s)
  | _ => none

theorem length_read?_lt {o : SetOperator} {s r : List Char} (h : read? s = some (o, r)) :
    r.length < s.length := by
  unfold read? at h
  split at h <;> simp only [Option.some.injEq, Prod.mk.injEq, reduceCtorEq] at h <;>
    exact h.2 ▸ Nat.lt_succ_of_lt (Nat.lt_succ_self _)

end SetOperator

structure Content where
  depth : Nat := 0
  high : Bool := false
  deriving DecidableEq, Repr

structure OpenSet where
  negated : Bool := false
  count : Nat := 0
  items : Content := {}
  left : Option (SetOperator × Content) := none
  deriving DecidableEq, Repr

namespace OpenSet

def push (o : OpenSet) (x : Content) : OpenSet :=
  { o with count := o.count + 1, items := ⟨max o.items.depth x.depth, o.items.high || x.high⟩ }

def operand (o : OpenSet) : Content :=
  { o.items with depth := if 2 ≤ o.count then o.items.depth + 1 else o.items.depth }

def content (o : OpenSet) : Content :=
  match o.left with
  | none => o.operand
  | some (op, l) => ⟨max l.depth o.operand.depth + 1, op.apply l.high o.operand.high⟩

def operate (o : OpenSet) (op : SetOperator) : OpenSet :=
  { negated := o.negated, left := some (op, o.content) }

/-- Outside of Unicode a set is one of bytes, and those above ASCII are no characters. -/
def close? (m : Mode) (o : OpenSet) : Option Content :=
  let high := o.content.high != o.negated
  if high && !m.unicode then none else some ⟨o.content.depth + 1, high⟩

end OpenSet

def readDashes (m : Mode) (n : Nat) (s : List Char) : Nat × List Char :=
  match h : m.skip s with
  | '-' :: r =>
    have : r.length < s.length := by
      have := m.length_skip_le s
      simp [h] at this
      omega
    readDashes m (n + 1) r
  | r => (n, r)
termination_by s.length

def readStart (m : Mode) (negated : Bool) (s : List Char) : OpenSet × List Char :=
  match readDashes m 0 s with
  | (0, ']' :: r) => ({ negated := negated, count := 1 }, r)
  | (n, r) => ({ negated := negated, count := n }, r)

def readOpening (m : Mode) (s : List Char) : OpenSet × List Char :=
  match m.skip s with
  | '^' :: r => readStart m true r
  | r => readStart m false r

def setNames : List String :=
  ["alnum", "alpha", "ascii", "blank", "cntrl", "digit", "graph", "lower", "print", "punct", "space",
    "upper", "word", "xdigit"]

def readName? (s : List Char) : Option (List Char) :=
  if setNames.any fun n => n.toList = s.takeWhile (· != ':') then
    match s.dropWhile (· != ':') with
    | ':' :: ']' :: r => some r
    | _ => none
  else none

def readNamed? : List Char → Option (Content × List Char)
  | ':' :: '^' :: s => (readName? s).map fun r => ({ high := true }, r)
  | ':' :: s => (readName? s).map fun r => ({}, r)
  | _ => none

def readElement? (m : Mode) : List Char → Option (Atom × List Char)
  | [] => none
  | '\\' :: s => readEscape? m s
  | c :: s => some (.letter c, s)

def Atom.fitsSet (m : Mode) : Atom → Bool
  | letter c => m.unicode || c.toNat < 0x80
  | set => true
  | edge => false

def Mode.next? (m : Mode) (s : List Char) : Option Char :=
  if m.verbose then
    match s.dropWhile Text.isBlank with
    | '#' :: r => (r.dropWhile Text.isBlank).head?
    | r => r.head?
  else s.head?

def readMember? (m : Mode) (s : List Char) : Option (List Char) :=
  match readElement? m s with
  | none => none
  | some (a, r) =>
    match m.skip r with
    | '-' :: t =>
      if m.next? t = some ']' ∨ m.next? t = some '-' then
        if a.fitsSet m then some ('-' :: t) else none
      else
        match a, readElement? m (m.skip t) with
        | .letter c, some (.letter d, u) =>
          if c ≤ d ∧ (Atom.letter d).fitsSet m then some u else none
        | _, _ => none
    | t => if a.fitsSet m then some t else none

theorem length_readDashes_le (m : Mode) (n : Nat) (s : List Char) :
    (readDashes m n s).2.length ≤ s.length := by
  fun_induction readDashes m n s with
  | case1 n s r h hr ih => omega
  | case2 n s => exact m.length_skip_le s

theorem length_readStart_le (m : Mode) (b : Bool) (s : List Char) :
    (readStart m b s).2.length ≤ s.length := by
  have h := length_readDashes_le m 0 s
  unfold readStart
  split
  · next r hr =>
    simp [hr] at h
    simp
    omega
  · next n r hr => simpa [hr] using h

theorem length_readOpening_le (m : Mode) (s : List Char) :
    (readOpening m s).2.length ≤ s.length := by
  have h := m.length_skip_le s
  unfold readOpening
  split
  · next r hr =>
    have := length_readStart_le m true r
    simp [hr] at h
    omega
  · exact Nat.le_trans (length_readStart_le m false _) h

theorem length_readName?_le {s r : List Char} (h : readName? s = some r) :
    r.length ≤ s.length := by
  have hs := (List.dropWhile_suffix (· != ':') (l := s)).sublist.length_le
  unfold readName? at h
  split at h
  · split at h
    · next t ht =>
      rw [ht] at hs
      simp only [Option.some.injEq] at h
      subst h
      simp at hs
      omega
    · simp at h
  · simp at h

theorem length_readNamed?_le {x : Content} {s r : List Char} (h : readNamed? s = some (x, r)) :
    r.length ≤ s.length := by
  unfold readNamed? at h
  split at h
  · obtain ⟨t, ht, he⟩ := Option.map_eq_some_iff.1 h
    have := length_readName?_le ht
    simp [← (Prod.mk.inj he).2]
    omega
  · obtain ⟨t, ht, he⟩ := Option.map_eq_some_iff.1 h
    have := length_readName?_le ht
    simp [← (Prod.mk.inj he).2]
    omega
  · simp at h

theorem length_readElement?_lt {m : Mode} {a : Atom} {s r : List Char}
    (h : readElement? m s = some (a, r)) : r.length < s.length := by
  unfold readElement? at h
  split at h
  · simp at h
  · exact Nat.lt_succ_of_le (length_readEscape?_le h)
  · simp only [Option.some.injEq, Prod.mk.injEq] at h
    simp [← h.2]

theorem length_readMember?_lt {m : Mode} {s r : List Char} (h : readMember? m s = some r) :
    r.length < s.length := by
  unfold readMember? at h
  split at h
  · simp at h
  · next a t ht =>
    have h1 := length_readElement?_lt ht
    have h2 := m.length_skip_le t
    split at h
    · next u hu =>
      simp [hu] at h2
      split at h
      · split at h
        · simp only [Option.some.injEq] at h
          simp [← h]
          omega
        · simp at h
      · split at h
        · next d v hv =>
          have h3 := length_readElement?_lt hv
          have h4 := m.length_skip_le u
          split at h
          · simp only [Option.some.injEq] at h
            simp [← h]
            omega
          · simp at h
        · simp at h
    · split at h
      · simp only [Option.some.injEq] at h
        simp [← h]
        omega
      · simp at h

def readSet? (m : Mode) (o : OpenSet) (outer : List OpenSet) (s : List Char) :
    Option (Nat × List Char) :=
  have hs := m.length_skip_le s
  match ht : m.skip s with
  | [] => none
  | '[' :: r =>
    match hn : readNamed? r with
    | some (x, t) =>
      have : t.length < s.length := by
        have := length_readNamed?_le hn
        simp [ht] at hs
        omega
      readSet? m (o.push x) outer t
    | none =>
      have : (readOpening m r).2.length < s.length := by
        have := length_readOpening_le m r
        simp [ht] at hs
        omega
      readSet? m (readOpening m r).1 (o :: outer) (readOpening m r).2
  | ']' :: r =>
    have : r.length < s.length := by
      simp [ht] at hs
      omega
    match o.close? m, outer with
    | none, _ => none
    | some x, [] => some (x.depth, r)
    | some x, p :: outer => readSet? m (p.push x) outer r
  | t =>
    match ho : SetOperator.read? t with
    | some (op, r) =>
      have : r.length < s.length := by
        have := SetOperator.length_read?_lt ho
        rw [ht] at hs
        omega
      readSet? m (o.operate op) outer r
    | none =>
      match hm : readMember? m t with
      | some r =>
        have : r.length < s.length := by
          have := length_readMember?_lt hm
          rw [ht] at hs
          omega
        readSet? m (o.push {}) outer r
      | none => none
termination_by s.length

theorem length_readSet?_lt {m : Mode} {o : OpenSet} {outer : List OpenSet} {s r : List Char}
    {d : Nat} (h : readSet? m o outer s = some (d, r)) : r.length < s.length := by
  fun_induction readSet? m o outer s <;> grind

end BenchReport.Expression
