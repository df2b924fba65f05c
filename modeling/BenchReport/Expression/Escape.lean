import BenchReport.Expression.Mode
import BenchReport.Text.Hexadecimal

namespace BenchReport.Expression

inductive Atom
  | letter (c : Char)
  | set
  | edge
  deriving DecidableEq, Repr

def readHex? (m : Mode) : Nat → Nat → List Char → Option (Nat × List Char)
  | 0, n, s => some (n, s)
  | k + 1, n, s =>
    match m.skip s with
    | [] => none
    | c :: r => (Text.hexDigit? c).bind fun d => readHex? m k (n * 16 + d) r

def readNumber? (m : Mode) (digits : Nat) (s : List Char) : Option (Atom × List Char) :=
  match readHex? m digits 0 s with
  | some (n, r) =>
    if n.isValidChar ∧ (m.unicode ∨ digits ≠ 2 ∨ n < 0x80) then some (.letter (.ofNat n), r)
    else none
  | none => none

def readCategory? (m : Mode) (s : List Char) : Option (Atom × List Char) :=
  match m.skip s with
  | c :: r => if m.unicode ∧ c ∈ "clmnpszCLMNPSZ".toList then some (.set, r) else none
  | [] => none

def control? (c : Char) : Option Char :=
  if c = 'a' then some '\x07'
  else if c = 'f' then some '\x0c'
  else if c = 't' then some '\t'
  else if c = 'n' then some '\n'
  else if c = 'r' then some '\r'
  else if c = 'v' then some '\x0b'
  else none

def simple? (m : Mode) (c : Char) : Option Atom :=
  match control? c with
  | some d => some (.letter d)
  | none =>
    if c ∈ "dsw".toList then some .set
    else if c ∈ "DSW".toList then if m.unicode then some .set else none
    else if c ∈ "Az".toList then some .edge
    else if c ∈ "bB<>".toList then if m.unicode then none else some .edge
    else if c.isAlphanum ∨ 0x80 ≤ c.toNat then none
    else some (.letter c)

def readEscape? (m : Mode) : List Char → Option (Atom × List Char)
  | [] => none
  | c :: s =>
    if c = 'x' then readNumber? m 2 s
    else if c = 'u' then readNumber? m 4 s
    else if c = 'U' then readNumber? m 8 s
    else if c = 'p' ∨ c = 'P' then readCategory? m s
    else (simple? m c).map fun a => (a, s)

theorem length_readHex?_le {m : Mode} {k n v : Nat} {s r : List Char}
    (h : readHex? m k n s = some (v, r)) : r.length ≤ s.length := by
  induction k generalizing n s with
  | zero =>
    obtain ⟨-, rfl⟩ := Prod.mk.inj (Option.some.inj h)
    exact Nat.le_refl _
  | succ k ih =>
    have hs := m.length_skip_le s
    unfold readHex? at h
    split at h
    · simp at h
    · next c t ht =>
      obtain ⟨d, -, hd⟩ := Option.bind_eq_some_iff.1 h
      have := ih hd
      simp [ht] at hs
      omega

theorem length_readNumber?_le {m : Mode} {k : Nat} {a : Atom} {s r : List Char}
    (h : readNumber? m k s = some (a, r)) : r.length ≤ s.length := by
  unfold readNumber? at h
  split at h
  · next n t ht =>
    split at h
    · simp only [Option.some.injEq, Prod.mk.injEq] at h
      exact h.2 ▸ length_readHex?_le ht
    · simp at h
  · simp at h

theorem length_readCategory?_le {m : Mode} {a : Atom} {s r : List Char}
    (h : readCategory? m s = some (a, r)) : r.length ≤ s.length := by
  have hs := m.length_skip_le s
  unfold readCategory? at h
  split at h
  · next c t ht =>
    split at h
    · simp only [Option.some.injEq, Prod.mk.injEq] at h
      simp [ht] at hs
      obtain ⟨-, rfl⟩ := h
      omega
    · simp at h
  · simp at h

theorem length_readEscape?_le {m : Mode} {a : Atom} {s r : List Char}
    (h : readEscape? m s = some (a, r)) : r.length ≤ s.length := by
  cases s with
  | nil => simp [readEscape?] at h
  | cons c s =>
    simp only [readEscape?] at h
    refine Nat.le_succ_of_le ?_
    split at h
    · exact length_readNumber?_le h
    · split at h
      · exact length_readNumber?_le h
      · split at h
        · exact length_readNumber?_le h
        · split at h
          · exact length_readCategory?_le h
          · obtain ⟨b, -, hb⟩ := Option.map_eq_some_iff.1 h
            exact (Prod.mk.inj hb).2 ▸ Nat.le_refl _

end BenchReport.Expression
