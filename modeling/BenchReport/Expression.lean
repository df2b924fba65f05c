import BenchReport.Expression.Brackets
import BenchReport.Expression.Group

/-!
Regular expressions: which texts are well formed. None has a closing brace, so that an opening one
is never closed, and no part is more than 250 deep.
-/

namespace BenchReport.Expression

def depthLimit : Nat := 250

structure Body where
  mode : Mode := {}
  count : Nat := 0
  depth : Nat := 0
  last : Option Nat := none
  branches : Option Nat := none
  deriving DecidableEq, Repr

namespace Body

def push (b : Body) (depth : Nat) : Body :=
  { b with count := b.count + 1, depth := max b.depth depth, last := some depth }

def pushFlags (b : Body) (m : Mode) : Body :=
  { b with mode := m, count := b.count + 1, last := none }

def repeat? (b : Body) : Option Body :=
  b.last.map fun d => { b with depth := max b.depth (d + 1), last := some (d + 1) }

def branchDepth (b : Body) : Nat := if 2 ≤ b.count then b.depth + 1 else b.depth

def branch (b : Body) : Body :=
  { mode := b.mode, branches := some (max (b.branches.getD 0) b.branchDepth) }

def totalDepth (b : Body) : Nat :=
  match b.branches with
  | none => b.branchDepth
  | some d => max d b.branchDepth + 1

end Body

structure Standing where
  body : Body := {}
  outer : List Body := []
  names : List (List Char) := []
  deriving DecidableEq, Repr

namespace Standing

def push (t : Standing) (depth : Nat) : Standing := { t with body := t.body.push depth }

def enter (t : Standing) (m : Mode) (name : Option (List Char)) : Option Standing :=
  if name.any (· ∈ t.names) then none
  else some
    { body := { mode := m }, outer := t.body :: t.outer, names := name.toList ++ t.names }

def leave (t : Standing) : Option Standing :=
  match t.outer with
  | [] => none
  | b :: outer => some { t with body := b.push (t.body.totalDepth + 1), outer := outer }

def isComplete (t : Standing) : Bool := t.outer == [] && t.body.totalDepth ≤ depthLimit

end Standing

def skipLazy : List Char → List Char
  | '?' :: s => s
  | s => s

def step? (t : Standing) (c : Char) (s : List Char) : Option (Standing × List Char) :=
  let m := t.body.mode
  if c = '(' then
    match readGroup? m s with
    | some (.flags m, r) => some ({ t with body := t.body.pushFlags m }, r)
    | some (.group m name, r) => (t.enter m name).map fun t => (t, r)
    | none => none
  else if c = ')' then t.leave.map fun t => (t, s)
  else if c = '|' then some ({ t with body := t.body.branch }, s)
  else if c = '[' then
    (readSet? m (readOpening m s).1 [] (readOpening m s).2).map fun (d, r) => (t.push d, r)
  else if c = '?' ∨ c = '*' ∨ c = '+' then
    t.body.repeat?.map fun b => ({ t with body := b }, skipLazy s)
  else if c = '\x7b' then none
  else if c = '\\' then (readEscape? m s).map fun (_, r) => (t.push 0, r)
  else if c = '.' ∧ ¬ m.unicode then none
  else some (t.push 0, s)

theorem length_skipLazy_le (s : List Char) : (skipLazy s).length ≤ s.length := by
  unfold skipLazy
  split <;> simp

theorem length_step?_le {t u : Standing} {c : Char} {s r : List Char}
    (h : step? t c s = some (u, r)) : r.length ≤ s.length := by
  have hl := length_skipLazy_le s
  have ho := length_readOpening_le t.body.mode s
  simp only [step?] at h
  split at h
  · split at h
    · next m q hq =>
      have := length_readGroup?_le hq
      grind
    · next m name q hq =>
      have := length_readGroup?_le hq
      grind [Option.map_eq_some_iff]
    · simp at h
  · split at h
    · grind [Option.map_eq_some_iff]
    · split at h
      · grind
      · split at h
        · obtain ⟨⟨d, q⟩, hq, he⟩ := Option.map_eq_some_iff.1 h
          have := length_readSet?_lt hq
          grind
        · split at h
          · grind [Option.map_eq_some_iff]
          · split at h
            · simp at h
            · split at h
              · obtain ⟨⟨a, q⟩, hq, he⟩ := Option.map_eq_some_iff.1 h
                have := length_readEscape?_le hq
                grind
              · grind

def readAll? (t : Standing) (s : List Char) : Option Standing :=
  match hs : t.body.mode.skip s with
  | [] => some t
  | c :: r =>
    match hr : step? t c r with
    | none => none
    | some (u, q) =>
      have : q.length < s.length := by
        have := length_step?_le hr
        have hl := t.body.mode.length_skip_le s
        simp [hs] at hl
        omega
      readAll? u q
termination_by s.length

def isValid (s : List Char) : Bool := (readAll? {} s).any Standing.isComplete

end BenchReport.Expression
