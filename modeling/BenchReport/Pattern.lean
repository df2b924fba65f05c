/-! Greedy patterns: words and runs of characters, of each run the longest choice tried first. -/

namespace BenchReport

/-- A filler may be empty, a run may not, and a field is a run that is reported. -/
inductive Item
  | word (w : List Char)
  | filler (p : Char → Bool)
  | run (p : Char → Bool)
  | field (p : Char → Bool)

abbrev Pattern := List Item

/-- The ends of a run of `p` that has `n` characters so far: how many it can have, and what is then
left of the text, longest first, before the `shorter` ones. -/
def runEnds (p : Char → Bool) (n : Nat) : List Char → List (Nat × List Char) → List (Nat × List Char)
  | [], shorter => (n, []) :: shorter
  | c :: s, shorter =>
    if p c then runEnds p (n + 1) s ((n, c :: s) :: shorter) else (n, c :: s) :: shorter

namespace Item

def ends : Item → List Char → List (Nat × List Char)
  | word w, s => if w.isPrefixOf s then [(w.length, s.drop w.length)] else []
  | filler p, s => runEnds p 0 s []
  | run _, [] => []
  | run p, c :: s => if p c then runEnds p 1 s [] else []
  | field _, [] => []
  | field p, c :: s => if p c then runEnds p 1 s [] else []

def reported : Item → List Char → List (List Char)
  | field _, taken => [taken]
  | _, _ => []

end Item

namespace Pattern

def matchAt : Pattern → List Char → Option (List (List Char) × Nat)
  | [], _ => some ([], 0)
  | i :: is, s => (i.ends s).findSome? fun (n, r) =>
      (matchAt is r).map fun (fields, length) => (i.reported (s.take n) ++ fields, n + length)

end Pattern

end BenchReport
