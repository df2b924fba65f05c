import BenchReport.Text.Blank

/-! Pieces of a text. Places in it count bytes of UTF-8 and have to lie between characters. -/

namespace BenchReport.Text

def trim (s : List Char) : List Char :=
  ((s.dropWhile isBlank).reverse.dropWhile isBlank).reverse

def takeBytes? : Nat → List Char → Option (List Char)
  | 0, _ => some []
  | _ + 1, [] => none
  | n + 1, c :: s =>
    if c.utf8Size ≤ n + 1 then (takeBytes? (n + 1 - c.utf8Size) s).map (c :: ·) else none

def dropBytes? : Nat → List Char → Option (List Char)
  | 0, s => some s
  | _ + 1, [] => none
  | n + 1, c :: s => if c.utf8Size ≤ n + 1 then dropBytes? (n + 1 - c.utf8Size) s else none

def piece? (s : List Char) (first last : Nat) : Option (List Char) :=
  (dropBytes? first s).bind (takeBytes? (last - first))

end BenchReport.Text
