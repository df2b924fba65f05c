import BenchReport.Binary64.Shortest

namespace BenchReport

/-- A number has no exponent if that of its first digit is within `plain`. A whole one ends in `.0`
where `fraction` says so, and a positive exponent has a sign where `plus` does. -/
structure Layout where
  tie : Tie
  plain : Option (Int × Int)
  fraction : Bool
  plus : Bool

namespace Layout

def report : Layout := ⟨.even, some (-5, 15), true, true⟩

def table : Layout := ⟨.up, none, false, false⟩

def inspect : Layout := ⟨.up, some (-4, 15), true, false⟩

def zeros (n : Int) : List Char := List.replicate n.toNat '0'

def positional (l : Layout) (ds : List Char) (p : Int) : List Char :=
  if p ≤ 0 then '0' :: '.' :: zeros (-p) ++ ds
  else if ds.length ≤ p then
    ds ++ zeros (p - ds.length) ++ if l.fraction then ['.', '0'] else []
  else ds.take p.toNat ++ '.' :: ds.drop p.toNat

def scientific (l : Layout) (ds : List Char) (e : Int) : List Char :=
  (match ds with
    | [] => []
    | [d] => [d]
    | d :: ds => d :: '.' :: ds) ++
  'e' :: (if e < 0 then ['-'] else if l.plus then ['+'] else []) ++ Nat.toDigits 10 e.natAbs

def isPlain (l : Layout) (e : Int) : Bool :=
  match l.plain with
  | none => true
  | some (low, high) => low ≤ e && e ≤ high

def write (l : Layout) (x : Binary64) : String :=
  if x.sig = 0 then if l.fraction then "0.0" else "0"
  else
    let d := x.shortest l.tie
    let ds := Nat.toDigits 10 d.digits
    let e := ds.length + d.exp - 1
    String.ofList (if l.isPlain e then l.positional ds (e + 1) else l.scientific ds e)

end Layout

end BenchReport
