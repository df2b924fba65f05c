/-! Non-negative numbers of 53 significant bits, and correctly rounded arithmetic on them. -/

namespace BenchReport

/-- The number `sig * 2 ^ exp`, counted in the least positive unit `2 ^ -1074`. -/
structure Binary64 where
  sig : Nat
  exp : Nat
  deriving DecidableEq, Repr

namespace Binary64

def scaled (x : Binary64) : Nat := x.sig * Nat.pow 2 x.exp

def one : Nat := Nat.pow 2 1074

def halfEven (a d : Nat) : Nat :=
  let q := a / d
  let r := a % d
  if 2 * r < d ∨ 2 * r = d ∧ q % 2 = 0 then q else q + 1

/-- The exponent at which `a / d` units have 53 bits before the point, or the least one. -/
def unitExp (a d : Nat) : Nat := (a / d).log2 - 52

def round (a d : Nat) : Binary64 :=
  let e := unitExp a d
  let m := halfEven a (d * Nat.pow 2 e)
  if m = Nat.pow 2 53 then ⟨Nat.pow 2 52, e + 1⟩ else ⟨m, e⟩

def ofNat (n : Nat) : Binary64 := round (n * one) 1

def mul (x y : Binary64) : Binary64 := round (x.scaled * y.scaled) one

def div (x y : Binary64) : Binary64 := round (x.scaled * one) y.scaled

def tooLarge (x : Binary64) : Bool := 2046 ≤ x.exp

end Binary64

end BenchReport
