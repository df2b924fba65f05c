import BenchReport.Binary64.Basic

/-! The fewest decimal digits that round to a given double, and of those the nearest to it. -/

namespace BenchReport

structure Decimal where
  digits : Nat
  exp : Int
  deriving DecidableEq, Repr

inductive Tie
  | even
  | up
  deriving DecidableEq, Repr

namespace Binary64

/-- The ends of the numbers that round to `x`, in quarters of its last place. Below a power of two
the doubles are twice as dense. -/
def lowEnd (x : Binary64) : Nat := if x.sig = Nat.pow 2 52 ∧ 0 < x.exp then 4 * x.sig - 1 else 4 * x.sig - 2

def highEnd (x : Binary64) : Nat := 4 * x.sig + 2

/-- Four times `d * 10 ^ k` in units, and `n` places of `x` in units, over one denominator. -/
def decimalSide (d : Nat) (k : Int) : Nat := 4 * d * Nat.pow 10 k.toNat * one

def binarySide (n : Nat) (x : Binary64) (k : Int) : Nat := n * Nat.pow 2 x.exp * Nat.pow 10 (-k).toNat

def Reads (x : Binary64) (d : Nat) (k : Int) : Prop :=
  if x.sig % 2 = 0 then
    binarySide x.lowEnd x k ≤ decimalSide d k ∧ decimalSide d k ≤ binarySide x.highEnd x k
  else binarySide x.lowEnd x k < decimalSide d k ∧ decimalSide d k < binarySide x.highEnd x k

instance (x : Binary64) (d : Nat) (k : Int) : Decidable (x.Reads d k) := by
  unfold Reads; infer_instance

def decimalAt? (t : Tie) (x : Binary64) (k : Int) : Option Decimal :=
  let a := x.scaled * Nat.pow 10 (-k).toNat
  let b := one * Nat.pow 10 k.toNat
  let d := a / b
  let r := a % b
  if x.Reads d k then
    if x.Reads (d + 1) k ∧ (b < 2 * r ∨ b = 2 * r ∧ (t = .up ∨ d % 2 = 1)) then some ⟨d + 1, k⟩
    else some ⟨d, k⟩
  else if x.Reads (d + 1) k then some ⟨d + 1, k⟩
  else none

/-- By what power of ten a positive double is scaled to exceed one; `324` will do for all. -/
def lift (x : Binary64) : Nat :=
  if one ≤ x.scaled then 0 else if one ≤ x.scaled * Nat.pow 10 8 then 8 else 324

def leadExp (x : Binary64) : Int :=
  (Nat.toDigits 10 (x.scaled * Nat.pow 10 x.lift / one)).length - 1 - x.lift

def shortest (t : Tie) (x : Binary64) : Decimal :=
  let top := x.leadExp + 1
  ((List.range 18).findSome? fun (i : Nat) => x.decimalAt? t (top - i)).getD ⟨0, 0⟩

end Binary64

end BenchReport
