namespace BenchReport

abbrev Bytes := List UInt8

namespace Bytes

def ofString (s : String) : Bytes := s.toUTF8.data.toList

def text? (b : Bytes) : Option String := String.fromUTF8? ⟨b.toArray⟩

theorem text?_ofString (s : String) : text? (ofString s) = some s := by
  have h : ByteArray.mk s.toUTF8.data.toList.toArray = s.toByteArray := by simp
  simp only [text?, ofString, h, String.fromUTF8?, dif_pos s.isValidUTF8]
  rfl

/-- A character begun and not finished: how many bytes it lacks, between which bounds the next
one lies, and the bits read so far. -/
structure Unfinished where
  lacks : Nat
  low : Nat
  high : Nat
  bits : Nat

def Unfinished.ofLead (b : Nat) : Option Unfinished :=
  if 0xC2 ≤ b ∧ b ≤ 0xDF then some ⟨1, 0x80, 0xBF, b - 0xC0⟩
  else if b = 0xE0 then some ⟨2, 0xA0, 0xBF, 0⟩
  else if b = 0xED then some ⟨2, 0x80, 0x9F, 0xD⟩
  else if 0xE1 ≤ b ∧ b ≤ 0xEF then some ⟨2, 0x80, 0xBF, b - 0xE0⟩
  else if b = 0xF0 then some ⟨3, 0x90, 0xBF, 0⟩
  else if b = 0xF4 then some ⟨3, 0x80, 0x8F, 4⟩
  else if 0xF1 ≤ b ∧ b ≤ 0xF3 then some ⟨3, 0x80, 0xBF, b - 0xF0⟩
  else none

def replacement : Char := '\uFFFD'

def leading (b : Nat) : List Char × Option Unfinished :=
  if b < 0x80 then ([Char.ofNat b], none)
  else match Unfinished.ofLead b with
    | some u => ([], some u)
    | none => ([replacement], none)

def decodeStep (b : Nat) : Option Unfinished → List Char × Option Unfinished
  | none => leading b
  | some u =>
    if u.low ≤ b ∧ b ≤ u.high then
      let bits := u.bits * 64 + (b - 0x80)
      if u.lacks = 1 then ([Char.ofNat bits], none)
      else ([], some ⟨u.lacks - 1, 0x80, 0xBF, bits⟩)
    else
      let (cs, next) := leading b
      (replacement :: cs, next)

/-- Each longest start of a character that is not continued, and each byte that starts none, is
shown as one replacement character. -/
def shownFrom : Option Unfinished → Bytes → List Char
  | none, [] => []
  | some _, [] => [replacement]
  | u, b :: bs => (decodeStep b.toNat u).1 ++ shownFrom (decodeStep b.toNat u).2 bs

def shown (b : Bytes) : String :=
  (text? b).getD (String.ofList (shownFrom none b))

end Bytes

end BenchReport
