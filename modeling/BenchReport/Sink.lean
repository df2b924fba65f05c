import BenchReport.Bytes

namespace BenchReport

/-- A sink that takes `room` more bytes, or any number of them. A full one refuses, or stalls: it
takes nothing and does not say why. -/
structure Sink where
  room : Option Nat := none
  stalls : Bool := false
  /-- What has been taken at a time, the latest first. -/
  pieces : List Bytes := []

inductive SinkError
  | full
  | stalled
  deriving DecidableEq, Repr

namespace Sink

def taken (s : Sink) : Bytes := s.pieces.reverse.flatten

def offer (s : Sink) (b : Bytes) : Except SinkError (Nat × Sink) :=
  match s.room with
  | none => .ok (b.length, { s with pieces := b :: s.pieces })
  | some 0 => if s.stalls ∨ b = [] then .ok (0, s) else .error .full
  | some room =>
    let n := min room b.length
    .ok (n, { s with room := some (room - n), pieces := b.take n :: s.pieces })

def write (s : Sink) (b : Bytes) : Except SinkError Unit × Sink :=
  if b = [] then (.ok (), s)
  else match s.offer b with
    | .error e => (.error e, s)
    | .ok (0, s) => (.error .stalled, s)
    | .ok (n + 1, s) => s.write (b.drop (n + 1))
termination_by b.length
decreasing_by
  have := List.length_pos_iff.2 ‹_›
  simp only [List.length_drop]
  omega

end Sink

end BenchReport
