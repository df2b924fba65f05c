import BenchReport.Measurement
import BenchReport.Numeral
import BenchReport.ResultLine

namespace BenchReport

inductive Finding
  | matched (m : Measurement)
  | skipped (name time variance : String)
  deriving DecidableEq, Repr

namespace Finding

def ofHit (h : Hit) : Finding :=
  match Numeral.readGrouped? h.time, Numeral.readGrouped? h.variance with
  | some t, some v => matched ⟨h.name, t, v⟩
  | _, _ => skipped h.name h.time h.variance

def measurement? : Finding → Option Measurement
  | matched m => some m
  | skipped .. => none

def all (text : String) : List Finding := (Hit.all text).map ofHit

end Finding

namespace Measurement

def sort (ms : List Measurement) : List Measurement :=
  ms.mergeSort fun a b => a.timeNs ≤ b.timeNs

def extract (text : String) : List Measurement :=
  sort ((Finding.all text).filterMap Finding.measurement?)

end Measurement

end BenchReport
