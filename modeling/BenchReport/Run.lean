import BenchReport.Files
import BenchReport.Summary

namespace BenchReport

variable {m : Type → Type} [Monad m] [Host m]

def writeSummary (ms : List Measurement) : ExceptT Failure m Unit :=
  (Summary.pieces ms).forM fun piece => attempt .summary (Host.print (Bytes.ofString piece))

def extractTo (input output : Path) : ExceptT Failure m (List Measurement) := do
  let text ← readText input
  let findings := Finding.all text
  findings.forM fun f => tell (.found f)
  let ms := Measurement.sort (findings.filterMap Finding.measurement?)
  tell (.parsed input ms.length)
  writeReport ms output
  tell (.reported output)
  writeSummary ms
  return ms

end BenchReport
