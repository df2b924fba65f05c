import BenchReport.Measurement

namespace BenchReport.Summary

def pieces (ms : List Measurement) : List String :=
  ["Extracted ", ms.length.repr, " benchmark results\n"] ++
    ms.flatMap fun m => ["  ", m.name, ": ", m.timeNs.toNat.repr, " ns\n"]

def write (ms : List Measurement) : String := String.join (pieces ms)

end BenchReport.Summary
