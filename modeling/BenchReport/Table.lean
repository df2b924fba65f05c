import BenchReport.Calendar
import BenchReport.Measurement

namespace BenchReport.Table

def row (m : Measurement) : String :=
  "| " ++ m.name ++ " | " ++ m.timeNs.toNat.repr ++ " | " ++ m.varianceNs.toNat.repr ++ " | " ++
    Layout.table.write m.timeUs ++ " | " ++ Layout.table.write m.timeMs ++ " |"

def lines (ms : List Measurement) (t : Instant) : List String :=
  ["# Benchmark Summary", "", "Generated: " ++ t.write, "",
    "| Benchmark | Time (ns) | Variance (ns) | Time (µs) | Time (ms) |",
    "|-----------|-----------|---------------|-----------|-----------|"] ++
  ms.map row ++ ["", "---", "Total benchmarks: " ++ ms.length.repr]

def write (ms : List Measurement) (t : Instant) : String :=
  String.join ((lines ms t).map (· ++ "\n"))

end BenchReport.Table
