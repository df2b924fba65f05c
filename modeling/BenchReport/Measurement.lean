import BenchReport.Binary64.Layout
import BenchReport.Text.Quoted

namespace BenchReport

structure Measurement where
  name : String
  timeNs : UInt64
  varianceNs : UInt64
  deriving DecidableEq, Repr

namespace Measurement

def timeUs (m : Measurement) : Binary64 := (Binary64.ofNat m.timeNs.toNat).div (.ofNat 1000)

def timeMs (m : Measurement) : Binary64 := (Binary64.ofNat m.timeNs.toNat).div (.ofNat 1000000)

def inspect (m : Measurement) : String :=
  "BenchmarkResult \x7b name: " ++ Text.quoted m.name ++ ", time_ns: " ++ m.timeNs.toNat.repr ++
    ", variance_ns: " ++ m.varianceNs.toNat.repr ++ ", time_us: " ++ Layout.inspect.write m.timeUs ++
    ", time_ms: " ++ Layout.inspect.write m.timeMs ++ " \x7d"

end Measurement

end BenchReport
