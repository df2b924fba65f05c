import BenchReport.Extraction
import BenchReport.Path

namespace BenchReport.Log

inductive Level
  | off
  | error
  | warn
  | info
  | debug
  | trace
  deriving DecidableEq, Repr

namespace Level

def all : List Level := [off, error, warn, info, debug, trace]

def rank : Level → Nat
  | off => 0
  | error => 1
  | warn => 2
  | info => 3
  | debug => 4
  | trace => 5

def name : Level → String
  | off => "OFF"
  | error => "ERROR"
  | warn => "WARN"
  | info => "INFO"
  | debug => "DEBUG"
  | trace => "TRACE"

end Level

inductive Event
  | found (f : Finding)
  | parsed (input : Path) (count : Nat)
  | wrote (path : Path) (size : Nat)
  | reported (output : Path)
  deriving DecidableEq, Repr

namespace Event

def level : Event → Level
  | found (.matched _) => .debug
  | found (.skipped ..) => .warn
  | parsed .. => .info
  | wrote .. => .debug
  | reported _ => .info

def origin : Event → String
  | found _ => "bench_extractor::parser"
  | parsed .. => "bench_extractor"
  | wrote .. => "bench_extractor::io"
  | reported _ => "bench_extractor"

def message : Event → String
  | found (.matched _) => "matched benchmark"
  | found (.skipped ..) => "skipping benchmark with unreadable numerals"
  | parsed .. => "parsed benchmark output"
  | wrote .. => "wrote report"
  | reported _ => "wrote benchmark report"

def fields : Event → List (String × String)
  | found (.matched m) => [("benchmark", Text.quoted m.name), ("time_ns", m.timeNs.toNat.repr),
      ("variance_ns", m.varianceNs.toNat.repr)]
  | found (.skipped n t v) => [("benchmark", Text.quoted n), ("time", Text.quoted t),
      ("variance", Text.quoted v)]
  | parsed p n => [("input", p.shown), ("count", n.repr)]
  | wrote p n => [("path", p.shown), ("bytes", n.repr)]
  | reported p => [("output", p.shown)]

def line (e : Event) : String :=
  String.ofList (List.replicate (5 - e.level.name.length) ' ') ++ e.level.name ++ " " ++ e.message ++
    String.join (e.fields.map fun (k, v) => " " ++ k ++ "=" ++ v)

end Event

end BenchReport.Log
