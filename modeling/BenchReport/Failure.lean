import BenchReport.Report.Fault
import BenchReport.Sink
import BenchReport.SystemError

namespace BenchReport

inductive Cause
  | system (e : SystemError)
  | zeroByte
  | notText
  | sink (e : SinkError)
  | other (text : String)
  deriving DecidableEq, Repr

def SinkError.message : SinkError → String
  | full => "sink full"
  | stalled => "failed to write whole buffer"

def Cause.message : Cause → String
  | system e => e.message
  | zeroByte => "file name contained an unexpected NUL byte"
  | notText => "stream did not contain valid UTF-8"
  | sink e => e.message
  | other text => text

inductive Failure
  | readInput (path : Bytes) (cause : Cause)
  | createDir (path : Bytes) (cause : Cause)
  | writeOutput (path : Bytes) (cause : Cause)
  | invalidReport (path : Bytes) (complaint : Report.Complaint)
  | serialize (complaint : Report.Complaint)
  | summary (cause : Cause)
  deriving DecidableEq, Repr

namespace Failure

def source : Failure → String
  | readInput _ c | createDir _ c | writeOutput _ c | summary c => c.message
  | invalidReport _ c | serialize c => c.message

def message : Failure → String
  | readInput p _ => "failed to read benchmark output " ++ p.shown
  | createDir p _ => "failed to create output directory " ++ p.shown
  | writeOutput p _ => "failed to write report " ++ p.shown
  | invalidReport p _ => "invalid report " ++ p.shown
  | serialize c => "failed to serialize benchmark results: " ++ c.message
  | summary c => "failed to write summary: " ++ c.message

def chain (f : Failure) : List String := [f.message, f.source]

end Failure

def onOneLine (chain : List String) : String := ": ".intercalate chain

end BenchReport
