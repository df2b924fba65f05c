import BenchReport.Report.Record

namespace BenchReport.Report

def readElements (first : Bool) (s : List Char) : Except Fault (List Measurement × List Char) :=
  match _h : nextElement first s with
  | .error e => .error e
  | .ok (.close r) => .ok ([], r)
  | .ok (.member r) =>
    match _h' : readRecord r with
    | .error e => .error e
    | .ok (m, r) => (readElements false r).map fun (ms, rest) => (m :: ms, rest)
termination_by s.length
decreasing_by
  have := length_nextElement_le ‹_›
  have := length_readRecord ‹_›
  omega

def readList (s : List Char) : Except Fault (List Measurement) :=
  match skipGap s with
  | '[' :: r =>
    match readElements true r with
    | .error e => .error e
    | .ok (ms, r) =>
      match skipGap r with
      | [] => .ok ms
      | r => .error (.at .trailingCharacters r)
  | s => .error (wrongType .list s)

def read (text : String) : Except Complaint (List Measurement) :=
  (readList text.toList).mapError (Fault.complaint text)

end BenchReport.Report
