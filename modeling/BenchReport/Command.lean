import BenchReport.Log.Filter
import BenchReport.Run

namespace BenchReport

namespace Command

variable {m : Type → Type} [Monad m] [Host m]

def usage : String := "Usage: extract_benchmarks <input_file> <output_file>"

structure Settings where
  table : Option Path := none

def Settings.ofVariable (value : Option Bytes) : Settings := ⟨value.filter (· ≠ [])⟩

def dashes : Bytes := [45, 45]

def longName? (a : Bytes) : Option Bytes :=
  if dashes.isPrefixOf a then some ((a.drop 2).takeWhile (· ≠ 61)) else none

/-- Whether an argument can be a path: not if it is empty, nor if it is two dashes, which only mark
where paths begin, nor if it looks like a long option whose name is no text. -/
def isPath (a : Bytes) : Bool :=
  a ≠ [] && a ≠ dashes && ((longName? a).map fun n => n.text?.isSome).getD true

def paths? : List Bytes → Option (Path × Path)
  | [_, input, output] => if isPath input && isPath output then some (input, output) else none
  | _ => none

inductive Trouble
  | extraction (input : Path) (f : Failure)
  | table (f : Failure)
  | usage (c : Cause)
  deriving DecidableEq, Repr

def Trouble.chain : Trouble → List String
  | extraction p f => ("extracting benchmarks from " ++ p.shown) :: f.chain
  | table f => "writing markdown summary" :: f.chain
  | usage c => ["failed to print usage", c.message]

def Trouble.message (t : Trouble) : String := onOneLine t.chain

def run (args : List Bytes) (settings : Settings) : ExceptT Trouble m Nat := do
  match paths? args with
  | none =>
    ExceptT.mk do return (← Host.print (Bytes.ofString (usage ++ "\n"))).mapError .usage
    return 1
  | some (input, output) =>
    let ms ← (extractTo input output).adapt (.extraction input)
    match settings.table with
    | none => return 0
    | some p =>
      (writeTable ms p).adapt .table
      return 0

def outcome : Except Trouble Nat → Nat × List String
  | .ok status => (status, [])
  | .error t => (1, ["Error: " ++ t.message])

def errorOutput (filter : Log.Filter) (log : List Log.Event) (r : Except Trouble Nat) : List String :=
  (log.filter filter.tells).map Log.Event.line ++ (outcome r).2

end Command

end BenchReport
