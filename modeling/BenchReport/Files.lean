import BenchReport.Host
import BenchReport.Report.Printer
import BenchReport.Report.Reader
import BenchReport.Table

namespace BenchReport

variable {m : Type → Type} [Monad m] [Host m]

def attempt {α : Type} (failure : Cause → Failure) (step : m (Except Cause α)) : ExceptT Failure m α :=
  ExceptT.mk do return (← step).mapError failure

def tell (e : Log.Event) : ExceptT Failure m Unit := ExceptT.lift (Host.tell e)

def readText (p : Path) : ExceptT Failure m String := do
  match (← attempt (.readInput p) (Host.readFile p)).text? with
  | some text => return text
  | none => throw (.readInput p .notText)

/-- Creates a directory. If what it lies in is missing, that is created first; what is there
already will do if it is a directory. -/
def createLineage : List Path → m (Except Cause Unit)
  | [] => return .ok ()
  | p :: outer => do
    let settle (e : Cause) : m (Except Cause Unit) := do
      return if ← Host.isDir p then .ok () else .error e
    match ← Host.createDir p with
    | .ok () => return .ok ()
    | .error e =>
      if e = .system .notFound then
        match ← createLineage outer with
        | .error e => return .error e
        | .ok () =>
          match ← Host.createDir p with
          | .ok () => return .ok ()
          | .error e => settle e
      else settle e

def ensureParent (p : Path) : ExceptT Failure m Unit := do
  match p.parent? with
  | none => return ()
  | some parent => attempt (.createDir parent) (createLineage parent.lineage)

def writeText (p : Path) (text : String) : ExceptT Failure m Unit := do
  ensureParent p
  let content := Bytes.ofString text
  attempt (.writeOutput p) (Host.writeFile p content)
  tell (.wrote p content.length)

def writeReport (ms : List Measurement) (p : Path) : ExceptT Failure m Unit :=
  writeText p (Report.write ms)

def readReport (p : Path) : ExceptT Failure m (List Measurement) := do
  match Report.read (← readText p) with
  | .ok ms => return ms
  | .error c => throw (.invalidReport p c)

def writeTable (ms : List Measurement) (p : Path) : ExceptT Failure m Unit := do
  writeText p (Table.write ms (← ExceptT.lift Host.now))

def convertReport (input output : Path) : ExceptT Failure m (List Measurement) := do
  let ms ← readReport input
  writeReport ms output
  return ms

end BenchReport
