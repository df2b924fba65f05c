import BenchReport.Command
import Std.Time.DateTime.Timestamp

namespace BenchReport

abbrev Shell := ReaderT Log.Filter IO

namespace Shell

def systemCode : IO.Error → Option UInt32
  | .alreadyExists _ n _ | .otherError n _ | .resourceBusy n _ | .resourceVanished n _
  | .unsupportedOperation n _ | .hardwareFault n _ | .unsatisfiedConstraints n _
  | .illegalOperation n _ | .protocolError n _ | .timeExpired n _ | .interrupted _ n _
  | .noFileOrDirectory _ n _ | .invalidArgument _ n _ | .permissionDenied _ n _
  | .resourceExhausted _ n _ | .inappropriateType _ n _ | .noSuchThing _ n _ => some n
  | .unexpectedEof | .userError _ => none

def cause (e : IO.Error) : Cause :=
  match systemCode e with
  | some n => .system ⟨min n.toNat (0 - n).toNat⟩
  | none => .other (toString e)

def guarded {α : Type} (step : IO α) : Shell (Except Cause α) := do
  try return .ok (← step)
  catch e => return .error (cause e)

def onPath {α : Type} (p : Path) (step : String → IO α) : Shell (Except Cause α) :=
  if 0 ∈ p then return .error .zeroByte
  else match p.text? with
    | some name => guarded (step name)
    | none => return .error (.system .notFound)

def now : IO Instant := do
  let t := (← Std.Time.Timestamp.now).val
  return ⟨t.second.val, t.nano.val.toNat⟩

instance : Host Shell where
  readFile p := return (← onPath p fun name => IO.FS.readBinFile name).map fun b => b.data.toList
  createDir p := onPath p fun name => IO.FS.createDir name
  isDir p := do
    match ← onPath p fun name => do (← IO.FS.realPath name).isDir with
    | .ok answer => return answer
    | .error _ => return false
  writeFile p b := onPath p fun name => IO.FS.writeBinFile name ⟨b.toArray⟩
  print b := guarded do
    let out ← IO.getStdout
    out.write ⟨b.toArray⟩
    out.flush
  tell e := do
    if (← read).tells e then
      IO.eprintln ((← now).writeMicros ++ " " ++ e.line)
  now := now

end Shell

end BenchReport

open BenchReport in
def main (args : List String) : IO UInt32 := do
  let setting (name : String) : IO (Option Bytes) := return (← IO.getEnv name).map Bytes.ofString
  let filter := Log.Filter.ofSetting (← setting "RUST_LOG")
  let settings := Command.Settings.ofVariable (← setting "EXTRACT_BENCHMARKS_MARKDOWN")
  let words := ("extract_benchmarks" :: args).map Bytes.ofString
  let r ← (Command.run words settings : ExceptT Command.Trouble Shell Nat).run.run filter
  let (status, complaints) := Command.outcome r
  complaints.forM fun line => IO.eprintln line
  return UInt32.ofNat status
