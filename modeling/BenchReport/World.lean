import BenchReport.FileTree
import BenchReport.Host

/-! Surroundings that are a value: a file tree, a sink for the summary, the events told so far, and
an instant that stands still. -/

namespace BenchReport

structure World where
  tree : FileTree := {}
  sink : Sink := {}
  /-- The latest event first. -/
  told : List Log.Event := []
  now : Instant := ⟨0, 0⟩

namespace World

def log (w : World) : List Log.Event := w.told.reverse

def settle (r : Except Cause FileTree) : StateM World (Except Cause Unit) := do
  match r with
  | .error e => return .error e
  | .ok t =>
    modify fun w => { w with tree := t }
    return .ok ()

instance : Host (StateM World) where
  readFile p := return (← get).tree.readFile p
  createDir p := do settle ((← get).tree.createDir p)
  isDir p := return (← get).tree.isDir p
  writeFile p b := do settle ((← get).tree.writeFile p b)
  print b := do
    let (r, s) := (← get).sink.write b
    modify fun w => { w with sink := s }
    return r.mapError .sink
  tell e := modify fun w => { w with told := e :: w.told }
  now := return (← get).now

end World

end BenchReport
