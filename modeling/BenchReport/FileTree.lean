import BenchReport.Failure
import BenchReport.Path

/-! A tree of files and directories, and what the paths in it lead to. The root is also where
relative paths start and where `..` leads from the root. -/

namespace BenchReport

abbrev Place := List Bytes

inductive Entry
  | dir
  | file (content : Bytes)
  deriving DecidableEq, Repr

structure FileTree where
  entries : List (Place × Entry) := []
  deriving DecidableEq, Repr

namespace FileTree

def lookup (t : FileTree) : Place → Option Entry
  | [] => some .dir
  | place => t.entries.lookup place

def put (place : Place) (e : Entry) : List (Place × Entry) → List (Place × Entry)
  | [] => [(place, e)]
  | x :: xs => if x.1 = place then (place, e) :: xs else x :: put place e xs

def insert (t : FileTree) (place : Place) (e : Entry) : FileTree := ⟨put place e t.entries⟩

def remove (t : FileTree) (place : Place) : FileTree :=
  ⟨t.entries.filter fun x => !place.isPrefixOf x.1⟩

/-- The longest name, and the first length that no path has. -/
def nameLimit : Nat := 255

def pathLimit : Nat := 4096

def enter (t : FileTree) (here : Place) (name : Bytes) : Except SystemError Place :=
  if name = Path.dot then .ok here
  else if name = Path.dotDot then .ok here.dropLast
  else if nameLimit < name.length then .error .nameTooLong
  else match t.lookup (here ++ [name]) with
    | none => .error .notFound
    | some (.file _) => .error .notDirectory
    | some .dir => .ok (here ++ [name])

/-- Where a path leads: to a directory that needs no name there, or to a name in a directory. -/
inductive Target
  | dir (place : Place)
  | entry (parent : Place) (name : Bytes)
  deriving DecidableEq, Repr

def names (p : Path) : List Bytes := (Path.split p).filter (· ≠ [])

def locate (t : FileTree) (p : Path) : Except Cause Target :=
  if 0 ∈ p then .error .zeroByte
  else if p = [] then .error (.system .notFound)
  else if pathLimit ≤ p.length then .error (.system .nameTooLong)
  else match (names p).getLast? with
    | none => .ok (.dir [])
    | some last =>
      match (names p).dropLast.foldlM t.enter [] with
      | .error e => .error (.system e)
      | .ok here =>
        if last = Path.dot then .ok (.dir here)
        else if last = Path.dotDot then .ok (.dir here.dropLast)
        else .ok (.entry here last)

def endsOpen (p : Path) : Bool := p.getLast? = some Path.separator

def find (t : FileTree) (parent : Place) (name : Bytes) : Except Cause (Option Entry) :=
  if nameLimit < name.length then .error (.system .nameTooLong) else .ok (t.lookup (parent ++ [name]))

def readFile (t : FileTree) (p : Path) : Except Cause Bytes := do
  match ← t.locate p with
  | .dir _ => .error (.system .isDirectory)
  | .entry parent name =>
    match ← t.find parent name with
    | none => .error (.system .notFound)
    | some .dir => .error (.system .isDirectory)
    | some (.file content) => if endsOpen p then .error (.system .notDirectory) else .ok content

def createDir (t : FileTree) (p : Path) : Except Cause FileTree := do
  match ← t.locate p with
  | .dir _ => .error (.system .alreadyThere)
  | .entry parent name =>
    match ← t.find parent name with
    | none => .ok (t.insert (parent ++ [name]) .dir)
    | some _ => .error (.system .alreadyThere)

def isDir (t : FileTree) (p : Path) : Bool :=
  match t.locate p with
  | .error _ => false
  | .ok (.dir _) => true
  | .ok (.entry parent name) =>
    match t.find parent name with
    | .ok (some .dir) => true
    | _ => false

def writeFile (t : FileTree) (p : Path) (content : Bytes) : Except Cause FileTree := do
  match ← t.locate p with
  | .dir _ => .error (.system .isDirectory)
  | .entry parent name =>
    if endsOpen p then .error (.system .isDirectory)
    else match ← t.find parent name with
      | some .dir => .error (.system .isDirectory)
      | _ => .ok (t.insert (parent ++ [name]) (.file content))

def removeAt (t : FileTree) (p : Path) : FileTree :=
  match t.locate p with
  | .ok (.entry parent name) => t.remove (parent ++ [name])
  | _ => t

def listing (t : FileTree) : List (Path × Entry) :=
  (t.entries.map fun (place, e) => (Path.join place, e)).mergeSort fun a b => a.1 ≤ b.1

end FileTree

end BenchReport
