import BenchReport.Expression
import BenchReport.Log
import BenchReport.Text.Piece
import BenchReport.Text.Real

namespace BenchReport.Log

/-- Sets the level for the origins that begin with `origin` and for events that have `field`. One
for spans never concerns an event here, as none lies in a span. -/
structure Directive where
  origin : Option (List Char) := none
  field : Option (List Char) := none
  forSpans : Bool := false
  level : Level := .trace
  deriving DecidableEq, Repr

namespace Level

def read? (s : List Char) : Option Level :=
  match (Numeral.read? s).bind fun n => all.find? fun l => l.rank = n.toNat with
  | some l => some l
  | none => all.find? fun l => l.name.toList.map Text.lower = s.map Text.lower

def readAfter? : List Char → Option Level
  | [] => some .trace
  | s => read? s

end Level

namespace Directive

inductive Place
  | start
  | word
  | span (first : Nat)
  | field (first : Nat)
  | afterField
  | afterSpan
  | level (first : Nat)
  deriving DecidableEq, Repr

def startsWord (c : Char) : Bool := c == '-' || c == ':' || c == '_' || Text.isAlphanumeric c

def isValue (s : List Char) : Bool := Text.isReal s || Expression.isValid s

def withField? (d : Directive) (s : List Char) : Option Directive :=
  match s, s.splitOn '=' with
  | [], _ => none
  | _, name :: value :: _ =>
    if isValue value then some { d with field := some name, forSpans := true } else none
  | _, _ => some { d with field := some s }

def step? (whole : List Char) (i : Nat) (c : Char) (d : Directive) :
    Place → Option (Directive × Place)
  | .start =>
    if c = '[' then some (d, .span (i + 1))
    else if startsWord c then some (d, .word)
    else none
  | .word =>
    if c = '=' ∨ c = '[' then
      (Text.piece? whole 0 i).map fun o =>
        ({ d with origin := some o }, if c = '=' then .level (i + 1) else .span (i + 1))
    else some (d, .word)
  | .span first =>
    if c = ']' then some ({ d with forSpans := true }, .afterSpan)
    else if c = '\x7b' then
      (Text.piece? whole first i).map fun name => ({ d with forSpans := name != [] }, .field (i + 1))
    else some (d, .span first)
  | .field first =>
    if c = '\x7d' then
      ((Text.piece? whole first i).bind d.withField?).map fun d => (d, .afterField)
    else some (d, .field first)
  | .afterField => if c = ']' then some (d, .afterSpan) else none
  | .afterSpan => if c = '=' then some (d, .level (i + 1)) else none
  | .level first => some (d, .level first)

def finish? (whole : List Char) (d : Directive) : Place → Option Directive
  | .word =>
    match Level.read? whole with
    | some l => some { level := l }
    | none => some { origin := some whole }
  | .level first =>
    ((Text.dropBytes? first whole).bind Level.readAfter?).map fun l => { d with level := l }
  | .afterSpan => some d
  | _ => none

def readFrom? (whole : List Char) (d : Directive) (p : Place) (i : Nat) :
    List Char → Option Directive
  | [] => finish? whole d p
  | c :: s => (step? whole i c d p).bind fun (d, p) => readFrom? whole d p (i + c.utf8Size) s

/-- The places of pieces count from the first character that is not blank, and the pieces are
taken from the text with the blanks around it. -/
def read? (s : List Char) : Option Directive := readFrom? s {} .start 0 (Text.trim s)

def concerns (d : Directive) (e : Event) : Bool :=
  !d.forSpans &&
  d.origin.all (fun o => o.isPrefixOf e.origin.toList) &&
  d.field.all fun f => f = "message".toList || e.fields.any fun x => x.1.toList = f

/-- How specific a directive is: by the length of its origin, then by the name of its field. -/
def weighsLess (a b : Directive) : Bool :=
  let size (d : Directive) := (d.origin.map fun o => o.length + 1).getD 0
  let name (d : Directive) := d.field.getD []
  size a < size b || (size a == size b && name a < name b)

end Directive

end BenchReport.Log
