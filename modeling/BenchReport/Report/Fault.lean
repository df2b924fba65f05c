import BenchReport.Bytes
import BenchReport.Measurement

namespace BenchReport.Report

inductive Key
  | name
  | time
  | variance
  deriving DecidableEq, Repr

def Key.text : Key → String
  | name => "name"
  | time => "time_ns"
  | variance => "variance_ns"

def Key.ofText? (s : List Char) : Option Key :=
  [name, time, variance].find? fun k => k.text.toList = s

inductive Number
  | natural (n : Nat)
  | negative (n : Nat)
  | real (minus : Bool) (x : Binary64)
  deriving DecidableEq, Repr

inductive Wanted
  | list
  | record
  | text
  | time
  deriving DecidableEq, Repr

def Wanted.shown : Wanted → String
  | list => "a sequence"
  | record => "struct StoredResult"
  | text => "a string"
  | time => "u64"

inductive Found
  | null
  | bool (b : Bool)
  | number (n : Number)
  | text (s : String)
  | list
  | object
  deriving DecidableEq, Repr

def Number.shown : Number → String
  | natural n => "integer `" ++ n.repr ++ "`"
  | negative n => "integer `-" ++ n.repr ++ "`"
  | real minus x => "floating point `" ++ (if minus then "-" else "") ++ Layout.report.write x ++ "`"

def Found.shown : Found → String
  | null => "null"
  | bool b => "boolean `" ++ (if b then "true" else "false") ++ "`"
  | number n => n.shown
  | text s => "string " ++ Text.quoted s
  | list => "sequence"
  | object => "map"

inductive Reason
  | endInList
  | endInObject
  | endInText
  | endInValue
  | noColon
  | noListSeparator
  | noObjectSeparator
  | noLiteral
  | noValue
  | badEscape
  | badNumber
  | outOfRange
  | noKey
  | controlCharacter
  | loneSurrogate
  | unpairedEscape
  | trailingComma
  | trailingCharacters
  | wrongType (f : Found) (w : Wanted)
  | wrongValue (n : Number) (w : Wanted)
  | tooShort (length : Nat)
  | missing (k : Key)
  | repeated (k : Key)
  deriving DecidableEq, Repr

def Reason.message : Reason → String
  | endInList => "EOF while parsing a list"
  | endInObject => "EOF while parsing an object"
  | endInText => "EOF while parsing a string"
  | endInValue => "EOF while parsing a value"
  | noColon => "expected `:`"
  | noListSeparator => "expected `,` or `]`"
  | noObjectSeparator => "expected `,` or `\x7d`"
  | noLiteral => "expected ident"
  | noValue => "expected value"
  | badEscape => "invalid escape"
  | badNumber => "invalid number"
  | outOfRange => "number out of range"
  | noKey => "key must be a string"
  | controlCharacter => "control character (\\u0000-\\u001F) found while parsing a string"
  | loneSurrogate => "lone leading surrogate in hex escape"
  | unpairedEscape => "unexpected end of hex escape"
  | trailingComma => "trailing comma"
  | trailingCharacters => "trailing characters"
  | wrongType f w => "invalid type: " ++ f.shown ++ ", expected " ++ w.shown
  | wrongValue n w => "invalid value: " ++ n.shown ++ ", expected " ++ w.shown
  | tooShort n => "invalid length " ++ n.repr ++ ", expected " ++ Wanted.record.shown ++ " with 3 elements"
  | missing k => "missing field `" ++ k.text ++ "`"
  | repeated k => "duplicate field `" ++ k.text ++ "`"

/-- A fault `ahead` bytes into `rest`, which is what is left of the text. -/
structure Fault where
  reason : Reason
  rest : List Char
  ahead : Nat
  deriving DecidableEq, Repr

def Fault.before (r : Reason) (rest : List Char) : Fault := ⟨r, rest, 0⟩

def Fault.at (r : Reason) (rest : List Char) : Fault := ⟨r, rest, 1⟩

structure Complaint where
  reason : Reason
  line : Nat
  column : Nat
  deriving DecidableEq, Repr

def Complaint.message (c : Complaint) : String :=
  c.reason.message ++ " at line " ++ c.line.repr ++ " column " ++ c.column.repr

def byteLength : List Char → Nat
  | [] => 0
  | c :: s => c.utf8Size + byteLength s

def Fault.complaint (text : String) (f : Fault) : Complaint :=
  let bytes := Bytes.ofString text
  let read := bytes.take (bytes.length - byteLength f.rest + f.ahead)
  ⟨f.reason, 1 + read.count 10, (read.reverse.takeWhile (· != 10)).length⟩

end BenchReport.Report
