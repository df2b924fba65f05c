import BenchReport.Measurement

namespace BenchReport.Report

open Text

def escapedChar (c : Char) : List Char :=
  if c = '"' ∨ c = '\\' then ['\\', c]
  else if c = '\x08' then ['\\', 'b']
  else if c = '\x0c' then ['\\', 'f']
  else if c = '\n' then ['\\', 'n']
  else if c = '\r' then ['\\', 'r']
  else if c = '\t' then ['\\', 't']
  else if c.toNat < 0x10 then "\\u000".toList ++ hexDigits c.toNat
  else if c.toNat < 0x20 then "\\u00".toList ++ hexDigits c.toNat
  else [c]

def string (s : List Char) : List Char := '"' :: s.flatMap escapedChar ++ ['"']

def fields (m : Measurement) : List (String × List Char) :=
  [("name", string m.name.toList), ("time_ns", Nat.toDigits 10 m.timeNs.toNat),
    ("variance_ns", Nat.toDigits 10 m.varianceNs.toNat), ("time_us", (Layout.report.write m.timeUs).toList),
    ("time_ms", (Layout.report.write m.timeMs).toList)]

def compactRecord (m : Measurement) : List Char :=
  '{' :: [','].intercalate ((fields m).map fun (k, v) => string k.toList ++ ':' :: v) ++ ['}']

def newLine (indent : Nat) : List Char := '\n' :: List.replicate indent ' '

def prettyRecord (indent : Nat) (m : Measurement) : List Char :=
  '{' :: [','].intercalate ((fields m).map fun (k, v) =>
    newLine (indent + 2) ++ string k.toList ++ ':' :: ' ' :: v) ++ newLine indent ++ ['}']

def prettyList : List Measurement → List Char
  | [] => ['[', ']']
  | ms => '[' :: [','].intercalate (ms.map fun m => newLine 2 ++ prettyRecord 2 m) ++ newLine 0 ++ [']']

def write (ms : List Measurement) : String := String.ofList (prettyList ms)

end BenchReport.Report
