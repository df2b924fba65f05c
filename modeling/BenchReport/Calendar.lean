/-! Instants, and how they are written: the proleptic Gregorian calendar at offset zero. -/

namespace BenchReport

/-- Seconds since the start of 1970. Within a leap second `nanos` goes on from `10 ^ 9`. -/
structure Instant where
  seconds : Int
  nanos : Nat
  deriving DecidableEq, Repr

structure Date where
  year : Int
  month : Nat
  day : Nat
  deriving DecidableEq, Repr

namespace Date

/-- The date so many days after 1 March of the year 0. Years are taken to start in March, so that
a leap day comes last; `146097` days are four centuries. -/
def ofDay (n : Int) : Date :=
  let cycle := n.fdiv 146097
  let d := (n - cycle * 146097).toNat
  let y := (d - d / 1460 + d / 36524 - d / 146096) / 365
  let yday := d - (365 * y + y / 4 - y / 100)
  let m := (5 * yday + 2) / 153
  let day := yday - (153 * m + 2) / 5 + 1
  let year := y + cycle * 400
  if m < 10 then ⟨year, m + 3, day⟩ else ⟨year + 1, m - 9, day⟩

end Date

namespace Instant

def epoch : Int := 719468

def date (t : Instant) : Date := .ofDay (t.seconds.fdiv 86400 + epoch)

def secondOfDay (t : Instant) : Nat := (t.seconds.fmod 86400).toNat

def padded (width n : Nat) : List Char :=
  let ds := Nat.toDigits 10 n
  List.replicate (width - ds.length) '0' ++ ds

def writtenYear (y : Int) : List Char :=
  if y < 0 then '-' :: padded 4 y.natAbs
  else if 9999 < y then '+' :: padded 4 y.natAbs
  else padded 4 y.natAbs

def writtenFraction (nanos : Nat) : List Char :=
  if nanos = 0 then []
  else if nanos % 1000000 = 0 then '.' :: padded 3 (nanos / 1000000)
  else if nanos % 1000 = 0 then '.' :: padded 6 (nanos / 1000)
  else '.' :: padded 9 nanos

def writtenSeconds (t : Instant) : List Char :=
  let d := t.date
  let s := t.secondOfDay
  let leap := t.nanos / 1000000000
  writtenYear d.year ++ '-' :: padded 2 d.month ++ '-' :: padded 2 d.day ++
    'T' :: padded 2 (s / 3600) ++ ':' :: padded 2 (s / 60 % 60) ++ ':' :: padded 2 (s % 60 + leap)

def write (t : Instant) : String :=
  String.ofList (t.writtenSeconds ++ writtenFraction (t.nanos % 1000000000) ++ "+00:00".toList)

def writeMicros (t : Instant) : String :=
  String.ofList (t.writtenSeconds ++ '.' :: padded 6 (t.nanos % 1000000000 / 1000) ++ ['Z'])

end Instant

end BenchReport
