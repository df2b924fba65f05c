namespace BenchReport.Numeral

def push? (n : UInt64) (c : Char) : Option UInt64 :=
  if c.isDigit then
    let m := n.toNat * 10 + (c.toNat - '0'.toNat)
    if h : m < UInt64.size then some (UInt64.ofNatLT m h) else none
  else none

def readDigits? : List Char → Option UInt64
  | [] => none
  | cs => cs.foldlM push? 0

def read? : List Char → Option UInt64
  | '+' :: cs => readDigits? cs
  | cs => readDigits? cs

def readGrouped? (s : String) : Option UInt64 := read? (s.toList.filter (· != ','))

end BenchReport.Numeral
