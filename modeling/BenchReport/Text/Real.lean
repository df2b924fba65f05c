namespace BenchReport.Text

def dropSign : List Char → List Char
  | '+' :: s => s
  | '-' :: s => s
  | s => s

def isNatural (s : List Char) : Bool := s != [] && s.all Char.isDigit

def isExponent : List Char → Bool
  | [] => true
  | c :: s => (c == 'e' || c == 'E') && isNatural (dropSign s)

def isDecimal (s : List Char) : Bool :=
  let whole := s.takeWhile Char.isDigit
  match s.dropWhile Char.isDigit with
  | '.' :: r =>
    (whole != [] || r.head?.any Char.isDigit) && isExponent (r.dropWhile Char.isDigit)
  | r => whole != [] && isExponent r

def lower (c : Char) : Char := if c.isUpper then c.toLower else c

def isReal (s : List Char) : Bool :=
  ["inf", "infinity", "nan"].any (fun n => n.toList = (dropSign s).map lower) || isDecimal (dropSign s)

end BenchReport.Text
