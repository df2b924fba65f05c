import BenchReport.Text.Alphabetic
import BenchReport.Text.Numeric

namespace BenchReport.Text

def isAlphanumeric (c : Char) : Bool := isAlphabetic c || isNumeric c

end BenchReport.Text
