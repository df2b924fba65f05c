import BenchReport.Calendar
import BenchReport.Failure
import BenchReport.Log
import BenchReport.Path

namespace BenchReport

class Host (m : Type → Type) where
  readFile : Path → m (Except Cause Bytes)
  createDir : Path → m (Except Cause Unit)
  isDir : Path → m Bool
  writeFile : Path → Bytes → m (Except Cause Unit)
  print : Bytes → m (Except Cause Unit)
  tell : Log.Event → m Unit
  now : m Instant

end BenchReport
