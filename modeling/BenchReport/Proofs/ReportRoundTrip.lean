import BenchReport.Proofs.ReportPrinting
import BenchReport.Proofs.Standing

namespace BenchReport

open Worldly

theorem read_written_report (ms : List Measurement) :
    Report.read (Report.write ms) = .ok ms ∧
      ∀ (w w' : World) (p : Path), eval (writeReport ms p) w = (.ok (), w') →
        ∃ ms', eval (readReport p) w' = (.ok ms', w') ∧ ms' = ms ∧
          ∃ w'', eval (writeReport ms' p) w' = (.ok (), w'') ∧ w''.tree.readFile p = w'.tree.readFile p := by
  refine ⟨Report.read_write ms, fun w w' p h => ?_⟩
  obtain ⟨hread, hs⟩ := readFile_and_stands_of_writeText h
  have hr : eval (readReport p) w' = (.ok ms, w') := by
    rw [eval_readReport hread, Report.read_write]
    rfl
  obtain ⟨w'', hw⟩ := hs.exists_eval_writeText (Report.write ms)
  refine ⟨ms, hr, rfl, w'', hw, ?_⟩
  rw [(readFile_and_stands_of_writeText hw).1, hread]

def awkward : List Measurement :=
  [⟨"\"\\\n\u0001𝄞/", 18446744073709551615, 7⟩, ⟨"", 562949953421312250, 18446744073709551615⟩]

def occupied : World where
  tree := ⟨[([[105]], .file [255]), ([[100]], .dir), ([[100], [111]], .file [91])]⟩

theorem read_written_report_of_escapes :
    Report.read (Report.write awkward) = .ok awkward ∧
      ∃ w', eval (writeReport awkward [100, 47, 101, 47, 114]) occupied = (.ok (), w') ∧
        ∃ ms', eval (readReport [100, 47, 101, 47, 114]) w' = (.ok ms', w') ∧ ms' = awkward ∧
          ∃ w'', eval (writeReport ms' [100, 47, 101, 47, 114]) w' = (.ok (), w'') ∧
            w''.tree.readFile [100, 47, 101, 47, 114] = w'.tree.readFile [100, 47, 101, 47, 114] := by
  have hok : (eval (writeReport awkward [100, 47, 101, 47, 114]) occupied).1 = .ok () := by decide +kernel
  rcases he : eval (writeReport awkward [100, 47, 101, 47, 114]) occupied with ⟨r, w'⟩
  obtain rfl : r = .ok () := by rwa [he] at hok
  obtain ⟨hread, hfile⟩ := read_written_report awkward
  exact ⟨hread, w', rfl, hfile occupied w' _ he⟩

end BenchReport
