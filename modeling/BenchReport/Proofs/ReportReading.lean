import BenchReport.Proofs.ReportRecords
import BenchReport.Proofs.WorldRuns

namespace BenchReport

open Report Worldly

namespace Report

variable {text : String} {ms ms' : List Measurement}

lemma read_eq_ok_iff : read text = .ok ms ↔ IsReport text.toList ms := by
  rw [← readList_eq_ok_iff, read]
  cases readList text.toList <;> simp [Except.mapError]

lemma IsReport.unique {s : List Char} (h : IsReport s ms) (h' : IsReport s ms') : ms = ms' := by
  rw [← readList_eq_ok_iff] at h h'
  exact Except.ok.inj (h.symm.trans h')

end Report

section

variable {w : World} {p : Path} {text : String}

/-- The reader takes the reports and no other text. What they hold is told by the grammar alone: in
an object by its three fields, whatever else is in it. -/
theorem readReport_iff_isReport (h : w.tree.readFile p = .ok (Bytes.ofString text)) :
    (∀ ms, eval (readReport p) w = (.ok ms, w) ↔ IsReport text.toList ms) ∧
      ((¬ ∃ ms, IsReport text.toList ms) → ∃ c, eval (readReport p) w = (.error (.invalidReport p c), w)) := by
  rw [eval_readReport h]
  constructor
  · intro ms
    rw [← read_eq_ok_iff]
    cases read text <;> simp [Except.mapError]
  · intro hno
    cases hr : read text with
    | error c => exact ⟨c, rfl⟩
    | ok ms => exact absurd ⟨ms, read_eq_ok_iff.mp hr⟩ hno

def tripleReport : World where
  tree := ⟨[([[114]], .file (Bytes.ofString "[[\"a\",7,0]]"))]⟩

theorem readReport_tripleReport :
    eval (readReport [114]) tripleReport = (.ok [⟨"a", 7, 0⟩], tripleReport) := by
  have h : tripleReport.tree.readFile [114] = .ok (Bytes.ofString "[[\"a\",7,0]]") := rfl
  refine ((readReport_iff_isReport h).1 _).mpr ?_
  have hname : Says ['"', 'a', '"'] (.name "a") :=
    .name ⟨['a'], .cons (.plain ⟨by decide, by decide, by decide⟩) .nil, rfl⟩
  have htime : Says ['7'] (.time 7) :=
    .time ⟨.digits (by decide) (by decide) (List.forall_mem_nil _), rfl⟩
  have hvariance : Says ['0'] (.variance 0) := .variance ⟨.zero, rfl⟩
  exact .records gap_nil (.last gap_nil (.triple (.more gap_nil hname gap_nil
    (.more gap_nil htime gap_nil (.last gap_nil hvariance gap_nil)))) gap_nil) gap_nil

end

end BenchReport
