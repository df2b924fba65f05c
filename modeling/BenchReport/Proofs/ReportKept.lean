import BenchReport.Proofs.StagedRun
import BenchReport.Proofs.Standing

/-! When the report is still there at the end of a run: if the table has not been written over it. -/

namespace BenchReport

open FileTree Worldly

variable {t t' : FileTree} {p q input output : Path} {place : Place} {b : Bytes} {w w' : World} {text : String}
variable {ms : List Measurement} {now : Instant} {table : Option Path} {x z : Scene} {args : List Bytes}
variable {settings : Command.Settings}

lemma FileTree.FileAt.locate_eq_iff {there : Place} (h : t.FileAt p place) (h' : t.FileAt q there) :
    t.locate p = t.locate q ↔ place = there := by
  obtain ⟨parent, name, hl, -, -, rfl⟩ := h
  obtain ⟨parent', name', hl', -, -, rfl⟩ := h'
  rw [hl, hl', List.append_singleton_inj]
  simp

lemma head?_table (ms : List Measurement) (now : Instant) : (Table.write ms now).toList.head? = some '#' := by
  simp [Table.write, Table.lines, String.join_cons]

lemma head?_report (ms : List Measurement) : (Report.write ms).toList.head? = some '[' := by
  cases ms <;> simp [Report.write, Report.prettyList]

lemma table_ne_report (ms ms' : List Measurement) (now : Instant) :
    Bytes.ofString (Table.write ms now) ≠ Bytes.ofString (Report.write ms') := by
  intro h
  have hh := head?_table ms now
  rw [Bytes.ofString_injective h, head?_report] at hh
  cases hh

namespace Command

lemma readFile_output_iff (h : Runs (plan input output table ms now) x none z) :
    z.tree.readFile output = .ok (Bytes.ofString (Report.write ms)) ↔
      ∀ p, table = some p → z.tree.locate p ≠ z.tree.locate output := by
  obtain ⟨_, hd, h⟩ := h.cons_none
  cases hd
  obtain ⟨_, hd, h⟩ := h.cons_none
  obtain _ | ⟨-, -⟩ := hd
  obtain ⟨_, hd, h⟩ := h.cons_none
  obtain _ | _ | ⟨hout, hreport⟩ := hd
  obtain ⟨_, hd, h⟩ := h.cons_none
  cases hd
  cases table with
  | none =>
    cases h
    exact iff_of_true (readFile_of_wrote hout hreport) fun p hp => by cases hp
  | some p =>
    obtain ⟨_, hd, h⟩ := h.cons_none
    obtain _ | ⟨hg, -⟩ := hd
    obtain ⟨_, hd, h⟩ := h.cons_none
    obtain _ | _ | ⟨hp, htable⟩ := hd
    cases h
    have hout := (hout.of_keepsDirs hreport.keepsDirs).of_keepsDirs hg.keepsDirs
    have hout' := hout.of_keepsDirs htable.keepsDirs
    have hp' := hp.of_keepsDirs htable.keepsDirs
    have hkept := hg.kept _ _ ((hreport.lookup_eq _).trans (if_pos rfl))
    simp only [Option.some.injEq, forall_eq']
    -- both paths still lead where they led when their files were written
    rw [ne_eq, hp'.locate_eq_iff hout']
    constructor
    · rintro hr rfl
      rw [readFile_of_wrote hout htable] at hr
      exact table_ne_report ms ms now (Except.ok.inj hr)
    · intro hne
      exact readFile_eq_ok_iff.mpr ⟨_, hout', (htable.lookup_eq _).trans ((if_neg (Ne.symm hne)).trans hkept)⟩

lemma exists_paths_of_status (h : eval (run args settings : Worldly Trouble ℕ) w = (.ok 0, w')) :
    ∃ input output, paths? args = some (input, output) := by
  cases hp : paths? args with
  | some io => exact ⟨io.1, io.2, rfl⟩
  | none =>
    rw [run, hp] at h
    obtain ⟨_, w₁, -, h⟩ := exists_of_eval_bind h
    cases h

lemma runs_plan_none {r : Option Trouble} (h : Runs (plan input output table ms now) x r z)
    (hin : (Stage.read input).Possible x) (hout : Stands x.tree output)
    (htable : ∀ p, table = some p → Stands x.tree p)
    (hroom : (Stage.print (Bytes.ofString (Summary.write ms))).Possible x) : r = none := by
  obtain ⟨_, hd, h⟩ := h.cons_of_possible hin
  cases hd
  obtain ⟨_, hd, h⟩ := h.cons_of_possible hout.makeParent_possible
  obtain _ | ⟨hg, -⟩ := hd
  obtain ⟨_, hd, h⟩ := h.cons_of_possible ((hout.of_grows hg.toGrows).write_possible _)
  obtain _ | _ | ⟨-, hw⟩ := hd
  obtain ⟨_, hd, h⟩ := h.cons_of_possible hroom
  cases hd
  cases table with
  | none => exact h.eq_none_of_nil
  | some p => exact (((htable p rfl).of_grows hg.toGrows).of_wrote hw).runs_none h

lemma exists_eval_run (hp : paths? args = some (input, output))
    (hin : w.tree.readFile input = .ok (Bytes.ofString text)) (hout : Stands w.tree output)
    (htable : ∀ p, settings.table = some p → Stands w.tree p)
    (hroom : w.sink.HasRoom (Bytes.ofString (Summary.write (Measurement.extract text))).length) :
    ∃ w', eval (run args settings : Worldly Trouble ℕ) w = (.ok 0, w') := by
  have h : Performs (run args settings) w _ := performs_run hp w
  rw [Performs, textAt_of_readFile hin] at h
  have hnone := runs_plan_none h ⟨text, hin⟩ hout htable hroom
  rcases he : eval (run args settings : Worldly Trouble ℕ) w with ⟨_ | n, w'⟩
  · rw [he] at hnone
    cases hnone
  · rw [status_eq_zero hp he]
    exact ⟨w', rfl⟩

theorem report_kept_iff (h : eval (run args settings : Worldly Trouble ℕ) w = (.ok 0, w')) :
    ∃ input output text, paths? args = some (input, output) ∧ w.tree.readFile input = .ok (Bytes.ofString text) ∧
      (w'.tree.readFile output = .ok (Bytes.ofString (Report.write (Measurement.extract text))) ↔
        ∀ p, settings.table = some p → w'.tree.locate p ≠ w'.tree.locate output) := by
  obtain ⟨input, output, hp⟩ := exists_paths_of_status h
  have hr : Performs (run args settings) w _ := performs_run hp w
  rw [Performs, h] at hr
  obtain ⟨_, hd, -⟩ := hr.cons_none
  obtain ⟨ht⟩ := hd
  refine ⟨input, output, _, hp, ht, ?_⟩
  rw [← textAt_of_readFile ht]
  have hkept := readFile_output_iff hr
  exact hkept

def crowded : World where
  tree := ⟨[([[105]], .file (Bytes.ofString "")), ([[111]], .file []), ([[109]], .file [])]⟩

lemma stands_crowded {n : UInt8} (hn : n = 109 ∨ n = 111) : Stands crowded.tree [n] := by
  rcases hn with rfl | rfl
  · exact ⟨fun q hq hne => absurd (Option.some.inj hq).symm hne, [[109]], [], ⟨[], [109], rfl, by decide, rfl, rfl⟩, rfl⟩
  · exact ⟨fun q hq hne => absurd (Option.some.inj hq).symm hne, [[111]], [], ⟨[], [111], rfl, by decide, rfl, rfl⟩, rfl⟩

lemma exists_eval_run_crowded {n : UInt8} (hn : n = 109 ∨ n = 111) :
    ∃ w', eval (run [[120], [105], [111]] ⟨some [n]⟩ : Worldly Trouble ℕ) crowded = (.ok 0, w') := by
  have hp : paths? [[120], [105], [111]] = some ([105], [111]) := rfl
  have hin : crowded.tree.readFile [105] = .ok (Bytes.ofString "") := rfl
  refine exists_eval_run hp hin (stands_crowded (Or.inr rfl)) ?_ fun r hr => by cases hr
  rintro _ ⟨⟩
  exact stands_crowded hn

theorem report_kept_of_two_files :
    ∃ w', eval (run [[120], [105], [111]] ⟨some [109]⟩ : Worldly Trouble ℕ) crowded = (.ok 0, w') ∧
      ∃ input output text, paths? [[120], [105], [111]] = some (input, output) ∧
        crowded.tree.readFile input = .ok (Bytes.ofString text) ∧
        (w'.tree.readFile output = .ok (Bytes.ofString (Report.write (Measurement.extract text))) ↔
          ∀ p, some [109] = some p → w'.tree.locate p ≠ w'.tree.locate output) := by
  obtain ⟨w', h⟩ := exists_eval_run_crowded (Or.inl rfl)
  exact ⟨w', h, report_kept_iff h⟩

theorem report_overwritten :
    ∃ w', eval (run [[120], [105], [111]] ⟨some [111]⟩ : Worldly Trouble ℕ) crowded = (.ok 0, w') ∧
      crowded.tree.readFile [105] = .ok (Bytes.ofString "") ∧
      w'.tree.readFile [111] ≠ .ok (Bytes.ofString (Report.write (Measurement.extract ""))) := by
  obtain ⟨w', h⟩ := exists_eval_run_crowded (Or.inr rfl)
  have hp : paths? [[120], [105], [111]] = some ([105], [111]) := rfl
  have hr : Performs (run [[120], [105], [111]] ⟨some [111]⟩) crowded _ := performs_run hp crowded
  rw [Performs, h] at hr
  refine ⟨w', h, rfl, fun hread => ?_⟩
  have hkept := (readFile_output_iff hr).mp hread
  exact hkept [111] rfl rfl

end Command

end BenchReport
