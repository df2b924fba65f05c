import BenchReport.Proofs.Delivery
import BenchReport.Proofs.EnsuredParent
import BenchReport.Proofs.ReportKept

/-! An extraction done again: it finds its report and the way to it in place, and leaves them as they are. -/

namespace BenchReport

open FileTree Worldly

variable {input output p : Path} {place : Place} {b : Bytes} {e : Entry} {text : String} {ms : List Measurement}
variable {w w' : World} {t t' : FileTree} {x z : Scene}

namespace FileTree

section Settled

lemma put_of_lookup {xs : List (Place × Entry)} (h : xs.lookup place = some e) : put place e xs = xs := by
  induction xs with
  | nil => cases h
  | cons x xs ih =>
    obtain ⟨q, a⟩ := x
    rw [put]
    split_ifs with hq
    · obtain rfl : q = place := hq
      rw [List.lookup_cons_self] at h
      rw [Option.some.inj h]
    · rw [List.lookup_cons, beq_false_of_ne (Ne.symm hq)] at h
      rw [ih h]

lemma insert_of_lookup (hne : place ≠ []) (h : t.lookup place = some e) : t.insert place e = t := by
  cases place with
  | nil => exact absurd rfl hne
  | cons n place => exact congrArg FileTree.mk (put_of_lookup h)

lemma writeFile_of_readFile (h : t.readFile p = .ok b) : t.writeFile p b = .ok t := by
  obtain ⟨place, hp, hb⟩ := readFile_eq_ok_iff.mp h
  exact writeFile_eq_ok_iff.mpr ⟨place, hp, by simp [hb], (insert_of_lookup hp.ne_nil hb).symm⟩

end Settled

end FileTree

section Evaluation

lemma exists_eval_writeText_again (hs : Stands w.tree p) (hr : w.tree.readFile p = .ok (Bytes.ofString text)) :
    ∃ w', eval (writeText p text) w = (.ok (), w') ∧ w'.scene = w.scene := by
  rw [writeText, eval_bind_of_ok (eval_ensureParent_of_isDir hs.1),
    eval_bind_of_ok (eval_writeFile_of_ok (writeFile_of_readFile hr))]
  exact ⟨_, rfl, rfl⟩

lemma Performs.exists_eval_of_nil {ε α : Type} {m : Worldly ε α} (h : Performs m w []) :
    ∃ a w', eval m w = (.ok a, w') ∧ w'.scene = w.scene := by
  rcases he : eval m w with ⟨e | a, w'⟩
  · rw [Performs, he] at h
    cases h.eq_none_of_nil
  · rw [Performs, he] at h
    exact ⟨a, w', rfl, h.eq_of_nil⟩

end Evaluation

structure Extracted (t : FileTree) (input output : Path) (ms : List Measurement) : Prop where
  read : ∃ text, t.readFile input = .ok (Bytes.ofString text) ∧ ms = Measurement.extract text
  stands : Stands t output
  report : t.readFile output = .ok (Bytes.ofString (Report.write ms))

lemma Receives.keepsDirs (h : Receives t p place b t') : t.KeepsDirs t' := fun q hq => h.kept q _ hq (Or.inr rfl)

lemma Receives.readFile_of_ne {c : Bytes} (h : Receives t output place b t') (hr : t.readFile input = .ok c)
    (hne : t'.locate output ≠ t'.locate input) : t'.readFile input = .ok c := by
  obtain ⟨there, hi, hc⟩ := readFile_eq_ok_iff.mp hr
  have hi' := hi.of_keepsDirs h.keepsDirs
  have hplace : place ≠ there := fun heq => hne ((h.fileAt.locate_eq_iff hi').mpr heq)
  exact readFile_eq_ok_iff.mpr ⟨there, hi', h.kept there _ hc (Or.inl hplace.symm)⟩

lemma readFile_and_stands_of_extraction (h : Runs ((extraction input output ms).map Stage.task) x none z) :
    z.tree.readFile output = .ok (Bytes.ofString (Report.write ms)) ∧ Stands z.tree output := by
  obtain ⟨_, hd, h⟩ := h.cons_none
  cases hd
  obtain ⟨_, hm, h⟩ := h.cons_none
  obtain ⟨y, hw, h⟩ := h.cons_none
  have hruns : Runs [(Stage.makeParent output).task, (Stage.write output _).task] _ none y := .done hm (.done hw .nil)
  obtain ⟨_, hd, h⟩ := h.cons_none
  cases h
  obtain _ | _ | _ | ⟨-, -⟩ := hd
  have hout := readFile_and_stands_of_runs hruns
  exact hout

lemma runs_of_eval (h : eval (extractTo input output) w = (.ok ms, w')) :
    Runs ((extraction input output ms).map Stage.task) w.scene none w'.scene := by
  have hr := performs_extractTo input output w
  rw [Performs, h] at hr
  obtain ⟨rfl, -⟩ := eq_of_eval_extractTo h
  exact hr

lemma stands_of_eval (h : eval (extractTo input output) w = (.ok ms, w')) : Stands w'.tree output :=
  (readFile_and_stands_of_extraction (runs_of_eval h)).2

lemma extracted_of_eval (h : eval (extractTo input output) w = (.ok ms, w'))
    (hne : w'.tree.locate output ≠ w'.tree.locate input) : Extracted w'.tree input output ms := by
  have hr := runs_of_eval h
  obtain ⟨⟨place, hplace⟩, -⟩ := exists_receives_of_runs hr
  obtain ⟨hout, hs⟩ := readFile_and_stands_of_extraction hr
  obtain ⟨_, ⟨hread⟩, -⟩ := hr.cons_none
  refine ⟨⟨_, hplace.readFile_of_ne hread hne, ?_⟩, hs, hout⟩
  rw [(eq_of_eval_extractTo h).1]
  exact congrArg Measurement.extract (textAt_of_readFile hread)

lemma Extracted.exists_eval (h : Extracted w.tree input output ms)
    (hroom : w.sink.HasRoom (Bytes.ofString (Summary.write ms)).length) :
    ∃ w', eval (extractTo input output) w = (.ok ms, w') ∧
      w.sink.Took (Bytes.ofString (Summary.write ms)) w'.sink ∧ w'.tree = w.tree := by
  obtain ⟨⟨text, hread, rfl⟩, hs, hout⟩ := h
  obtain ⟨_, w₁, h₁, hx₁⟩ := (performs_forM_tell Log.Event.found (Finding.all text) w).exists_eval_of_nil
  obtain ⟨_, w₂, h₂, hx₂⟩ := (performs_tell (.parsed input (Measurement.extract text).length) w₁).exists_eval_of_nil
  have hx := hx₂.trans hx₁
  have htree : w₂.tree = w.tree := congrArg Scene.tree hx
  rw [← htree] at hs hout
  obtain ⟨w₃, h₃, hx₃⟩ := exists_eval_writeText_again hs hout
  obtain ⟨_, w₄, h₄, hx₄⟩ := (performs_tell (.reported output) w₃).exists_eval_of_nil
  have hx := hx₄.trans (hx₃.trans hx)
  have hsink : w₄.sink = w.sink := congrArg Scene.sink hx
  rw [← hsink] at hroom ⊢
  obtain ⟨s, h₅, ht⟩ := eval_writeSummary_of_hasRoom hroom
  refine ⟨{ w₄ with sink := s }, ?_, ht, congrArg Scene.tree hx⟩
  refine (eval_bind_of_ok (eval_readText_of_text hread)).trans ?_
  refine (eval_bind_of_ok h₁).trans ?_
  refine (eval_bind_of_ok h₂).trans ?_
  refine (eval_bind_of_ok h₃).trans ?_
  refine (eval_bind_of_ok h₄).trans ?_
  exact eval_bind_of_ok h₅

theorem extraction_repeats (h : eval (extractTo input output) w = (.ok ms, w'))
    (hne : w'.tree.locate output ≠ w'.tree.locate input) {w₁ : World} (htree : w₁.tree = w'.tree)
    (hroom : w₁.sink.room = none) :
    ∃ w₂, eval (extractTo input output) w₁ = (.ok ms, w₂) ∧ w₂.tree = w'.tree ∧
      w.sink.Took (Bytes.ofString (Summary.write ms)) w'.sink ∧
      w₁.sink.Took (Bytes.ofString (Summary.write ms)) w₂.sink := by
  have hdone := extracted_of_eval h hne
  rw [← htree] at hdone
  have hroom (n : ℕ) : w₁.sink.HasRoom n := fun room hr => by simp [hroom] at hr
  obtain ⟨-, ht⟩ := exists_receives_of_runs (runs_of_eval h)
  obtain ⟨w₂, h₂, ht₂, hsame⟩ := hdone.exists_eval (hroom _)
  exact ⟨w₂, h₂, hsame.trans htree, ht, ht₂⟩

section Aside

def beside : World where
  tree := secluded.tree.insert [[111]] (.file [])

def aside : Path := [100, 47, 46, 46, 47, 111]

lemma fileAt_aside (hd : t.isDir [100, 47, 46, 46] = true) : t.FileAt aside [[111]] :=
  fileAt_back ⟨by decide, by decide, by decide⟩ rfl rfl (by decide) hd

lemma makeParent_aside_possible : (Stage.makeParent aside).Possible beside.scene := by
  refine ⟨beside.tree.insert [[100]] .dir, grows_insert_dir (List.cons_ne_nil _ _) rfl, ?_⟩
  rintro _ ⟨⟩ -
  decide

lemma exists_eval_aside : ∃ ms w', eval (extractTo [105] aside) beside = (.ok ms, w') := by
  have hr := performs_extractTo [105] aside beside
  have hnone := runs_extraction_none hr ⟨_, rfl⟩ makeParent_aside_possible (fun t hg hdir => ?_) rfl
  · rcases he : eval (extractTo [105] aside) beside with ⟨f | ms, w'⟩
    · rw [he] at hnone
      cases hnone
    · exact ⟨ms, w', rfl⟩
  · have hfile := hg.kept [[111]] _ rfl
    exact ⟨_, fileAt_aside (hdir _ rfl (by decide)), by simp [hfile]⟩

lemma locate_aside_ne (h : Stands t aside) : t.locate aside ≠ t.locate [105] := by
  have hout := fileAt_aside (h.1 _ rfl (by decide))
  have hin : t.FileAt [105] [[105]] := ⟨[], [105], rfl, by decide, rfl, rfl⟩
  rw [ne_eq, hout.locate_eq_iff hin]
  decide

theorem extraction_repeats_aside :
    ∃ ms w', eval (extractTo [105] aside) beside = (.ok ms, w') ∧ w'.tree.locate aside ≠ w'.tree.locate [105] ∧
      ∃ w₂, eval (extractTo [105] aside) { w' with sink := {} } = (.ok ms, w₂) ∧ w₂.tree = w'.tree ∧
        beside.sink.Took (Bytes.ofString (Summary.write ms)) w'.sink ∧
        Sink.Took {} (Bytes.ofString (Summary.write ms)) w₂.sink := by
  obtain ⟨ms, w', h⟩ := exists_eval_aside
  have hne := locate_aside_ne (stands_of_eval h)
  exact ⟨ms, w', h, hne, extraction_repeats h hne rfl rfl⟩

end Aside

end BenchReport
