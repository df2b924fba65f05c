import BenchReport.Proofs.Stages

namespace BenchReport

open FileTree Worldly

variable {ε ε' α β : Type} {w w' : World} {p : Path} {b : Bytes} {text : String} {ms : List Measurement}

def failure? : Except ε α → Option ε
  | .ok _ => none
  | .error e => some e

lemma failure?_mapError (g : ε → ε') (r : Except ε α) : failure? (r.mapError g) = (failure? r).map g := by
  cases r <;> rfl

def Performs (m : Worldly ε α) (w : World) (as : List (Task ε)) : Prop :=
  Runs as w.scene (failure? (eval m w).1) (eval m w).2.scene

namespace Performs

lemma pure (a : α) (w : World) : Performs (pure a : Worldly ε α) w [] := .nil

lemma bind {m : Worldly ε α} {k : α → Worldly ε β} {as bs : List (Task ε)} (hm : Performs m w as)
    (hk : ∀ a w', eval m w = (.ok a, w') → Performs (k a) w' bs) : Performs (m >>= k) w (as ++ bs) := by
  rcases he : eval m w with ⟨e | a, w'⟩
  · rw [Performs, eval_bind_of_error he]
    rw [Performs, he] at hm
    exact hm.append_of_some bs
  · rw [Performs, eval_bind_of_ok he]
    rw [Performs, he] at hm
    exact hm.append (hk a w' he)

lemma adapt {m : Worldly ε α} {as : List (Task ε)} (g : ε → ε') (h : Performs m w as) :
    Performs (m.adapt g) w (as.map fun a => ⟨a.stage, g ∘ a.told⟩) := by
  rw [Performs, eval_adapt, failure?_mapError]
  exact Runs.adapt g h

end Performs

section Stages

variable {m : Worldly Failure α} {a : α} {f : Failure} {s : Stage}

def Stage.task (s : Stage) : Task Failure := ⟨s, id⟩

lemma performs_of_ok (he : eval m w = (.ok a, w')) (hd : s.Done w.scene w'.scene) : Performs m w [s.task] := by
  rw [Performs, he]
  exact .done hd .nil

lemma performs_of_error (he : eval m w = (.error f, w')) (hn : ¬ s.Possible w.scene)
    (hl : s.Left w.scene w'.scene) (hf : s.Fails w.scene f) : Performs m w [s.task] := by
  rw [Performs, he]
  exact .stop (a := s.task) hn hl hf

lemma performs_tell (e : Log.Event) (w : World) : Performs (tell e) w [] := .nil

lemma performs_forM_tell {α : Type} (e : α → Log.Event) (as : List α) (w : World) :
    Performs (as.forM fun a => tell (e a)) w [] := by
  induction as generalizing w with
  | nil => exact .nil
  | cons a as ih => exact Performs.bind (performs_tell (e a) w) fun _ w' _ => ih w'

lemma performs_readText (p : Path) (w : World) : Performs (readText p) w [(Stage.read p).task] := by
  cases hr : w.tree.readFile p with
  | error c =>
    refine performs_of_error (eval_readText_of_error hr) ?_ .read (.unreadable hr)
    rintro ⟨text, ht⟩
    cases hr.symm.trans ht
  | ok b =>
    cases ht : b.text? with
    | none =>
      refine performs_of_error (eval_readText_of_notText hr ht) ?_ .read (.notText hr ht)
      rintro ⟨text, hr'⟩
      cases hr.symm.trans hr'
      rw [Bytes.text?_ofString] at ht
      cases ht
    | some text =>
      rw [← Bytes.ofString_of_text? ht] at hr
      exact performs_of_ok (eval_readText_of_text hr) (.read hr)

lemma performs_ensureParent (p : Path) (w : World) : Performs (ensureParent p) w [(Stage.makeParent p).task] := by
  rw [ensureParent]
  split
  · next hp => exact performs_of_ok rfl (.makeParent (.refl p w.tree) fun q hq => by simp [hp] at hq)
  · next q hp =>
    obtain ⟨r, t, hr, hmade⟩ := exists_made q.lineage w
    have hext : Extends p w.tree t := ⟨hmade.grows, fun place hn hs => ⟨q, hp, hmade.leadsTo hn hs⟩⟩
    cases r with
    | ok =>
      have he : eval (attempt (.createDir q) (createLineage q.lineage)) w = (.ok (), { w with tree := t }) := by
        rw [eval_attempt, hr]
        rfl
      refine performs_of_ok he (.makeParent hext fun q' hq' hne => ?_)
      rw [hp] at hq'
      cases hq'
      exact hmade.isDir_lineage hne
    | error c =>
      have he : eval (attempt (.createDir q) (createLineage q.lineage)) w =
          (.error (.createDir q c), { w with tree := t }) := by
        rw [eval_attempt, hr]
        rfl
      refine performs_of_error he ?_ (.makeParent hext) (.makeParent hp)
      rintro ⟨t', hg, hdir⟩
      have hq : q ≠ [] := by
        rintro rfl
        rw [lineage_nil] at hmade
        cases hmade
      have hno := hmade.not_isDir (Path.isTrim_of_parent? hp) hg
      rw [hdir q hp hq] at hno
      cases hno

lemma performs_writeFile (p : Path) (b : Bytes) (w : World) :
    Performs (attempt (.writeOutput p) (Host.writeFile p b)) w [(Stage.write p b).task] := by
  cases hw : w.tree.writeFile p b with
  | ok t =>
    obtain ⟨place, hp, hd, rfl⟩ := writeFile_eq_ok_iff.mp hw
    exact performs_of_ok (eval_writeFile_of_ok hw) (.write hp (wrote_insert hp.ne_nil hd b))
  | error c =>
    refine performs_of_error (eval_writeFile_of_error hw) ?_ .write (.write hw)
    rintro ⟨place, hp, hd⟩
    cases hw.symm.trans (writeFile_eq_ok_iff.mpr ⟨place, hp, hd, rfl⟩)

lemma performs_writeText (p : Path) (text : String) (w : World) :
    Performs (writeText p text) w [(Stage.makeParent p).task, (Stage.write p (Bytes.ofString text)).task] :=
  Performs.bind (performs_ensureParent p w) fun _ w' _ =>
    Performs.bind (performs_writeFile p _ w') fun _ w'' _ => performs_tell _ w''

lemma performs_writeSummary (ms : List Measurement) (w : World) :
    Performs (writeSummary ms) w [(Stage.print (Bytes.ofString (Summary.write ms))).task] := by
  obtain ⟨r, s, he, hl⟩ := exists_lands_writeSummary ms w
  cases hl with
  | whole hroom ht => exact performs_of_ok he (.print hroom ht)
  | @cut _ n hn hlt ht =>
    have hno : ¬ w.sink.HasRoom (Bytes.ofString (Summary.write ms)).length := fun h => Nat.not_le.mpr hlt (h n hn)
    refine performs_of_error he hno (.print (List.take_prefix n _) (fun h => ?_) ht) .print
    have hl := congrArg List.length h
    rw [List.length_take] at hl
    omega

end Stages

section Extraction

def FileTree.textAt (t : FileTree) (p : Path) : String := ((t.readFile p).toOption.bind Bytes.text?).getD ""

def extraction (input output : Path) (ms : List Measurement) : List Stage :=
  [.read input, .makeParent output, .write output (Bytes.ofString (Report.write ms)),
    .print (Bytes.ofString (Summary.write ms))]

def tabulation (p : Path) (ms : List Measurement) (now : Instant) : List Stage :=
  [.makeParent p, .write p (Bytes.ofString (Table.write ms now))]

variable {t : FileTree} {input output : Path}

lemma textAt_of_readFile (h : t.readFile p = .ok (Bytes.ofString text)) : t.textAt p = text := by
  rw [FileTree.textAt, h]
  exact congrArg (Option.getD · "") (Bytes.text?_ofString text)

lemma readFile_of_eval (h : eval (readText p) w = (.ok text, w')) :
    w.tree.readFile p = .ok (Bytes.ofString text) ∧ w' = w := by
  cases hr : w.tree.readFile p with
  | error c => cases (eval_readText_of_error hr).symm.trans h
  | ok b =>
    cases ht : b.text? with
    | none => cases (eval_readText_of_notText hr ht).symm.trans h
    | some text' =>
      rw [← Bytes.ofString_of_text? ht] at hr ⊢
      cases (eval_readText_of_text hr).symm.trans h
      exact ⟨rfl, rfl⟩

lemma performs_extractTo (input output : Path) (w : World) :
    Performs (extractTo input output) w
      ((extraction input output (Measurement.extract (w.tree.textAt input))).map Stage.task) := by
  rw [extractTo]
  refine (performs_readText input w).bind fun text w₁ he => ?_
  rw [textAt_of_readFile (readFile_of_eval he).1]
  refine (performs_forM_tell _ _ w₁).bind fun _ w₂ _ => ?_
  refine (performs_tell _ w₂).bind fun _ w₃ _ => ?_
  refine (performs_writeText output _ w₃).bind fun _ w₄ _ => ?_
  refine (performs_tell _ w₄).bind fun _ w₅ _ => ?_
  exact Performs.bind (performs_writeSummary _ w₅) fun _ w₆ _ => .pure _ w₆

lemma eq_of_eval_extractTo (h : eval (extractTo input output) w = (.ok ms, w')) :
    ms = Measurement.extract (w.tree.textAt input) ∧ w'.now = w.now := by
  have hnow := (performs_extractTo input output w).now_eq
  rw [h] at hnow
  refine ⟨?_, hnow⟩
  rw [extractTo] at h
  obtain ⟨text, w₁, he, h⟩ := exists_of_eval_bind h
  rw [textAt_of_readFile (readFile_of_eval he).1]
  obtain ⟨_, w₂, _, h⟩ := exists_of_eval_bind h
  obtain ⟨_, w₃, _, h⟩ := exists_of_eval_bind h
  obtain ⟨_, w₄, _, h⟩ := exists_of_eval_bind h
  obtain ⟨_, w₅, _, h⟩ := exists_of_eval_bind h
  obtain ⟨_, w₆, _, h⟩ := exists_of_eval_bind h
  cases h
  rfl

lemma performs_writeTable (ms : List Measurement) (p : Path) (w : World) :
    Performs (writeTable ms p) w ((tabulation p ms w.now).map Stage.task) := by
  have hnow : eval (ExceptT.lift Host.now : Worldly Failure Instant) w = (.ok w.now, w) := rfl
  rw [writeTable, Performs, eval_bind_of_ok hnow]
  exact performs_writeText p _ w

end Extraction

end BenchReport
