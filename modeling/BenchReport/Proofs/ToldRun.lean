import BenchReport.Proofs.Arguments
import BenchReport.Proofs.EnsuredParent

/-! What a run tells: its events in order, each true when it is told, up to the stage at which the run stops. -/

namespace BenchReport

open FileTree Worldly

variable {ε ε' α β : Type} {text : String} {w w' : World} {p input output : Path} {settings : Command.Settings}
variable {args : List Bytes}

inductive Deed (ε : Type)
  | does (a : Task ε)
  | tells (e : Log.Event)

def Deed.map (g : ε → ε') : Deed ε → Deed ε'
  | does a => does ⟨a.stage, g ∘ a.told⟩
  | tells e => tells e

def Deed.event? : Deed ε → Option Log.Event
  | does _ => none
  | tells e => some e

def Finding.isMatched (f : Finding) : Bool := f.measurement?.isSome

def Log.Event.Holds (text : String) (x : Scene) : Log.Event → Prop
  | found f => f ∈ Finding.all text
  | parsed p n => x.tree.readFile p = .ok (Bytes.ofString text) ∧ n = (Finding.all text).countP Finding.isMatched
  | wrote p n => ∃ b, x.tree.readFile p = .ok b ∧ n = b.length
  | reported p => x.tree.readFile p = .ok (Bytes.ofString (Report.write (Measurement.extract text)))

inductive Follows (text : String) : List (Deed ε) → Scene → List Log.Event → Option ε → Scene → Prop
  | nil {x : Scene} : Follows text [] x [] none x
  | done {a : Task ε} {as : List (Deed ε)} {x y z : Scene} {es : List Log.Event} {r : Option ε} : a.stage.Done x y →
      Follows text as y es r z → Follows text (.does a :: as) x es r z
  | stop {a : Task ε} {as : List (Deed ε)} {x y : Scene} {f : Failure} : ¬ a.stage.Possible x → a.stage.Left x y →
      a.stage.Fails x f → Follows text (.does a :: as) x [] (some (a.told f)) y
  | told {e : Log.Event} {as : List (Deed ε)} {x z : Scene} {es : List Log.Event} {r : Option ε} : e.Holds text x →
      Follows text as x es r z → Follows text (.tells e :: as) x (e :: es) r z

namespace Follows

variable {as bs : List (Deed ε)} {x y z : Scene} {es es' : List Log.Event} {r : Option ε} {e : ε}

lemma append (h : Follows text as x es none y) (h' : Follows text bs y es' r z) :
    Follows text (as ++ bs) x (es ++ es') r z := by
  generalize hr : none = r' at h
  induction h with
  | nil => exact h'
  | done ha _ ih => exact .done ha (ih h' hr)
  | stop => cases hr
  | told he _ ih => exact .told he (ih h' hr)

lemma append_of_some (h : Follows text as x es (some e) y) (bs : List (Deed ε)) :
    Follows text (as ++ bs) x es (some e) y := by
  generalize hr : some e = r at h ⊢
  induction h with
  | nil => cases hr
  | done ha _ ih => exact .done ha (ih hr)
  | stop hn hl hf => exact .stop hn hl hf
  | told he _ ih => exact .told he (ih hr)

lemma map (g : ε → ε') (h : Follows text as x es r y) : Follows text (as.map (.map g)) x es (r.map g) y := by
  induction h with
  | nil => exact .nil
  | done ha _ ih => exact .done ha ih
  | stop hn hl hf => exact .stop (a := ⟨_, g ∘ _⟩) hn hl hf
  | told he _ ih => exact .told he ih

lemma of_runs {as : List (Task ε)} (h : Runs as x r y) : Follows text (as.map .does) x [] r y := by
  induction h with
  | nil => exact .nil
  | done ha _ ih => exact .done ha ih
  | stop hn hl hf => exact .stop hn hl hf

lemma prefix_events (h : Follows text as x es r y) : es <+: as.filterMap Deed.event? := by
  induction h with
  | nil => exact List.nil_prefix
  | done _ _ ih => exact ih
  | stop => exact List.nil_prefix
  | told _ _ ih => exact List.cons_prefix_cons.mpr ⟨rfl, ih⟩

lemma eq_events (h : Follows text as x es none y) : es = as.filterMap Deed.event? := by
  generalize hr : none = r at h
  induction h with
  | nil => rfl
  | done _ _ ih => exact ih hr
  | stop => cases hr
  | told _ _ ih => exact congrArg _ (ih hr)

end Follows

section Quiet

def Quiet (m : Worldly ε α) : Prop := ∀ w, (eval m w).2.told = w.told

lemma quiet_readText (p : Path) : Quiet (readText p) := by
  intro w
  cases hr : w.tree.readFile p with
  | error c => rw [eval_readText_of_error hr]
  | ok b =>
    cases ht : b.text? with
    | none => rw [eval_readText_of_notText hr ht]
    | some text =>
      rw [← Bytes.ofString_of_text? ht] at hr
      rw [eval_readText_of_text hr]

lemma quiet_ensureParent (p : Path) : Quiet (ensureParent p) := by
  intro w
  obtain ⟨r, t, he⟩ := exists_eval_ensureParent p w
  rw [he]

lemma quiet_writeFile (p : Path) (b : Bytes) : Quiet (attempt (.writeOutput p) (Host.writeFile p b)) := by
  intro w
  cases hw : w.tree.writeFile p b with
  | ok t => rw [eval_writeFile_of_ok hw]
  | error c => rw [eval_writeFile_of_error hw]

lemma quiet_writeSummary (ms : List Measurement) : Quiet (writeSummary ms) := by
  intro w
  obtain ⟨r, s, he, -⟩ := exists_eval_writeSummary ms w
  rw [he]

end Quiet

def Recounts (text : String) (m : Worldly ε α) (w : World) (as : List (Deed ε)) : Prop :=
  ∃ es, (eval m w).2.log = w.log ++ es ∧ Follows text as w.scene es (failure? (eval m w).1) (eval m w).2.scene

namespace Recounts

lemma pure (a : α) (w : World) : Recounts text (pure a : Worldly ε α) w [] := ⟨[], (List.append_nil _).symm, .nil⟩

lemma bind {m : Worldly ε α} {k : α → Worldly ε β} {as bs : List (Deed ε)} (hm : Recounts text m w as)
    (hk : ∀ a w', eval m w = (.ok a, w') → Recounts text (k a) w' bs) : Recounts text (m >>= k) w (as ++ bs) := by
  obtain ⟨es, hlog, h⟩ := hm
  rcases he : eval m w with ⟨e | a, w'⟩
  · rw [he] at hlog h
    rw [Recounts, eval_bind_of_error he]
    exact ⟨es, hlog, h.append_of_some bs⟩
  · rw [he] at hlog h
    obtain ⟨es', hlog', h'⟩ := hk a w' he
    rw [Recounts, eval_bind_of_ok he]
    refine ⟨es ++ es', ?_, h.append h'⟩
    rw [hlog', hlog, List.append_assoc]

lemma adapt {m : Worldly ε α} {as : List (Deed ε)} (g : ε → ε') (h : Recounts text m w as) :
    Recounts text (m.adapt g) w (as.map (.map g)) := by
  obtain ⟨es, hlog, h⟩ := h
  refine ⟨es, hlog, ?_⟩
  rw [eval_adapt, failure?_mapError]
  exact h.map g

lemma of_performs {m : Worldly ε α} {as : List (Task ε)} (hm : Quiet m) (h : Performs m w as) :
    Recounts text m w (as.map .does) := by
  refine ⟨[], ?_, .of_runs h⟩
  rw [List.append_nil, World.log, World.log, hm]

lemma tell {e : Log.Event} (h : e.Holds text w.scene) : Recounts text (tell e) w [.tells e] :=
  ⟨[e], List.reverse_cons, .told h .nil⟩

lemma forM_tell {as : List α} {e : α → Log.Event} (h : ∀ a ∈ as, ∀ x, (e a).Holds text x) (w : World) :
    Recounts text (as.forM fun a => BenchReport.tell (e a)) w (as.map fun a => .tells (e a)) := by
  induction as generalizing w with
  | nil => exact pure () w
  | cons a as ih =>
    obtain ⟨ha, has⟩ := List.forall_mem_cons.mp h
    exact bind (tell (ha w.scene)) fun _ w' _ => ih has w'

end Recounts

section Programs

def writingTale (p : Path) (content : Bytes) : List (Deed Failure) :=
  [.does (Stage.makeParent p).task, .does (Stage.write p content).task, .tells (.wrote p content.length)]

def extractionTale (input output : Path) (text : String) : List (Deed Failure) :=
  .does (Stage.read input).task :: (((Finding.all text).map fun f => .tells (.found f)) ++
    .tells (.parsed input ((Finding.all text).countP Finding.isMatched)) ::
    (writingTale output (Bytes.ofString (Report.write (Measurement.extract text))) ++
      [.tells (.reported output), .does (Stage.print (Bytes.ofString (Summary.write (Measurement.extract text)))).task]))

lemma length_extract (text : String) : (Measurement.extract text).length = (Finding.all text).countP Finding.isMatched := by
  rw [Measurement.extract, Measurement.sort, List.length_mergeSort, List.length_filterMap_eq_countP]
  rfl

lemma readFile_of_eval_writeFile {b : Bytes} (h : eval (attempt (.writeOutput p) (Host.writeFile p b)) w = (.ok (), w')) :
    w'.tree.readFile p = .ok b := by
  have hwrite := performs_writeFile p b w
  rw [Performs, h] at hwrite
  obtain ⟨_, hd, hnil⟩ := hwrite.cons_none
  obtain _ | _ | ⟨hp, hw⟩ := hd
  have htree : w'.tree = _ := congrArg Scene.tree hnil.eq_of_nil
  rw [htree]
  exact readFile_of_wrote hp hw

lemma recounts_writeText (p : Path) (s : String) (w : World) :
    Recounts text (writeText p s) w (writingTale p (Bytes.ofString s)) := by
  refine Recounts.bind (.of_performs (quiet_ensureParent p) (performs_ensureParent p w)) fun _ w₁ _ => ?_
  refine Recounts.bind (.of_performs (quiet_writeFile p _) (performs_writeFile p _ w₁)) fun _ w₂ he => ?_
  exact .tell ⟨_, readFile_of_eval_writeFile he, rfl⟩

lemma scene_of_forM_tell {as : List α} {e : α → Log.Event} {u : PUnit}
    (h : eval (as.forM fun a => BenchReport.tell (e a)) w = (.ok u, w')) : w'.scene = w.scene := by
  have hr := performs_forM_tell e as w
  rw [Performs, h] at hr
  exact hr.eq_of_nil

lemma recounts_extractTo (input output : Path) (w : World) :
    Recounts (w.tree.textAt input) (extractTo input output) w (extractionTale input output (w.tree.textAt input)) := by
  rw [extractTo]
  refine Recounts.bind (.of_performs (quiet_readText input) (performs_readText input w)) fun text w₁ he => ?_
  obtain ⟨hread, rfl⟩ := readFile_of_eval he
  rw [textAt_of_readFile hread]
  refine Recounts.bind (.forM_tell (fun f hf _ => hf) w₁) fun _ w₂ he => ?_
  have htree : w₂.scene.tree = w₁.tree := congrArg Scene.tree (scene_of_forM_tell he)
  have hparsed : Log.Event.Holds text w₂.scene (.parsed input (Measurement.extract text).length) := by
    refine ⟨?_, length_extract text⟩
    rw [htree]
    exact hread
  rw [← length_extract]
  refine Recounts.bind (.tell hparsed) fun _ w₃ _ => ?_
  refine Recounts.bind (recounts_writeText output _ w₃) fun _ w₄ he => ?_
  have hreported : Log.Event.Holds text w₄.scene (.reported output) := (readFile_and_stands_of_writeText he).1
  refine Recounts.bind (.tell hreported) fun _ w₅ _ => ?_
  refine Recounts.bind (.of_performs (quiet_writeSummary _) (performs_writeSummary _ w₅)) fun _ w₆ _ => ?_
  exact .pure _ w₆

lemma recounts_writeTable (ms : List Measurement) (p : Path) (w : World) :
    Recounts text (writeTable ms p) w (writingTale p (Bytes.ofString (Table.write ms w.now))) := by
  have hnow : eval (ExceptT.lift Host.now : Worldly Failure Instant) w = (.ok w.now, w) := rfl
  rw [writeTable, Recounts, eval_bind_of_ok hnow]
  exact recounts_writeText p _ w

end Programs

namespace Command

def tale (input output : Path) (table : Option Path) (text : String) (now : Instant) : List (Deed Trouble) :=
  (extractionTale input output text).map (.map (.extraction input)) ++
    match table with
    | none => []
    | some p => (writingTale p (Bytes.ofString (Table.write (Measurement.extract text) now))).map (.map .table)

lemma recounts_run (h : paths? args = some (input, output)) (w : World) :
    Recounts (w.tree.textAt input) (run args settings) w
      (tale input output settings.table (w.tree.textAt input) w.now) := by
  rw [run, h]
  refine Recounts.bind (recounts_extractTo input output w |>.adapt _) fun ms w' he => ?_
  obtain ⟨rfl, hnow⟩ := eq_of_eval_extractTo (eval_of_adapt_ok he)
  cases settings.table with
  | none => exact .pure 0 w'
  | some p =>
    rw [← hnow]
    exact Recounts.bind (recounts_writeTable _ p w' |>.adapt _) fun _ w'' _ => .pure 0 w''

lemma told_of_refuses {r : Except Trouble ℕ} (h : Refuses w r w') : w'.told = w.told := by
  cases h <;> rfl

end Command

end BenchReport
