import BenchReport.Proofs.ToldRun

/-! A run before a filter: what is shown of its log is a part of it, and nothing else depends on the filter. -/

namespace BenchReport

open Worldly

variable {ε ε' α β : Type} {p input output : Path}

/-- A world in which nothing is kept of the events, and the lines of those shown, the latest first. -/
structure Console where
  world : World := {}
  lines : List String := []

abbrev Screened := ReaderT Log.Filter (StateM Console)

namespace Console

def offstage (x : StateM World α) : Screened α :=
  fun _ c => let (a, w) := StateT.run (m := Id) x c.world; (a, { c with world := w })

instance : Host Screened where
  readFile p := offstage (Host.readFile p)
  createDir p := offstage (Host.createDir p)
  isDir p := offstage (Host.isDir p)
  writeFile p b := offstage (Host.writeFile p b)
  print b := offstage (Host.print b)
  tell e := do
    if (← read).tells e then
      modify fun c => { c with lines := e.line :: c.lines }
  now := offstage Host.now

def screen (y : ExceptT ε Screened α) (f : Log.Filter) (c : Console) : Except ε α × Console :=
  StateT.run (m := Id) (y.run.run f) c

end Console

open Console

def World.shownBy (f : Log.Filter) (w : World) : Console :=
  ⟨{ w with told := [] }, (w.told.filter f.tells).map Log.Event.line⟩

def Mirrors (x : StateM World α) (y : Screened α) : Prop :=
  ∀ f w, StateT.run (m := Id) (y.run f) (w.shownBy f) = ((x.run w).1, (x.run w).2.shownBy f)

namespace Mirrors

lemma pure (a : α) : Mirrors (pure a) (pure a) := fun _ _ => rfl

lemma bind {x : StateM World α} {y : Screened α} {k : α → StateM World β} {l : α → Screened β} (h : Mirrors x y)
    (hk : ∀ a, Mirrors (k a) (l a)) : Mirrors (x >>= k) (y >>= l) := by
  intro f w
  rw [ReaderT.run_bind, StateT.run_bind, h f w]
  exact hk _ f _

lemma map {x : StateM World α} {y : Screened α} (g : α → β) (h : Mirrors x y) : Mirrors (g <$> x) (g <$> y) := by
  intro f w
  rw [ReaderT.run_map, StateT.run_map, h f w]
  rfl

lemma readFile (p : Path) : Mirrors (Host.readFile p) (Host.readFile p) := fun _ _ => rfl

lemma isDir (p : Path) : Mirrors (Host.isDir p) (Host.isDir p) := fun _ _ => rfl

lemma print (b : Bytes) : Mirrors (Host.print b) (Host.print b) := fun _ _ => rfl

lemma now : Mirrors Host.now Host.now := fun _ _ => rfl

lemma settle (r : Except Cause FileTree) : Mirrors (World.settle r) (offstage (World.settle r)) := by
  cases r <;> exact fun _ _ => rfl

lemma createDir (p : Path) : Mirrors (Host.createDir p) (Host.createDir p) :=
  fun f w => settle (w.tree.createDir p) f w

lemma writeFile (p : Path) (b : Bytes) : Mirrors (Host.writeFile p b) (Host.writeFile p b) :=
  fun f w => settle (w.tree.writeFile p b) f w

lemma tell (e : Log.Event) : Mirrors (Host.tell e) (Host.tell e) := by
  intro f w
  have hshown : World.shownBy f { w with told := e :: w.told } =
      if f.tells e then { w.shownBy f with lines := e.line :: (w.shownBy f).lines } else w.shownBy f := by
    rw [World.shownBy, List.filter_cons]
    split_ifs <;> rfl
  refine Eq.trans ?_ (congrArg (Prod.mk ()) hshown.symm)
  change StateT.run (m := Id) (ReaderT.run (if f.tells e then _ else _) f) _ = _
  split_ifs <;> rfl

lemma createLineage (ps : List Path) : Mirrors (createLineage ps) (createLineage ps) := by
  induction ps with
  | nil => exact pure _
  | cons p outer ih =>
    have hsettle (e : Cause) : Mirrors (do return if ← Host.isDir p then Except.ok () else .error e)
        (do return if ← Host.isDir p then Except.ok () else .error e) := bind (isDir p) fun _ => pure _
    refine bind (createDir p) fun r => ?_
    cases r with
    | ok => exact pure _
    | error e =>
      dsimp only
      split_ifs
      · refine bind ih fun r => ?_
        cases r with
        | error e => exact pure _
        | ok =>
          refine bind (createDir p) fun r => ?_
          cases r with
          | ok => exact pure _
          | error e => exact hsettle e
      · exact hsettle e

end Mirrors

def Alike (x : Worldly ε α) (y : ExceptT ε Screened α) : Prop := Mirrors x.run y.run

namespace Alike

lemma pure (a : α) : Alike (pure a : Worldly ε α) (pure a) := Mirrors.pure _

lemma throw (e : ε) : Alike (throw e : Worldly ε α) (throw e) := Mirrors.pure _

lemma bind {x : Worldly ε α} {y : ExceptT ε Screened α} {k : α → Worldly ε β} {l : α → ExceptT ε Screened β}
    (h : Alike x y) (hk : ∀ a, Alike (k a) (l a)) : Alike (x >>= k) (y >>= l) := by
  rw [Alike, ExceptT.run_bind, ExceptT.run_bind]
  refine Mirrors.bind h fun r => ?_
  cases r with
  | error e => exact Mirrors.pure _
  | ok a => exact hk a

lemma adapt {x : Worldly ε α} {y : ExceptT ε Screened α} (g : ε → ε') (h : Alike x y) :
    Alike (x.adapt g) (y.adapt g) := Mirrors.map (Except.mapError g) h

lemma lift {x : StateM World α} {y : Screened α} (h : Mirrors x y) :
    Alike (ExceptT.lift x : Worldly ε α) (ExceptT.lift y) := Mirrors.bind h fun _ => Mirrors.pure _

lemma attempt {x : StateM World (Except Cause α)} {y : Screened (Except Cause α)} (f : Cause → Failure)
    (h : Mirrors x y) : Alike (attempt f x) (attempt f y) := Mirrors.bind h fun _ => Mirrors.pure _

lemma tell (e : Log.Event) : Alike (tell e) (tell e) := lift (.tell e)

lemma forM {x : α → Worldly ε Unit} {y : α → ExceptT ε Screened Unit} (h : ∀ a, Alike (x a) (y a)) (as : List α) :
    Alike (as.forM x) (as.forM y) := by
  induction as with
  | nil => exact pure _
  | cons a as ih => exact bind (h a) fun _ => ih

lemma readText (p : Path) : Alike (readText p) (readText p) := by
  refine bind (attempt _ (.readFile p)) fun b => ?_
  cases b.text? with
  | some text => exact pure text
  | none => exact throw _

lemma ensureParent (p : Path) : Alike (ensureParent p) (ensureParent p) := by
  rw [BenchReport.ensureParent, BenchReport.ensureParent]
  cases p.parent? with
  | none => exact pure _
  | some parent => exact attempt _ (.createLineage _)

lemma writeText (p : Path) (text : String) : Alike (writeText p text) (writeText p text) :=
  bind (ensureParent p) fun _ => bind (attempt _ (.writeFile p _)) fun _ => tell _

lemma writeTable (ms : List Measurement) (p : Path) : Alike (writeTable ms p) (writeTable ms p) :=
  bind (lift .now) fun _ => writeText p _

lemma writeSummary (ms : List Measurement) : Alike (writeSummary ms) (writeSummary ms) :=
  forM (fun _ => attempt _ (.print _)) _

lemma extractTo (input output : Path) : Alike (extractTo input output) (extractTo input output) := by
  refine bind (readText input) fun text => ?_
  refine bind (forM (fun f => tell (.found f)) _) fun _ => ?_
  refine bind (tell _) fun _ => ?_
  refine bind (writeText output _) fun _ => ?_
  refine bind (tell _) fun _ => ?_
  exact bind (writeSummary _) fun _ => pure _

lemma run (args : List Bytes) (settings : Command.Settings) :
    Alike (Command.run args settings) (Command.run args settings) := by
  rw [Command.run, Command.run]
  cases Command.paths? args with
  | none => exact bind (Mirrors.bind (.print _) fun _ => .pure _) fun _ => pure _
  | some io =>
    refine bind ((extractTo io.1 io.2).adapt _) fun ms => ?_
    cases settings.table with
    | none => exact pure _
    | some p => exact bind ((writeTable ms p).adapt _) fun _ => pure _

end Alike

namespace Command

/-- What is told of a run is true and in order, and ends where the run does. A filter shows a part of it, in the same
order, and decides nothing else: not the outcome, and not what becomes of the files and of the summary. -/
theorem log_truthful (args : List Bytes) (settings : Settings) (t : FileTree) (s : Sink) (now : Instant) :
    let w : World := { tree := t, sink := s, now := now }
    let r := eval (run args settings : Worldly Trouble ℕ) w
    (paths? args = none → r.2.log = []) ∧
      (∀ input output, paths? args = some (input, output) →
        let deeds := tale input output settings.table (t.textAt input) now
        Follows (t.textAt input) deeds w.scene r.2.log (failure? r.1) r.2.scene ∧
          r.2.log <+: deeds.filterMap Deed.event? ∧
          (failure? r.1 = none → r.2.log = deeds.filterMap Deed.event?)) ∧
      ∀ setting : Option Bytes,
        let filter := Log.Filter.ofSetting setting
        let v := screen (run args settings) filter ⟨w, []⟩
        v.1 = r.1 ∧ v.2.world.scene = r.2.scene ∧
          errorOutput filter r.2.log r.1 = v.2.lines.reverse ++ (outcome v.1).2 ∧
          ∃ shown : List Log.Event, shown.Sublist r.2.log ∧ v.2.lines.reverse = shown.map Log.Event.line := by
  intro w r
  refine ⟨fun h => ?_, fun input output h => ?_, ?_⟩
  · rw [World.log, told_of_refuses (refuses_of_paths? h w)]
    rfl
  · obtain ⟨es, hlog, h⟩ : Recounts _ (run args settings) w _ := recounts_run h w
    have hes : r.2.log = es := hlog
    rw [hes]
    refine ⟨h, h.prefix_events, fun hnone => ?_⟩
    rw [hnone] at h
    exact h.eq_events
  · intro setting filter v
    have hv : v = (r.1, r.2.shownBy filter) := Alike.run args settings filter w
    have hlines : v.2.lines.reverse = (r.2.log.filter filter.tells).map Log.Event.line := by
      rw [hv, World.log, List.filter_reverse, List.map_reverse]
      rfl
    refine ⟨?_, ?_, ?_, _, List.filter_sublist, hlines⟩
    · rw [hv]
    · rw [hv]
      rfl
    · rw [hlines, hv]
      rfl

def unreadable : World where
  tree := ⟨[([[105]],
    .file (Bytes.ofString "test a ... bench: 5 ns/iter (+/- 1)\ntest b ... bench: ,, ns/iter (+/- 1)"))]⟩

theorem log_truthful_of_unreadable_time :
    paths? [] = none ∧ paths? [[120], [105], [100, 47, 111]] = some ([105], [100, 47, 111]) ∧
      let text := "test a ... bench: 5 ns/iter (+/- 1)\ntest b ... bench: ,, ns/iter (+/- 1)"
      let r := eval (run [[120], [105], [100, 47, 111]] ⟨some [109]⟩ : Worldly Trouble ℕ) unreadable
      let v := screen (run [[120], [105], [100, 47, 111]] ⟨some [109]⟩) (Log.Filter.ofSetting none) ⟨unreadable, []⟩
      (eval (run [] ⟨some [109]⟩ : Worldly Trouble ℕ) unreadable).2.log = [] ∧ r.1 = .ok 0 ∧
        Follows text (tale [105] [100, 47, 111] (some [109]) text ⟨0, 0⟩) unreadable.scene
          [.found (.matched ⟨"a", 5, 1⟩), .found (.skipped "b" ",," "1"), .parsed [105] 1, .wrote [100, 47, 111] 110,
            .reported [100, 47, 111], .wrote [109] 250] none r.2.scene ∧
        v.1 = .ok 0 ∧
        v.2.lines = [" WARN skipping benchmark with unreadable numerals benchmark=\"b\" time=\",,\" variance=\"1\""] := by
  have hnone : paths? [] = none := rfl
  have hpaths : paths? [[120], [105], [100, 47, 111]] = some ([105], [100, 47, 111]) := rfl
  refine ⟨hnone, hpaths, ?_⟩
  intro text r v
  have htext : unreadable.tree.textAt [105] = text := by decide +kernel
  have hrun : r.1 = .ok 0 ∧ r.2.log = [.found (.matched ⟨"a", 5, 1⟩), .found (.skipped "b" ",," "1"), .parsed [105] 1,
      .wrote [100, 47, 111] 110, .reported [100, 47, 111], .wrote [109] 250] := by decide +kernel
  obtain ⟨hok, hlog⟩ := hrun
  have hfresh : ({ tree := unreadable.tree } : World) = unreadable := rfl
  obtain ⟨-, htold, hshown⟩ := log_truthful [[120], [105], [100, 47, 111]] ⟨some [109]⟩ unreadable.tree {} ⟨0, 0⟩
  have hfollows := (htold _ _ hpaths).1
  rw [hfresh, htext] at hfollows
  change Follows text _ unreadable.scene r.2.log (failure? r.1) r.2.scene at hfollows
  rw [hlog, hok] at hfollows
  exact ⟨(log_truthful [] ⟨some [109]⟩ unreadable.tree {} ⟨0, 0⟩).1 hnone, hok, hfollows, (hshown none).1.trans hok,
    by decide +kernel⟩

end Command

end BenchReport
