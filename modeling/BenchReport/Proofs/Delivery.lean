import BenchReport.Proofs.Performing

/-! What an extraction that succeeds has made of the tree and of the sink, and what it has left alone. -/

namespace BenchReport

open FileTree Worldly

variable {input output d p q : Path} {place : Place} {b : Bytes} {text : String} {ms : List Measurement} {w w' : World}
variable {x z : Scene} {t t' : FileTree}

structure Path.IsStart (d p : Path) : Prop where
  ne_nil : d ≠ []
  start : d <+: p
  names : names d <+: names p

lemma Path.isStart_of_mem_lineage (h : d ∈ lineage p) : d.IsStart p := by
  induction p using lineage.induct with
  | case1 =>
    rw [lineage_nil] at h
    cases h
  | case2 p hp hroot =>
    rw [lineage_of_root hp hroot, List.mem_singleton] at h
    rw [h]
    exact ⟨hp, List.prefix_rfl, List.prefix_rfl⟩
  | case3 p hp q hq ih =>
    rw [lineage_of_parent? hp hq] at h
    rcases List.mem_cons.mp h with rfl | h
    · exact ⟨hp, List.prefix_rfl, List.prefix_rfl⟩
    · obtain ⟨k, last, j, hn, -⟩ := names_of_parent? hq
      obtain ⟨hne, hstart, hnames⟩ := ih h
      refine ⟨hne, hstart.trans (prefix_of_parent? hq), hnames.trans ?_⟩
      rw [hn]
      exact List.prefix_append _ _

/-- A tree that differs from another in one file, and in directories that are new on the way to it. -/
structure Receives (t : FileTree) (p : Path) (place : Place) (b : Bytes) (t' : FileTree) : Prop where
  fileAt : t'.FileAt p place
  content : t'.lookup place = some (.file b)
  kept : ∀ q e, t.lookup q = some e → q ≠ place ∨ e = .dir → t'.lookup q = some e
  added : ∀ q e, q ≠ place → t.lookup q = none → t'.lookup q = some e →
    e = .dir ∧ ∃ parent d, p.parent? = some parent ∧ d.IsStart parent ∧ t'.LeadsTo d q

lemma receives_of_extends (he : Extends p t t') (hp : t'.FileAt p place) {u : FileTree} (hw : t'.Wrote place b u) :
    Receives t p place b u := by
  refine ⟨hp.of_keepsDirs hw.keepsDirs, (hw.lookup_eq place).trans (if_pos rfl), fun q e hq hne => ?_, fun q e hne hn hq => ?_⟩
  · have hkept := he.kept q e hq
    rw [hw.lookup_eq, if_neg]
    · exact hkept
    · rintro rfl
      rcases hne with hne | rfl
      · exact hne rfl
      · exact hw.not_dir hkept
  · rw [hw.lookup_eq, if_neg hne] at hq
    obtain ⟨parent, hp, d, hd, hl⟩ := he.through q hn (by simp [hq])
    exact ⟨he.added q e hn hq, parent, d, hp, Path.isStart_of_mem_lineage hd, hl.of_keepsDirs hw.keepsDirs⟩

lemma exists_receives_of_runs (h : Runs ((extraction input output ms).map Stage.task) x none z) :
    (∃ place, Receives x.tree output place (Bytes.ofString (Report.write ms)) z.tree) ∧
      x.sink.Took (Bytes.ofString (Summary.write ms)) z.sink := by
  obtain ⟨_, hd, h⟩ := h.cons_none
  cases hd
  obtain ⟨_, hd, h⟩ := h.cons_none
  obtain _ | ⟨hext, -⟩ := hd
  obtain ⟨_, hd, h⟩ := h.cons_none
  obtain _ | _ | ⟨hp, hw⟩ := hd
  obtain ⟨_, hd, h⟩ := h.cons_none
  obtain _ | _ | _ | ⟨-, ht⟩ := hd
  cases h
  exact ⟨⟨_, receives_of_extends hext hp hw⟩, ht⟩

theorem extraction_delivers (h : eval (extractTo input output) w = (.ok ms, w')) :
    ∃ text place, w.tree.readFile input = .ok (Bytes.ofString text) ∧ ms = Measurement.extract text ∧
      Receives w.tree output place (Bytes.ofString (Report.write ms)) w'.tree ∧
      w'.tree.readFile output = .ok (Bytes.ofString (Report.write ms)) ∧
      w.sink.Took (Bytes.ofString (Summary.write ms)) w'.sink := by
  have hr := performs_extractTo input output w
  rw [Performs, h] at hr
  obtain ⟨rfl, -⟩ := eq_of_eval_extractTo h
  obtain ⟨⟨place, hplace⟩, ht⟩ := exists_receives_of_runs hr
  obtain ⟨_, hd, -⟩ := hr.cons_none
  obtain ⟨hread⟩ := hd
  have hout := readFile_eq_ok_iff.mpr ⟨place, hplace.fileAt, hplace.content⟩
  exact ⟨_, place, hread, congrArg Measurement.extract (textAt_of_readFile hread), hplace, hout, ht⟩

lemma runs_extraction_none {r : Option Failure} (h : Runs ((extraction input output ms).map Stage.task) x r z)
    (hin : (Stage.read input).Possible x) (hdir : (Stage.makeParent output).Possible x)
    (hout : ∀ t, x.tree.Grows t → (∀ q, output.parent? = some q → q ≠ [] → t.isDir q = true) →
      ∃ place, t.FileAt output place ∧ t.lookup place ≠ some .dir)
    (hroom : x.sink.room = none) : r = none := by
  obtain ⟨_, hd, h⟩ := h.cons_of_possible hin
  cases hd
  obtain ⟨_, hd, h⟩ := h.cons_of_possible hdir
  obtain _ | ⟨hg, hmade⟩ := hd
  obtain ⟨_, hd, h⟩ := h.cons_of_possible (hout _ hg.toGrows hmade)
  obtain _ | _ | ⟨-, -⟩ := hd
  have hroom (n : ℕ) : x.sink.HasRoom n := fun room hr => by simp [hroom] at hr
  obtain ⟨_, -, h⟩ := h.cons_of_possible (hroom _)
  exact h.eq_none_of_nil

section Roundabout

lemma eq_of_enter {here there : Place} {name : Bytes} (hdot : name ≠ Path.dot) (hdots : name ≠ Path.dotDot)
    (h : t.enter here name = .ok there) : there = here ++ [name] := by
  rw [enter.eq_def, if_neg hdot, if_neg hdots] at h
  split_ifs at h
  split at h
  · cases h
  · cases h
  · exact (Except.ok.inj h).symm

def secluded : World where
  tree := ⟨[([[105]], .file (Bytes.ofString "test a ... bench: 5 ns/iter (+/- 1)"))]⟩

def roundabout : Path := [100, 47, 46, 46, 47, 105]

lemma walk_back (hd : t.isDir [100, 47, 46, 46] = true) : t.walk [] [[100], Path.dotDot] = .ok [] := by
  obtain ⟨-, here, hw⟩ := isDir_eq_true_iff.mp hd
  obtain ⟨there, he, hw'⟩ := Report.bind_eq_ok (hw : t.enter [] [100] >>= (t.walk · [Path.dotDot]) = .ok here)
  obtain rfl := eq_of_enter (by decide) (by decide) he
  cases hw'
  exact hw

lemma fileAt_back {n : UInt8} (hf : Fits p) (hn : names p = [[100], Path.dotDot] ++ [[n]]) (ho : endsOpen p = false)
    (hdot : n ≠ 46) (hd : t.isDir [100, 47, 46, 46] = true) : t.FileAt p [[n]] := by
  refine ⟨[], [n], ?_, by simp [nameLimit], ho, rfl⟩
  rw [locate_of_names hf hn, walk_back hd]
  simp [targetAt, Path.dot, Path.dotDot, hdot, Except.map, Except.mapError]

lemma makeParent_roundabout_possible : (Stage.makeParent roundabout).Possible secluded.scene := by
  refine ⟨secluded.tree.insert [[100]] .dir, grows_insert_dir (List.cons_ne_nil _ _) rfl, ?_⟩
  rintro _ ⟨⟩ -
  decide

lemma runs_roundabout {r : Option Failure}
    (h : Runs ((extraction [105] roundabout ms).map Stage.task) secluded.scene r z) : r = none := by
  refine runs_extraction_none h ⟨_, rfl⟩ makeParent_roundabout_possible (fun t hg hdir => ?_) rfl
  have hfile := hg.kept [[105]] _ rfl
  have hplace : t.FileAt roundabout [[105]] :=
    fileAt_back ⟨by decide, by decide, by decide⟩ rfl rfl (by decide) (hdir _ rfl (by decide))
  exact ⟨_, hplace, by simp [hfile]⟩

theorem extraction_delivers_to_its_input :
    ∃ ms w', eval (extractTo [105] roundabout) secluded = (.ok ms, w') ∧
      ∃ text place, secluded.tree.readFile [105] = .ok (Bytes.ofString text) ∧ ms = Measurement.extract text ∧
        Receives secluded.tree roundabout place (Bytes.ofString (Report.write ms)) w'.tree ∧
        w'.tree.readFile roundabout = .ok (Bytes.ofString (Report.write ms)) ∧
        secluded.sink.Took (Bytes.ofString (Summary.write ms)) w'.sink := by
  have hr := runs_roundabout (performs_extractTo [105] roundabout secluded)
  rcases he : eval (extractTo [105] roundabout) secluded with ⟨f | ms, w'⟩
  · rw [he] at hr
    cases hr
  · exact ⟨ms, w', rfl, extraction_delivers he⟩

end Roundabout

end BenchReport
