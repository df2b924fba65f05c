import BenchReport.Proofs.Performing

namespace BenchReport

open FileTree Worldly

variable {t t' : FileTree} {p q : Path} {place : Place} {b : Bytes} {w w' : World} {text : String}

def Stands (t : FileTree) (p : Path) : Prop :=
  (∀ q, p.parent? = some q → q ≠ [] → t.isDir q = true) ∧ ∃ place b, t.FileAt p place ∧ t.lookup place = some (.file b)

namespace Stands

lemma of_grows (h : Stands t p) (hg : t.Grows t') : Stands t' p := by
  obtain ⟨hdir, place, b, hp, hb⟩ := h
  exact ⟨fun q hq hne => isDir_of_keepsDirs hg.keepsDirs (hdir q hq hne), place, b, hp.of_keepsDirs hg.keepsDirs,
    hg.kept _ _ hb⟩

lemma of_wrote (h : Stands t p) (hw : t.Wrote place b t') : Stands t' p := by
  obtain ⟨hdir, there, b', hp, hb⟩ := h
  have hb' : ∃ b, t'.lookup there = some (.file b) := by
    rw [hw.lookup_eq]
    split_ifs
    · exact ⟨b, rfl⟩
    · exact ⟨b', hb⟩
  obtain ⟨b'', hb''⟩ := hb'
  exact ⟨fun q hq hne => isDir_of_keepsDirs hw.keepsDirs (hdir q hq hne), there, b'', hp.of_keepsDirs hw.keepsDirs, hb''⟩

variable {s : Sink} {now : Instant}

lemma makeParent_possible (h : Stands t p) : (Stage.makeParent p).Possible ⟨t, s, now⟩ := ⟨t, .refl t, h.1⟩

lemma write_possible (h : Stands t p) (b : Bytes) : (Stage.write p b).Possible ⟨t, s, now⟩ := by
  obtain ⟨-, place, b', hp, hb⟩ := h
  exact ⟨place, hp, by simp [hb]⟩

lemma runs_none {ε : Type} {f g : Failure → ε} {z : Scene} {r : Option ε} (hs : Stands t p)
    (h : Runs [⟨.makeParent p, f⟩, ⟨.write p b, g⟩] ⟨t, s, now⟩ r z) : r = none := by
  obtain ⟨_, hm, h⟩ := h.cons_of_possible hs.makeParent_possible
  obtain _ | ⟨hg, -⟩ := hm
  obtain ⟨_, -, h⟩ := h.cons_of_possible ((hs.of_grows hg.toGrows).write_possible b)
  exact h.eq_none_of_nil

lemma exists_eval_writeText (h : Stands w.tree p) (text : String) : ∃ w', eval (writeText p text) w = (.ok (), w') := by
  have hr : failure? (eval (writeText p text) w).1 = none := runs_none h (performs_writeText p text w)
  rcases he : eval (writeText p text) w with ⟨_ | _, w'⟩
  · rw [he] at hr
    cases hr
  · exact ⟨w', rfl⟩

end Stands

lemma readFile_and_stands_of_runs {x z : Scene}
    (h : Runs [(Stage.makeParent p).task, (Stage.write p b).task] x none z) :
    z.tree.readFile p = .ok b ∧ Stands z.tree p := by
  obtain ⟨_, hm, h⟩ := h.cons_none
  obtain ⟨_, hw, h⟩ := h.cons_none
  cases h
  obtain _ | ⟨-, hdir⟩ := hm
  obtain _ | _ | ⟨hp, hw⟩ := hw
  refine ⟨readFile_of_wrote hp hw, fun q hq hne => isDir_of_keepsDirs hw.keepsDirs (hdir q hq hne), _, b,
    hp.of_keepsDirs hw.keepsDirs, ?_⟩
  rw [hw.lookup_eq, if_pos rfl]

lemma readFile_and_stands_of_writeText (h : eval (writeText p text) w = (.ok (), w')) :
    w'.tree.readFile p = .ok (Bytes.ofString text) ∧ Stands w'.tree p := by
  have hr := performs_writeText p text w
  rw [Performs, h] at hr
  have hs := readFile_and_stands_of_runs hr
  exact hs

end BenchReport
