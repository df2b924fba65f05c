import BenchReport.Proofs.Parents
import BenchReport.Proofs.WorldRuns

/-! Creating the directory a file lies in: what is added to the tree, and when there is no way. -/

namespace BenchReport

open FileTree BenchReport.Path

variable {t t' t'' : FileTree} {p q : Path} {ps : List Path} {r : Except Cause Unit} {c : Cause} {w w' : World}

inductive Made : List Path → FileTree → Except Cause Unit → FileTree → Prop
  | nil {t : FileTree} : Made [] t (.ok ()) t
  | created {p : Path} {outer : List Path} {t t' : FileTree} : t.createDir p = .ok t' → Made (p :: outer) t (.ok ()) t'
  | settled {p : Path} {outer : List Path} {t : FileTree} {c : Cause} : t.createDir p = .error c →
      c ≠ .system .notFound → Made (p :: outer) t (if t.isDir p then .ok () else .error c) t
  | blocked {p : Path} {outer : List Path} {t t' : FileTree} {c : Cause} :
      t.createDir p = .error (.system .notFound) → Made outer t (.error c) t' → Made (p :: outer) t (.error c) t'
  | retried {p : Path} {outer : List Path} {t t' t'' : FileTree} :
      t.createDir p = .error (.system .notFound) → Made outer t (.ok ()) t' → t'.createDir p = .ok t'' →
      Made (p :: outer) t (.ok ()) t''
  | resettled {p : Path} {outer : List Path} {t t' : FileTree} {c : Cause} :
      t.createDir p = .error (.system .notFound) → Made outer t (.ok ()) t' → t'.createDir p = .error c →
      Made (p :: outer) t (if t'.isDir p then .ok () else .error c) t'

section Evaluation

def settled (p : Path) (c : Cause) (w : World) : Except Cause Unit × World :=
  (if w.tree.isDir p then .ok () else .error c, w)

lemma run_createLineage_cons (p : Path) (outer : List Path) (w : World) :
    (createLineage (p :: outer) : StateM World _).run w =
      match w.tree.createDir p with
      | .ok t => (.ok (), { w with tree := t })
      | .error c =>
        if c = .system .notFound then
          match (createLineage outer : StateM World _).run w with
          | (.error c, w') => (.error c, w')
          | (.ok (), w') =>
            match w'.tree.createDir p with
            | .ok t => (.ok (), { w' with tree := t })
            | .error c => settled p c w'
        else settled p c w := by
  rw [createLineage.eq_def]
  simp only [World.run_bind, World.run_createDir]
  cases hc : w.tree.createDir p with
  | ok t => rfl
  | error c =>
    simp only [World.run_settle_error]
    split_ifs with hm
    · simp only [World.run_bind]
      rcases hr : (createLineage outer : StateM World _).run w with ⟨_ | _, w'⟩
      · rfl
      · simp only [World.run_bind, World.run_createDir]
        cases hc' : w'.tree.createDir p with
        | ok t => rfl
        | error c' => rfl
    · rfl

lemma exists_made (ps : List Path) (w : World) :
    ∃ r t, (createLineage ps : StateM World _).run w = (r, { w with tree := t }) ∧ Made ps w.tree r t := by
  induction ps with
  | nil => exact ⟨_, _, rfl, .nil⟩
  | cons p outer ih =>
    rw [run_createLineage_cons]
    cases hc : w.tree.createDir p with
    | ok t => exact ⟨_, t, rfl, .created hc⟩
    | error c =>
      dsimp only
      split_ifs with hm
      · obtain ⟨r, t, hr, hmade⟩ := ih
        rw [hr]
        rw [hm] at hc
        cases r with
        | error c' => exact ⟨_, t, rfl, .blocked hc hmade⟩
        | ok =>
          dsimp only
          cases hc' : t.createDir p with
          | ok t' => exact ⟨_, t', rfl, .retried hc hmade hc'⟩
          | error c' => exact ⟨_, t, rfl, .resettled hc hmade hc'⟩
      · exact ⟨_, w.tree, rfl, .settled hc hm⟩

end Evaluation

section Effect

lemma leadsTo_of_createDir {place : Place} (h : t.createDir p = .ok t') (hn : t.lookup place = none)
    (hs : t'.lookup place ≠ none) : t'.LeadsTo p place := by
  have hk := (grows_of_createDir h).keepsDirs
  obtain ⟨there, hl, hne, -, rfl, -⟩ := exists_of_createDir h
  rw [lookup_insert hne] at hs
  split_ifs at hs with hp
  · exact hp ▸ hl.of_keepsDirs hk
  · exact absurd hn hs

lemma Made.grows (h : Made ps t r t') : t.Grows t' := by
  induction h with
  | nil => exact .refl _
  | created hc => exact grows_of_createDir hc
  | settled => exact .refl _
  | blocked _ _ ih => exact ih
  | retried _ _ hc ih => exact ih.trans (grows_of_createDir hc)
  | resettled _ _ _ ih => exact ih

lemma Made.leadsTo {place : Place} (h : Made ps t r t') (hn : t.lookup place = none) (hs : t'.lookup place ≠ none) :
    ∃ d ∈ ps, t'.LeadsTo d place := by
  induction h with
  | nil => exact absurd hn hs
  | @created p outer t t' hc => exact ⟨p, List.mem_cons_self, leadsTo_of_createDir hc hn hs⟩
  | settled => exact absurd hn hs
  | blocked _ _ ih =>
    obtain ⟨d, hd, hl⟩ := ih hn hs
    exact ⟨d, List.mem_cons_of_mem _ hd, hl⟩
  | @retried p outer t t' t'' _ _ hc ih =>
    by_cases hn' : t'.lookup place = none
    · exact ⟨p, List.mem_cons_self, leadsTo_of_createDir hc hn' hs⟩
    · obtain ⟨d, hd, hl⟩ := ih hn hn'
      exact ⟨d, List.mem_cons_of_mem _ hd, hl.of_keepsDirs (grows_of_createDir hc).keepsDirs⟩
  | resettled _ _ _ ih =>
    obtain ⟨d, hd, hl⟩ := ih hn hs
    exact ⟨d, List.mem_cons_of_mem _ hd, hl⟩

lemma isDir_of_settled {α : Type} {a : α} (h : (if t.isDir p then .ok a else .error c : Except Cause α) = .ok a) :
    t.isDir p = true := by
  by_contra hd
  rw [if_neg hd] at h
  cases h

lemma Made.isDir (h : Made (p :: ps) t (.ok ()) t') : t'.isDir p = true := by
  generalize hr : (.ok () : Except Cause Unit) = r at h
  cases h with
  | created hc => exact isDir_of_createDir hc
  | settled => exact isDir_of_settled hr.symm
  | blocked => cases hr
  | retried _ _ hc => exact isDir_of_createDir hc
  | resettled => exact isDir_of_settled hr.symm

lemma lineage_nil : lineage [] = [] := by rw [lineage, if_pos rfl]

lemma lineage_of_parent? (hp : p ≠ []) (h : parent? p = some q) : lineage p = p :: lineage q := by
  rw [lineage, if_neg hp]
  split
  · next hn => simp [hn] at h
  · next hs =>
    rw [hs] at h
    cases h
    rfl

lemma lineage_of_root (hp : p ≠ []) (h : parent? p = none) : lineage p = [p] := by
  rw [lineage, if_neg hp]
  split
  · rfl
  · next hs => simp [hs] at h

lemma run_createLineage_of_isDir (h : p ≠ [] → w.tree.isDir p = true) :
    (createLineage p.lineage : StateM World _).run w = (.ok (), w) := by
  rcases eq_or_ne p [] with rfl | hp
  · rw [lineage_nil]
    rfl
  · obtain ⟨outer, ho⟩ : ∃ outer, p.lineage = p :: outer := by
      cases hq : p.parent? with
      | none => exact ⟨[], lineage_of_root hp hq⟩
      | some q => exact ⟨q.lineage, lineage_of_parent? hp hq⟩
    rw [ho, run_createLineage_cons, createDir_of_isDir (h hp)]
    simp only [settled, h hp, if_true]
    rfl

lemma Made.isDir_lineage (h : Made (lineage p) t (.ok ()) t') (hp : p ≠ []) : t'.isDir p = true := by
  cases hq : parent? p with
  | none =>
    rw [lineage_of_root hp hq] at h
    exact h.isDir
  | some q =>
    rw [lineage_of_parent? hp hq] at h
    exact h.isDir

lemma createDir_ne_notFound {x : Target} (h : t.locate p = .ok x) : t.createDir p ≠ .error (.system .notFound) := by
  cases x with
  | dir =>
    rw [createDir_of_dir h]
    decide
  | entry parent name =>
    rw [createDir_of_target h]
    split_ifs <;> simp [SystemError.nameTooLong, SystemError.alreadyThere, SystemError.notFound]

lemma eq_separator_of_root (hp : p = [separator] ∨ IsTrim p) (hne : p ≠ []) (h : parent? p = none) :
    p = [separator] := by
  refine hp.resolve_right ?_
  rintro ⟨front, xs, hs, htrim⟩
  rw [parent?, hs] at h
  simp only [htrim] at h
  split at h
  · split_ifs at h with hf
    apply hne
    rw [← join_split p, hs, hf]
    rfl
  · split at h <;> cases h

lemma Made.error_cases (h : Made (p :: ps) t (.error c) t') :
    (t.createDir p = .error c ∧ c ≠ .system .notFound ∧ t.isDir p = false) ∨
      (t.createDir p = .error (.system .notFound) ∧ Made ps t (.error c) t') ∨
      (t.createDir p = .error (.system .notFound) ∧ Made ps t (.ok ()) t' ∧ t'.createDir p = .error c ∧
        t'.isDir p = false) := by
  generalize hr : (.error c : Except Cause Unit) = r at h
  cases h with
  | created => cases hr
  | settled hc hm =>
    split_ifs at hr with hd
    cases hr
    exact Or.inl ⟨hc, hm, by simpa using hd⟩
  | blocked hc hmade =>
    cases hr
    exact Or.inr (Or.inl ⟨hc, hmade⟩)
  | retried => cases hr
  | resettled hc hmade hc' =>
    split_ifs at hr with hd
    cases hr
    exact Or.inr (Or.inr ⟨hc, hmade, hc', by simpa using hd⟩)

lemma Made.not_isDir (h : Made (lineage p) t (.error c) t') (hp : p = [separator] ∨ IsTrim p)
    (hg : t.Grows t'') : t''.isDir p = false := by
  rw [Bool.eq_false_iff]
  intro hd
  have hf := (isDir_eq_true_iff.mp hd).1
  induction p using lineage.induct with
  | case1 => exact hf.ne_nil rfl
  | case2 p hne hpar =>
    obtain rfl := eq_separator_of_root hp hne hpar
    rw [lineage_of_root hne hpar] at h
    have hroot (t : FileTree) : t.createDir [separator] ≠ .error (.system .notFound) :=
      createDir_ne_notFound (locate_of_names_nil hf rfl)
    rcases h.error_cases with ⟨-, -, hd'⟩ | ⟨hc, -⟩ | ⟨hc, -⟩
    · rw [isDir_of_locate (locate_of_names_nil hf rfl)] at hd'
      cases hd'
    · exact hroot t hc
    · exact hroot t hc
  | case3 p hne q hpar ih =>
    rw [lineage_of_parent? hne hpar] at h
    rcases h.error_cases with ⟨hc, hm, hd'⟩ | ⟨-, hmade⟩ | ⟨-, hmade, hc', hd'⟩
    · rw [isDir_of_grows hc hm hg hd] at hd'
      cases hd'
    · have hq : q ≠ [] := by
        rintro rfl
        rw [lineage_nil] at hmade
        cases hmade
      exact ih hmade (isTrim_of_parent? hpar) (isDir_of_parent? hpar hq hd) (hf.of_parent? hpar hq)
    · have htrim : IsTrim p := by
        refine hp.resolve_left ?_
        rintro rfl
        cases hpar
      have hm : c ≠ .system .notFound := by
        rintro rfl
        obtain ⟨x, hx⟩ := exists_locate_of_parent? hf htrim hpar fun hq => hmade.isDir_lineage hq
        exact createDir_ne_notFound hx hc'
      -- what has been added and what could be fit into one tree, where the second attempt fails as it did
      obtain ⟨v, hv, hv'⟩ := hmade.grows.join hg
      rw [isDir_of_grows hc' hm hv (isDir_of_keepsDirs hv'.keepsDirs hd)] at hd'
      cases hd'

end Effect

end BenchReport
