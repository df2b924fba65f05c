import BenchReport.Proofs.Performing
import Mathlib.Data.List.Induction

namespace BenchReport

open FileTree Worldly

variable {p q : Path} {place here : Place} {ns : List Bytes} {t t' : FileTree} {w : World}

section Plain

def Path.components (p : Path) : Place := (names p).filter (· ≠ Path.dot)

/-- A path that goes down only, and that the system takes. -/
structure Path.IsPlain (p : Path) : Prop where
  noZero : 0 ∉ p
  short : p.length < pathLimit
  named : ∀ n ∈ names p, n ≠ Path.dotDot ∧ n.length ≤ nameLimit

def FileTree.HasFile (t : FileTree) (place : Place) : Prop := ∃ b, t.lookup place = some (.file b)

lemma exists_grows_of_clear (h : ∀ place, place <+: ns → ¬ t.HasFile place) :
    ∃ t', t.Grows t' ∧ ∀ place, place <+: ns → t'.lookup place = some .dir := by
  induction ns using List.reverseRecOn with
  | nil =>
    refine ⟨t, .refl t, fun place hp => ?_⟩
    rw [List.prefix_nil.mp hp]
    rfl
  | append_singleton ns n ih =>
    obtain ⟨t', hg, hdir⟩ := ih fun place hp => h place (hp.trans (List.prefix_append _ _))
    cases hl : t'.lookup (ns ++ [n]) with
    | none =>
      have hg' := grows_insert_dir (by simp) hl
      refine ⟨_, hg.trans hg', fun place hp => ?_⟩
      rcases List.prefix_concat_iff.mp hp with rfl | hp
      · rw [lookup_insert (by simp), if_pos rfl]
      · exact hg'.kept _ _ (hdir place hp)
    | some e =>
      refine ⟨t', hg, fun place hp => ?_⟩
      rcases List.prefix_concat_iff.mp hp with rfl | hp
      · cases e with
        | dir => exact hl
        | file b =>
          cases ht : t.lookup (ns ++ [n]) with
          | none => cases hg.added _ _ ht hl
          | some a =>
            rw [hg.kept _ _ ht] at hl
            exact absurd ⟨b, ht.trans hl⟩ (h _ (List.prefix_refl _))
      · exact hdir place hp

lemma walk_of_dirs (hns : ∀ n ∈ ns, n ≠ Path.dotDot ∧ n.length ≤ nameLimit)
    (h : ∀ place, place <+: ns.filter (· ≠ Path.dot) → t.lookup (here ++ place) = some .dir) :
    t.walk here ns = .ok (here ++ ns.filter (· ≠ Path.dot)) := by
  induction ns generalizing here with
  | nil => simp [walk, pure, Except.pure]
  | cons n ns ih =>
    obtain ⟨⟨hdots, hlen⟩, hns⟩ := List.forall_mem_cons.mp hns
    rw [walk, List.foldlM_cons]
    by_cases hdot : n = Path.dot
    · rw [List.filter_cons_of_neg (by simp [hdot])] at h ⊢
      rw [hdot, enter_dot]
      exact ih hns h
    · rw [List.filter_cons_of_pos (by simp [hdot])] at h ⊢
      have henter : t.enter here n = .ok (here ++ [n]) := by
        rw [enter, if_neg hdot, if_neg hdots, if_neg (by omega), h [n] (List.prefix_append [n] _)]
      have hdirs (place : Place) (hp : place <+: ns.filter (· ≠ Path.dot)) :
          t.lookup (here ++ [n] ++ place) = some .dir := by
        rw [List.append_assoc]
        exact h (n :: place) (List.cons_prefix_cons.mpr ⟨rfl, hp⟩)
      have hbehind := ih hns hdirs
      rw [List.append_assoc, List.singleton_append] at hbehind
      rw [henter]
      exact hbehind

lemma exists_isDir_of_clear (hp : p.IsPlain) (hne : p ≠ []) (h : ∀ place, place <+: p.components → ¬ t.HasFile place) :
    ∃ t', t.Grows t' ∧ t'.isDir p = true := by
  obtain ⟨t', hg, hdir⟩ := exists_grows_of_clear h
  exact ⟨t', hg, isDir_eq_true_iff.mpr ⟨⟨hp.noZero, hne, hp.short⟩, _, walk_of_dirs hp.named hdir⟩⟩

end Plain

section Evaluation

lemma exists_eval_ensureParent (p : Path) (w : World) : ∃ r t, eval (ensureParent p) w = (r, { w with tree := t }) := by
  rw [ensureParent]
  split
  · exact ⟨_, w.tree, rfl⟩
  · next q hp =>
    obtain ⟨r, t, hr, -⟩ := exists_made q.lineage w
    exact ⟨r.mapError (.createDir q), t, by rw [eval_attempt, hr]⟩

lemma eval_ensureParent_of_isDir (h : ∀ q, p.parent? = some q → q ≠ [] → w.tree.isDir q = true) :
    eval (ensureParent p) w = (.ok (), w) := by
  rw [ensureParent]
  split
  · rfl
  · next q hp =>
    rw [eval_attempt, run_createLineage_of_isDir (h q hp)]
    rfl

end Evaluation

lemma not_possible_makeParent {x : Scene} (h : ¬ (Stage.makeParent p).Possible x) (hp : p.parent? = some q) :
    q ≠ [] ∧ ∀ t, x.tree.Grows t → t.isDir q = false := by
  constructor
  · rintro rfl
    refine h ⟨x.tree, .refl _, fun q hq hne => ?_⟩
    rw [hp] at hq
    exact absurd (Option.some.inj hq).symm hne
  · intro t hg
    rw [Bool.eq_false_iff]
    refine fun hd => h ⟨t, hg, fun q' hq _ => ?_⟩
    rw [hp] at hq
    rwa [← Option.some.inj hq]

/-- Seeing to the directory of a file keeps what is in the tree and adds directories on the way only. If it succeeds the
directory is there, and doing it again changes nothing. If it fails it names that directory, and it does not fail
unless a file is in the way or the path is not plain. -/
theorem parent_ensured (p : Path) (w : World) :
    ∃ r t, eval (ensureParent p) w = (r, { w with tree := t }) ∧ Extends p w.tree t ∧
      (r = .ok () → (∀ q, p.parent? = some q → q ≠ [] → t.isDir q = true) ∧
        ∀ w', w'.tree = t → eval (ensureParent p) w' = (.ok (), w')) ∧
      (∀ f, r = .error f → ∃ q c, p.parent? = some q ∧ q ≠ [] ∧ f = .createDir q c) ∧
      ∀ q, p.parent? = some q → q.IsPlain → (∀ place, place <+: q.components → ¬ w.tree.HasFile place) → r = .ok () := by
  obtain ⟨r, t, he⟩ := exists_eval_ensureParent p w
  have hr := performs_ensureParent p w
  rw [Performs, he] at hr
  refine ⟨r, t, he, ?_⟩
  cases r with
  | ok =>
    obtain ⟨_, hd, h⟩ := hr.cons_none
    cases h
    obtain _ | ⟨hext, hdir⟩ := hd
    refine ⟨hext, fun _ => ⟨hdir, ?_⟩, ?_, fun _ _ _ _ => rfl⟩
    · rintro w' rfl
      exact eval_ensureParent_of_isDir hdir
    · rintro f ⟨⟩
  | error f =>
    obtain ⟨_, -, h⟩ | ⟨hno, _, hl, hf, rfl⟩ := hr.cons_some
    · cases h
    cases hf with
    | @makeParent _ q _ c hp =>
      obtain ⟨hne, hnone⟩ := not_possible_makeParent hno hp
      cases hl with
      | makeParent hext =>
        refine ⟨hext, ?_, ?_, fun q' hq' hplain hclear => ?_⟩
        · rintro ⟨⟩
        · rintro f ⟨⟩
          exact ⟨q, c, hp, hne, rfl⟩
        · obtain rfl := Option.some.inj (hp.symm.trans hq')
          obtain ⟨t', hg, hdir⟩ := exists_isDir_of_clear hplain hne hclear
          rw [hnone t' hg] at hdir
          cases hdir

def yard : World where
  tree := ⟨[([[97]], .dir), ([[98]], .file [])]⟩

def indoors : Path := [97, 47, 46, 47, 99, 47, 102]

lemma isPlain_indoors : Path.IsPlain [97, 47, 46, 47, 99] := ⟨by decide, by decide, by decide⟩

lemma clear_indoors : ∀ place, place <+: Path.components [97, 47, 46, 47, 99] → ¬ yard.tree.HasFile place := by
  have hcomponents : Path.components [97, 47, 46, 47, 99] = [[97], [99]] := by decide
  rw [hcomponents]
  intro place hp
  simp only [List.prefix_cons_iff, List.prefix_nil] at hp
  obtain rfl | ⟨_, rfl, rfl | ⟨_, rfl, rfl⟩⟩ := hp <;>
  · rintro ⟨b, hb⟩
    cases hb

theorem parent_ensured_indoors :
    Path.parent? indoors = some [97, 47, 46, 47, 99] ∧ Path.IsPlain [97, 47, 46, 47, 99] ∧
      (∀ place, place <+: Path.components [97, 47, 46, 47, 99] → ¬ yard.tree.HasFile place) ∧
      ∃ t, eval (ensureParent indoors) yard = (.ok (), { yard with tree := t }) ∧ Extends indoors yard.tree t ∧
        t.isDir [97, 47, 46, 47, 99] = true ∧ ∀ w', w'.tree = t → eval (ensureParent indoors) w' = (.ok (), w') := by
  have hp : Path.parent? indoors = some [97, 47, 46, 47, 99] := rfl
  obtain ⟨_, t, he, hext, hok, -, hclear⟩ := parent_ensured indoors yard
  obtain rfl := hclear _ hp isPlain_indoors clear_indoors
  obtain ⟨hdir, hagain⟩ := hok rfl
  exact ⟨hp, isPlain_indoors, clear_indoors, t, he, hext, hdir _ hp (List.cons_ne_nil _ _), hagain⟩

end BenchReport
