import BenchReport.FileTree
import BenchReport.Report.Strings
import Mathlib.Data.List.Basic

/-! What becomes of paths when a tree changes: those that led through directories still do. -/

namespace BenchReport.FileTree

open Report (bind_eq_ok)

variable {t t' u : FileTree} {place here there : Place} {name : Bytes} {names' : List Bytes} {e : Entry}
variable {p : Path} {b : Bytes} {c : Cause} {x : Target}

section Lookup

lemma lookup_put (place q : Place) (e : Entry) (xs : List (Place × Entry)) :
    (put place e xs).lookup q = if q = place then some e else xs.lookup q := by
  induction xs with
  | nil =>
    rw [put, List.lookup_cons]
    by_cases hq : q = place
    · simp [hq]
    · simp [hq, beq_false_of_ne hq]
  | cons x xs ih =>
    obtain ⟨r, a⟩ := x
    rw [put]
    by_cases hr : r = place
    · rw [if_pos hr, List.lookup_cons, List.lookup_cons, hr]
      by_cases hq : q = place
      · simp [hq]
      · simp [hq, beq_false_of_ne hq]
    · rw [if_neg hr, List.lookup_cons, List.lookup_cons, ih]
      by_cases hq : q = r
      · subst hq
        simp [hr]
      · simp [beq_false_of_ne hq]

lemma lookup_insert (hne : place ≠ []) (e : Entry) (q : Place) :
    (t.insert place e).lookup q = if q = place then some e else t.lookup q := by
  cases q with
  | nil => rw [if_neg hne.symm, lookup, lookup]
  | cons n q => exact lookup_put place _ e t.entries

end Lookup

section Growth

def KeepsDirs (t t' : FileTree) : Prop := ∀ q, t.lookup q = some .dir → t'.lookup q = some .dir

/-- A tree to which nothing but directories has been added. -/
structure Grows (t t' : FileTree) : Prop where
  kept : ∀ q e, t.lookup q = some e → t'.lookup q = some e
  added : ∀ q e, t.lookup q = none → t'.lookup q = some e → e = .dir

lemma Grows.refl (t : FileTree) : t.Grows t := ⟨fun _ _ h => h, fun q e h h' => by simp [h] at h'⟩

lemma Grows.trans (h : t.Grows t') (h' : t'.Grows u) : t.Grows u := by
  refine ⟨fun q e hq => h'.kept q e (h.kept q e hq), fun q e hn hq => ?_⟩
  cases ht : t'.lookup q with
  | none => exact h'.added q e ht hq
  | some a =>
    obtain rfl := h.added q a hn ht
    exact (Option.some.inj ((h'.kept q _ ht).symm.trans hq)).symm

lemma Grows.keepsDirs (h : t.Grows t') : t.KeepsDirs t' := fun q hq => h.kept q _ hq

lemma grows_insert_dir (hne : place ≠ []) (h : t.lookup place = none) : t.Grows (t.insert place .dir) := by
  constructor
  · intro q e hq
    rw [lookup_insert hne]
    split_ifs with hp
    · simp [hp, h] at hq
    · exact hq
  · intro q e hn hq
    rw [lookup_insert hne] at hq
    split_ifs at hq with hp
    · exact (Option.some.inj hq).symm
    · simp [hn] at hq

structure Wrote (t : FileTree) (place : Place) (b : Bytes) (t' : FileTree) : Prop where
  not_dir : t.lookup place ≠ some .dir
  lookup_eq : ∀ q, t'.lookup q = if q = place then some (.file b) else t.lookup q

lemma wrote_insert (hne : place ≠ []) (h : t.lookup place ≠ some .dir) (b : Bytes) :
    t.Wrote place b (t.insert place (.file b)) := ⟨h, lookup_insert hne _⟩

lemma Wrote.keepsDirs (h : t.Wrote place b t') : t.KeepsDirs t' := by
  intro q hq
  rw [h.lookup_eq, if_neg]
  · exact hq
  · rintro rfl
    exact h.not_dir hq

lemma Grows.lookup_eq_none (h : t.Grows t') {q : Place} (hq : t'.lookup q = none) : t.lookup q = none := by
  cases ht : t.lookup q with
  | none => rfl
  | some e => exact absurd ((h.kept q e ht).symm.trans hq) (Option.some_ne_none e)

lemma Grows.join (h : t.Grows t') (h' : t.Grows u) : ∃ v, t'.Grows v ∧ u.Grows v := by
  let v : FileTree := ⟨t'.entries ++ u.entries⟩
  have hlookup (q : Place) : v.lookup q = (t'.lookup q).or (u.lookup q) := by
    cases q with
    | nil => rfl
    | cons n q => exact List.lookup_append
  -- where both have an entry they agree: it was there before, or it is a directory in both
  refine ⟨v, ⟨fun q e hq => ?_, fun q e hn hq => ?_⟩, ⟨fun q e hq => ?_, fun q e hn hq => ?_⟩⟩
  · rw [hlookup, hq]
    rfl
  · rw [hlookup, hn] at hq
    exact h'.added q e (h.lookup_eq_none hn) hq
  · rw [hlookup]
    cases ht : t'.lookup q with
    | none => exact hq
    | some a =>
      cases hn : t.lookup q with
      | none => rw [h.added q a hn ht, h'.added q e hn hq, Option.some_or]
      | some a' =>
        rw [h.kept q a' hn] at ht
        rw [h'.kept q a' hn] at hq
        rw [← ht, hq, Option.some_or]
  · rw [hlookup, hn, Option.or_none] at hq
    exact h.added q e (h'.lookup_eq_none hn) hq

end Growth

section Walks

def walk (t : FileTree) (here : Place) (ns : List Bytes) : Except SystemError Place := ns.foldlM t.enter here

variable {ns ns' : List Bytes}

lemma walk_append : t.walk here (ns ++ ns') = t.walk here ns >>= fun there => t.walk there ns' :=
  List.foldlM_append

lemma enter_dot (here : Place) : t.enter here Path.dot = .ok here := by rw [enter, if_pos rfl]

lemma walk_dots (here : Place) (k : ℕ) : t.walk here (List.replicate k Path.dot) = .ok here := by
  induction k with
  | zero => rfl
  | succ k ih =>
    rw [List.replicate_succ, walk, List.foldlM_cons, enter_dot]
    exact ih

lemma enter_of_keepsDirs (h : t.KeepsDirs t') (hw : t.enter here name = .ok there) :
    t'.enter here name = .ok there := by
  rw [enter.eq_def] at hw ⊢
  split_ifs at hw ⊢ with hdot hdots hlong
  · exact hw
  · exact hw
  · split at hw
    · cases hw
    · cases hw
    · next hd =>
      rw [h _ hd]
      exact hw

lemma walk_of_keepsDirs (h : t.KeepsDirs t') (hw : t.walk here ns = .ok there) :
    t'.walk here ns = .ok there := by
  induction ns generalizing here with
  | nil => exact hw
  | cons n ns ih =>
    rw [walk, List.foldlM_cons] at hw ⊢
    obtain ⟨next, hn, hw⟩ := bind_eq_ok hw
    rw [enter_of_keepsDirs h hn]
    exact ih hw

lemma enter_error_of_grows {err : SystemError} (h : t.Grows t') (hw : t.enter here name = .error err) :
    err = .notFound ∨ t'.enter here name = .error err := by
  rw [enter.eq_def] at hw ⊢
  split_ifs at hw ⊢ with hdot hdots hlong
  · exact Or.inr hw
  · split at hw
    · cases hw
      exact Or.inl rfl
    · next hf =>
      rw [h.kept _ _ hf]
      exact Or.inr hw
    · cases hw

lemma walk_error_of_grows {err : SystemError} (h : t.Grows t') (hw : t.walk here ns = .error err) :
    err = .notFound ∨ t'.walk here ns = .error err := by
  induction ns generalizing here with
  | nil => cases hw
  | cons n ns ih =>
    rw [walk, List.foldlM_cons] at hw ⊢
    cases hn : t.enter here n with
    | ok next =>
      rw [hn] at hw
      rw [enter_of_keepsDirs h.keepsDirs hn]
      exact ih hw
    | error err' =>
      rw [hn] at hw
      cases hw
      exact (enter_error_of_grows h hn).imp_right fun hn' => by rw [hn']; rfl

end Walks

section Paths

structure Fits (p : Path) : Prop where
  noZero : 0 ∉ p
  ne_nil : p ≠ []
  short : p.length < pathLimit

lemma locate_of_not_fits (h : ¬ Fits p) : ∃ c, ∀ t : FileTree, t.locate p = .error c := by
  by_cases hz : 0 ∈ p
  · exact ⟨_, fun t => by rw [locate, if_pos hz]⟩
  by_cases hn : p = []
  · exact ⟨_, fun t => by rw [locate, if_neg hz, if_pos hn]⟩
  · have hl : pathLimit ≤ p.length := by
      by_contra hl
      exact h ⟨hz, hn, by omega⟩
    exact ⟨_, fun t => by rw [locate, if_neg hz, if_neg hn, if_pos hl]⟩

def targetAt (here : Place) (last : Bytes) : Target :=
  if last = Path.dot then .dir here else if last = Path.dotDot then .dir here.dropLast else .entry here last

lemma locate_of_names_nil (h : Fits p) (hn : names p = []) : t.locate p = .ok (.dir []) := by
  have hs := h.short
  rw [locate, if_neg h.noZero, if_neg h.ne_nil, if_neg (by omega), hn]
  rfl

lemma locate_of_names (h : Fits p) {ns : List Bytes} {last : Bytes} (hn : names p = ns ++ [last]) :
    t.locate p = ((t.walk [] ns).map (targetAt · last)).mapError .system := by
  have hs := h.short
  rw [locate, if_neg h.noZero, if_neg h.ne_nil, if_neg (by omega), hn, List.getLast?_concat, List.dropLast_concat]
  simp only [walk]
  cases List.foldlM t.enter [] ns with
  | error => rfl
  | ok here =>
    simp only [targetAt, Except.map, Except.mapError]
    split_ifs <;> rfl

lemma locate_of_keepsDirs (h : t.KeepsDirs t') (hp : t.locate p = .ok x) : t'.locate p = .ok x := by
  by_cases hf : Fits p
  · rcases List.eq_nil_or_concat' (names p) with hn | ⟨ns, last, hn⟩
    · rw [locate_of_names_nil hf hn] at hp ⊢
      exact hp
    · rw [locate_of_names hf hn] at hp ⊢
      cases hw : t.walk [] ns with
      | error => simp [hw, Except.map, Except.mapError] at hp
      | ok here =>
        rw [walk_of_keepsDirs h hw]
        rwa [hw] at hp
  · obtain ⟨c, hc⟩ := locate_of_not_fits hf
    rw [hc] at hp
    cases hp

lemma locate_error_of_grows (h : t.Grows t') (hp : t.locate p = .error c) :
    c = .system .notFound ∨ t'.locate p = .error c := by
  by_cases hf : Fits p
  · rcases List.eq_nil_or_concat' (names p) with hn | ⟨ns, last, hn⟩
    · simp [locate_of_names_nil hf hn] at hp
    · rw [locate_of_names hf hn] at hp ⊢
      cases hw : t.walk [] ns with
      | ok here => simp [hw, Except.map, Except.mapError] at hp
      | error err =>
        rw [hw] at hp
        cases hp
        refine (walk_error_of_grows h hw).imp (fun he => by rw [he]) fun hw' => ?_
        rw [hw']
        rfl
  · obtain ⟨c', hc⟩ := locate_of_not_fits hf
    rw [hc] at hp ⊢
    exact Or.inr hp

def LeadsTo (t : FileTree) (p : Path) (place : Place) : Prop :=
  ∃ parent name, t.locate p = .ok (.entry parent name) ∧ place = parent ++ [name]

lemma LeadsTo.of_keepsDirs (h : t.LeadsTo p place) (hk : t.KeepsDirs t') : t'.LeadsTo p place := by
  obtain ⟨parent, name, hl, rfl⟩ := h
  exact ⟨parent, name, locate_of_keepsDirs hk hl, rfl⟩

end Paths

section Files

def FileAt (t : FileTree) (p : Path) (place : Place) : Prop :=
  ∃ parent name, t.locate p = .ok (.entry parent name) ∧ name.length ≤ nameLimit ∧ endsOpen p = false ∧
    place = parent ++ [name]

lemma FileAt.ne_nil (h : t.FileAt p place) : place ≠ [] := by
  obtain ⟨parent, name, -, -, -, rfl⟩ := h
  simp

lemma FileAt.of_keepsDirs (h : t.FileAt p place) (hk : t.KeepsDirs t') : t'.FileAt p place := by
  obtain ⟨parent, name, hl, hn, ho, rfl⟩ := h
  exact ⟨parent, name, locate_of_keepsDirs hk hl, hn, ho, rfl⟩

lemma find_eq_ok_iff {parent : Place} {found : Option Entry} :
    t.find parent name = .ok found ↔ name.length ≤ nameLimit ∧ t.lookup (parent ++ [name]) = found := by
  rw [find]
  split_ifs with hl
  · exact ⟨fun h => (nomatch h), fun h => absurd h.1 (by omega)⟩
  · exact ⟨fun h => ⟨by omega, Except.ok.inj h⟩, fun h => congrArg _ h.2⟩

lemma readFile_eq_ok_iff : t.readFile p = .ok b ↔ ∃ place, t.FileAt p place ∧ t.lookup place = some (.file b) := by
  constructor
  · intro h
    obtain ⟨x, hx, h⟩ := bind_eq_ok h
    cases x with
    | dir => cases h
    | entry parent name =>
      obtain ⟨found, hf, h⟩ := bind_eq_ok h
      obtain ⟨hl, rfl⟩ := find_eq_ok_iff.mp hf
      split at h
      · cases h
      · cases h
      · next hc =>
        split_ifs at h with ho
        cases h
        exact ⟨_, ⟨parent, name, hx, hl, by simpa using ho, rfl⟩, hc⟩
  · rintro ⟨_, ⟨parent, name, hx, hl, ho, rfl⟩, hc⟩
    simp [readFile, hx, find_eq_ok_iff.mpr ⟨hl, hc⟩, ho, bind, Except.bind]

lemma writeFile_eq_ok_iff :
    t.writeFile p b = .ok t' ↔
      ∃ place, t.FileAt p place ∧ t.lookup place ≠ some .dir ∧ t' = t.insert place (.file b) := by
  constructor
  · intro h
    obtain ⟨x, hx, h⟩ := bind_eq_ok h
    cases x with
    | dir => cases h
    | entry parent name =>
      dsimp only at h
      split_ifs at h with ho
      obtain ⟨found, hf, h⟩ := bind_eq_ok h
      obtain ⟨hl, rfl⟩ := find_eq_ok_iff.mp hf
      split at h
      · cases h
      · next hd =>
        cases h
        exact ⟨_, ⟨parent, name, hx, hl, by simpa using ho, rfl⟩, hd, rfl⟩
  · rintro ⟨_, ⟨parent, name, hx, hl, ho, rfl⟩, hd, rfl⟩
    simp only [writeFile, hx, find_eq_ok_iff.mpr ⟨hl, rfl⟩, ho, bind, Except.bind, Bool.false_eq_true, if_false]

lemma readFile_of_wrote (hp : t.FileAt p place) (h : t.Wrote place b t') : t'.readFile p = .ok b := by
  refine readFile_eq_ok_iff.mpr ⟨place, hp.of_keepsDirs h.keepsDirs, ?_⟩
  rw [h.lookup_eq, if_pos rfl]

lemma readFile_of_grows (h : t.Grows t') (hp : t.readFile p = .ok b) : t'.readFile p = .ok b := by
  obtain ⟨place, hp, hb⟩ := readFile_eq_ok_iff.mp hp
  exact readFile_eq_ok_iff.mpr ⟨place, hp.of_keepsDirs h.keepsDirs, h.kept _ _ hb⟩

end Files

section Directories

def leadsToDir (t : FileTree) : Target → Bool
  | .dir _ => true
  | .entry parent name => name.length ≤ nameLimit ∧ t.lookup (parent ++ [name]) = some .dir

lemma isDir_of_locate (hp : t.locate p = .ok x) : t.isDir p = t.leadsToDir x := by
  rw [isDir, hp]
  cases x with
  | dir => rfl
  | entry parent name =>
    by_cases hl : name.length ≤ nameLimit
    · simp only [find_eq_ok_iff.mpr ⟨hl, rfl⟩, leadsToDir, hl, true_and]
      split <;> simp_all
    · have hf : t.find parent name = .error (.system .nameTooLong) := if_pos (by omega)
      simp [hf, leadsToDir, hl]

lemma isDir_of_locate_error (hp : t.locate p = .error c) : t.isDir p = false := by rw [isDir, hp]

lemma leadsToDir_targetAt (here : Place) (last : Bytes) :
    t.leadsToDir (targetAt here last) = true ↔ ∃ there, t.enter here last = .ok there := by
  rw [targetAt, enter.eq_def]
  split_ifs with hdot hdots hlong
  · simp [leadsToDir]
  · simp [leadsToDir]
  · have hl : ¬ last.length ≤ nameLimit := by omega
    simp [leadsToDir, hl]
  · have hl : last.length ≤ nameLimit := by omega
    simp only [leadsToDir, hl, true_and]
    split <;> simp_all

lemma isDir_eq_true_iff : t.isDir p = true ↔ Fits p ∧ ∃ here, t.walk [] (names p) = .ok here := by
  by_cases hf : Fits p
  · simp only [hf, true_and]
    rcases List.eq_nil_or_concat' (names p) with hn | ⟨ns, last, hn⟩
    · rw [isDir_of_locate (locate_of_names_nil hf hn), hn]
      simp [leadsToDir, walk, pure, Except.pure]
    · have hl := locate_of_names (t := t) hf hn
      rw [hn, walk_append]
      cases hw : t.walk [] ns with
      | error e =>
        rw [hw] at hl
        rw [isDir_of_locate_error hl]
        simp [bind, Except.bind]
      | ok here =>
        rw [hw] at hl
        rw [isDir_of_locate hl, leadsToDir_targetAt]
        cases hn : t.enter here last <;> simp [walk, hn, bind, Except.bind, pure, Except.pure]
  · obtain ⟨c, hc⟩ := locate_of_not_fits hf
    simp [isDir_of_locate_error (hc t), hf]

lemma isDir_of_keepsDirs (h : t.KeepsDirs t') (hp : t.isDir p = true) : t'.isDir p = true := by
  rw [isDir_eq_true_iff] at hp ⊢
  obtain ⟨hf, here, hw⟩ := hp
  exact ⟨hf, here, walk_of_keepsDirs h hw⟩

lemma createDir_of_target {parent : Place} (hp : t.locate p = .ok (.entry parent name)) :
    t.createDir p =
      if nameLimit < name.length then .error (.system .nameTooLong)
      else if t.lookup (parent ++ [name]) = none then .ok (t.insert (parent ++ [name]) .dir)
      else .error (.system .alreadyThere) := by
  simp only [createDir, hp, find, bind, Except.bind]
  split_ifs with hl hn
  · rfl
  · simp only [hn]
  · obtain ⟨e, he⟩ := Option.ne_none_iff_exists'.mp hn
    simp only [he]

lemma createDir_of_dir (hp : t.locate p = .ok (.dir here)) : t.createDir p = .error (.system .alreadyThere) := by
  simp only [createDir, hp, bind, Except.bind]

lemma createDir_of_error (hp : t.locate p = .error c) : t.createDir p = .error c := by
  simp only [createDir, hp, bind, Except.bind]

lemma createDir_of_isDir (h : t.isDir p = true) : t.createDir p = .error (.system .alreadyThere) := by
  cases hp : t.locate p with
  | error c => simp [isDir_of_locate_error hp] at h
  | ok x =>
    rw [isDir_of_locate hp] at h
    cases x with
    | dir => exact createDir_of_dir hp
    | entry parent name =>
      obtain ⟨hl, hd⟩ := of_decide_eq_true h
      rw [createDir_of_target hp, if_neg (by omega), if_neg (by simp [hd])]

lemma exists_of_createDir (h : t.createDir p = .ok t') :
    ∃ place, t.LeadsTo p place ∧ place ≠ [] ∧ t.lookup place = none ∧ t' = t.insert place .dir ∧
      t'.isDir p = true := by
  cases hp : t.locate p with
  | error => simp [createDir_of_error hp] at h
  | ok x =>
    cases x with
    | dir => simp [createDir_of_dir hp] at h
    | entry parent name =>
      rw [createDir_of_target hp] at h
      split_ifs at h with hl hn
      cases h
      have hne : parent ++ [name] ≠ [] := by simp
      have hg := grows_insert_dir hne hn
      refine ⟨_, ⟨parent, name, hp, rfl⟩, hne, hn, rfl, ?_⟩
      rw [isDir_of_locate (locate_of_keepsDirs hg.keepsDirs hp), leadsToDir, lookup_insert hne]
      simpa using hl

lemma grows_of_createDir (h : t.createDir p = .ok t') : t.Grows t' := by
  obtain ⟨place, -, hne, hn, rfl, -⟩ := exists_of_createDir h
  exact grows_insert_dir hne hn

lemma isDir_of_createDir (h : t.createDir p = .ok t') : t'.isDir p = true := by
  obtain ⟨place, -, -, -, -, hd⟩ := exists_of_createDir h
  exact hd

/-- What keeps a path from being made a directory is there to stay, unless something is missing. -/
lemma isDir_of_grows (hp : t.createDir p = .error c) (hc : c ≠ .system .notFound) (h : t.Grows t')
    (hd : t'.isDir p = true) : t.isDir p = true := by
  cases hl : t.locate p with
  | error c' =>
    rw [createDir_of_error hl] at hp
    cases hp
    rcases locate_error_of_grows h hl with rfl | hl'
    · exact absurd rfl hc
    · simp [isDir_of_locate_error hl'] at hd
  | ok x =>
    rw [isDir_of_locate (locate_of_keepsDirs h.keepsDirs hl)] at hd
    rw [isDir_of_locate hl]
    cases x with
    | dir => rfl
    | entry parent name =>
      simp only [leadsToDir, decide_eq_true_eq] at hd ⊢
      rw [createDir_of_target hl, if_neg (by omega)] at hp
      split_ifs at hp with hn
      obtain ⟨e, he⟩ := Option.ne_none_iff_exists'.mp hn
      rw [h.kept _ _ he] at hd
      exact ⟨hd.1, he.trans hd.2⟩

end Directories

end BenchReport.FileTree
