import BenchReport.Proofs.Lineage
import BenchReport.Proofs.Sinks

/-! A run as a list of stages: each takes effect in full, or stops the run with an effect that is confined. -/

namespace BenchReport

open FileTree Worldly

structure Scene where
  tree : FileTree
  sink : Sink
  now : Instant

def World.scene (w : World) : Scene := ⟨w.tree, w.sink, w.now⟩

structure Extends (p : Path) (t t' : FileTree) : Prop extends t.Grows t' where
  through : ∀ place, t.lookup place = none → t'.lookup place ≠ none →
    ∃ q, p.parent? = some q ∧ ∃ d ∈ q.lineage, t'.LeadsTo d place

lemma Extends.refl (p : Path) (t : FileTree) : Extends p t t := ⟨.refl t, fun _ hn hs => absurd hn hs⟩

inductive Stage
  | read (p : Path)
  | makeParent (p : Path)
  | write (p : Path) (content : Bytes)
  | print (text : Bytes)

namespace Stage

/-- Whether a stage can succeed at all. A directory can be had if there are directories that could be
added to the tree so that the path leads to one. -/
def Possible : Stage → Scene → Prop
  | read p, x => ∃ text, x.tree.readFile p = .ok (Bytes.ofString text)
  | makeParent p, x => ∃ t, x.tree.Grows t ∧ ∀ q, p.parent? = some q → q ≠ [] → t.isDir q = true
  | write p _, x => ∃ place, x.tree.FileAt p place ∧ x.tree.lookup place ≠ some .dir
  | print b, x => x.sink.HasRoom b.length

inductive Done : Stage → Scene → Scene → Prop
  | read {p : Path} {x : Scene} {text : String} : x.tree.readFile p = .ok (Bytes.ofString text) → Done (.read p) x x
  | makeParent {p : Path} {x : Scene} {t : FileTree} : Extends p x.tree t →
      (∀ q, p.parent? = some q → q ≠ [] → t.isDir q = true) → Done (.makeParent p) x { x with tree := t }
  | write {p : Path} {b : Bytes} {x : Scene} {t : FileTree} {place : Place} : x.tree.FileAt p place →
      x.tree.Wrote place b t → Done (.write p b) x { x with tree := t }
  | print {b : Bytes} {x : Scene} {s : Sink} : x.sink.HasRoom b.length → x.sink.Took b s →
      Done (.print b) x { x with sink := s }

inductive Left : Stage → Scene → Scene → Prop
  | read {p : Path} {x : Scene} : Left (.read p) x x
  | makeParent {p : Path} {x : Scene} {t : FileTree} : Extends p x.tree t → Left (.makeParent p) x { x with tree := t }
  | write {p : Path} {b : Bytes} {x : Scene} : Left (.write p b) x x
  | print {b c : Bytes} {x : Scene} {s : Sink} : c <+: b → c ≠ b → x.sink.Took c s →
      Left (.print b) x { x with sink := s }

inductive Fails : Stage → Scene → Failure → Prop
  | unreadable {p : Path} {x : Scene} {c : Cause} : x.tree.readFile p = .error c → Fails (.read p) x (.readInput p c)
  | notText {p : Path} {x : Scene} {b : Bytes} : x.tree.readFile p = .ok b → b.text? = none →
      Fails (.read p) x (.readInput p .notText)
  | makeParent {p q : Path} {x : Scene} {c : Cause} : p.parent? = some q → Fails (.makeParent p) x (.createDir q c)
  | write {p : Path} {b : Bytes} {x : Scene} {c : Cause} : x.tree.writeFile p b = .error c →
      Fails (.write p b) x (.writeOutput p c)
  | print {b : Bytes} {x : Scene} : Fails (.print b) x (.summary (.sink x.sink.refusal))

lemma Done.now_eq {a : Stage} {x y : Scene} (h : a.Done x y) : y.now = x.now := by cases h <;> rfl

lemma Left.now_eq {a : Stage} {x y : Scene} (h : a.Left x y) : y.now = x.now := by cases h <;> rfl

end Stage

structure Task (ε : Type) where
  stage : Stage
  told : Failure → ε

inductive Runs {ε : Type} : List (Task ε) → Scene → Option ε → Scene → Prop
  | nil {x : Scene} : Runs [] x none x
  | done {a : Task ε} {as : List (Task ε)} {x y z : Scene} {r : Option ε} : a.stage.Done x y → Runs as y r z →
      Runs (a :: as) x r z
  | stop {a : Task ε} {as : List (Task ε)} {x y : Scene} {f : Failure} : ¬ a.stage.Possible x →
      a.stage.Left x y → a.stage.Fails x f → Runs (a :: as) x (some (a.told f)) y

namespace Runs

variable {ε ε' : Type} {as bs : List (Task ε)} {x y z : Scene} {r : Option ε} {e : ε}

lemma append (h : Runs as x none y) (h' : Runs bs y r z) : Runs (as ++ bs) x r z := by
  generalize hr : none = r' at h
  induction h with
  | nil => exact h'
  | done ha _ ih => exact .done ha (ih h' hr)
  | stop => cases hr

lemma append_of_some (h : Runs as x (some e) y) (bs : List (Task ε)) : Runs (as ++ bs) x (some e) y := by
  generalize hr : some e = r at h ⊢
  induction h with
  | nil => cases hr
  | done ha _ ih => exact .done ha (ih hr)
  | stop hn hl hf => exact .stop hn hl hf

lemma adapt (g : ε → ε') (h : Runs as x r y) : Runs (as.map fun a => ⟨a.stage, g ∘ a.told⟩) x (r.map g) y := by
  induction h with
  | nil => exact .nil
  | done ha _ ih => exact .done ha ih
  | stop hn hl hf => exact .stop (a := ⟨_, g ∘ _⟩) hn hl hf

lemma cons_some {a : Task ε} (h : Runs (a :: as) x (some e) z) :
    (∃ y, a.stage.Done x y ∧ Runs as y (some e) z) ∨
      ¬ a.stage.Possible x ∧ ∃ f, a.stage.Left x z ∧ a.stage.Fails x f ∧ e = a.told f := by
  cases h with
  | done ha hr => exact Or.inl ⟨_, ha, hr⟩
  | stop hn hl hf => exact Or.inr ⟨hn, _, hl, hf, rfl⟩

lemma cons_of_possible {a : Task ε} (h : Runs (a :: as) x r z) (ha : a.stage.Possible x) :
    ∃ y, a.stage.Done x y ∧ Runs as y r z := by
  cases h with
  | done ha hr => exact ⟨_, ha, hr⟩
  | stop hn => exact absurd ha hn

lemma eq_none_of_nil (h : Runs [] x r z) : r = none := by
  cases h
  rfl

lemma eq_of_nil (h : Runs [] x r z) : z = x := by
  cases h
  rfl

lemma cons_none {a : Task ε} (h : Runs (a :: as) x none z) : ∃ y, a.stage.Done x y ∧ Runs as y none z := by
  cases h with
  | done ha hr => exact ⟨_, ha, hr⟩

lemma now_eq (h : Runs as x r y) : y.now = x.now := by
  induction h with
  | nil => rfl
  | done ha _ ih => exact ih.trans ha.now_eq
  | stop _ hl => exact hl.now_eq

end Runs

end BenchReport
