import BenchReport.Run
import BenchReport.World
import Mathlib.Data.List.Basic

namespace BenchReport

abbrev Worldly (ε α : Type) : Type := ExceptT ε (StateM World) α

namespace Worldly

variable {ε ε' α β : Type} {w w' : World} {e : ε} {a : α}

def eval (x : Worldly ε α) (w : World) : Except ε α × World := x.run.run w

lemma eval_bind (x : Worldly ε α) (f : α → Worldly ε β) :
    eval (x >>= f) w =
      match eval x w with
      | (.ok a, w') => eval (f a) w'
      | (.error e, w') => (.error e, w') := by
  simp only [eval, ExceptT.run_bind, StateT.run_bind]
  rcases hx : StateT.run x.run w with ⟨_ | _, _⟩ <;> rfl

lemma eval_bind_of_ok {x : Worldly ε α} {f : α → Worldly ε β} (h : eval x w = (.ok a, w')) :
    eval (x >>= f) w = eval (f a) w' := by rw [eval_bind, h]

lemma eval_bind_of_error {x : Worldly ε α} {f : α → Worldly ε β} (h : eval x w = (.error e, w')) :
    eval (x >>= f) w = (.error e, w') := by rw [eval_bind, h]

lemma exists_of_eval_bind {x : Worldly ε α} {f : α → Worldly ε β} {b : β} (h : eval (x >>= f) w = (.ok b, w')) :
    ∃ a w₁, eval x w = (.ok a, w₁) ∧ eval (f a) w₁ = (.ok b, w') := by
  rcases hx : eval x w with ⟨e | a, w₁⟩
  · rw [eval_bind_of_error hx] at h
    cases h
  · rw [eval_bind_of_ok hx] at h
    exact ⟨a, w₁, rfl, h⟩

lemma eval_adapt (g : ε → ε') (x : Worldly ε α) (w : World) :
    eval (x.adapt g) w = ((eval x w).1.mapError g, (eval x w).2) := rfl

lemma eval_adapt_of_ok {x : Worldly ε α} (g : ε → ε') (h : eval x w = (.ok a, w')) :
    eval (x.adapt g) w = (.ok a, w') := by
  rw [eval_adapt, h]
  rfl

lemma eval_adapt_of_error {x : Worldly ε α} (g : ε → ε') (h : eval x w = (.error e, w')) :
    eval (x.adapt g) w = (.error (g e), w') := by
  rw [eval_adapt, h]
  rfl

lemma eval_of_adapt_ok {g : ε → ε'} {x : Worldly ε α} (h : eval (x.adapt g) w = (.ok a, w')) :
    eval x w = (.ok a, w') := by
  rw [eval_adapt] at h
  rcases hx : eval x w with ⟨e | a', w₁⟩
  · rw [hx] at h
    cases h
  · rw [hx] at h
    cases h
    rfl

end Worldly

section Primitives

open Worldly

variable {w : World} {p : Path} {b : Bytes} {f : Cause → Failure} {t : FileTree} {c : Cause}

lemma eval_readFile : eval (attempt f (Host.readFile p)) w = ((w.tree.readFile p).mapError f, w) := rfl

lemma eval_attempt (f : Cause → Failure) {α : Type} (step : StateM World (Except Cause α)) :
    eval (attempt f step) w = ((step.run w).1.mapError f, (step.run w).2) := rfl

lemma World.run_bind {α β : Type} (x : StateM World α) (k : α → StateM World β) :
    (x >>= k).run w = (k (x.run w).1).run (x.run w).2 := rfl

lemma World.run_settle_error : (World.settle (.error c)).run w = (.error c, w) := rfl

lemma World.run_createDir :
    StateT.run (Host.createDir p) w = StateT.run (World.settle (w.tree.createDir p)) w := rfl

lemma World.run_writeFile :
    StateT.run (Host.writeFile p b) w = StateT.run (World.settle (w.tree.writeFile p b)) w := rfl

lemma eval_writeFile_of_ok (h : w.tree.writeFile p b = .ok t) :
    eval (attempt f (Host.writeFile p b)) w = (.ok (), { w with tree := t }) := by
  rw [eval_attempt, World.run_writeFile, h]
  rfl

lemma eval_writeFile_of_error (h : w.tree.writeFile p b = .error c) :
    eval (attempt f (Host.writeFile p b)) w = (.error (f c), w) := by
  rw [eval_attempt, World.run_writeFile, h]
  rfl

end Primitives

section Reading

open Worldly

variable {w : World} {p : Path} {b : Bytes} {text : String} {c : Cause}

lemma eval_readText_of_text (h : w.tree.readFile p = .ok (Bytes.ofString text)) :
    eval (readText p) w = (.ok text, w) := by
  have hr : eval (attempt (.readInput p) (Host.readFile p)) w = (.ok (Bytes.ofString text), w) := by
    rw [eval_readFile, h]
    rfl
  rw [readText, eval_bind_of_ok hr, Bytes.text?_ofString]
  rfl

lemma eval_readText_of_error (h : w.tree.readFile p = .error c) :
    eval (readText p) w = (.error (.readInput p c), w) := by
  have hr : eval (attempt (.readInput p) (Host.readFile p)) w = (.error (.readInput p c), w) := by
    rw [eval_readFile, h]
    rfl
  rw [readText, eval_bind_of_error hr]

lemma eval_readText_of_notText (h : w.tree.readFile p = .ok b) (hb : b.text? = none) :
    eval (readText p) w = (.error (.readInput p .notText), w) := by
  have hr : eval (attempt (.readInput p) (Host.readFile p)) w = (.ok b, w) := by
    rw [eval_readFile, h]
    rfl
  rw [readText, eval_bind_of_ok hr, hb]
  rfl

lemma eval_readReport (h : w.tree.readFile p = .ok (Bytes.ofString text)) :
    eval (readReport p) w = ((Report.read text).mapError (.invalidReport p), w) := by
  rw [readReport, eval_bind_of_ok (eval_readText_of_text h)]
  cases Report.read text <;> rfl

end Reading

end BenchReport
