import BenchReport.Command
import BenchReport.Proofs.Performing

namespace BenchReport

open FileTree Worldly

variable {input output p : Path} {settings : Command.Settings} {args : List Bytes} {ms : List Measurement}
variable {w w' : World}

namespace Command

def plan (input output : Path) (table : Option Path) (ms : List Measurement) (now : Instant) : List (Task Trouble) :=
  (extraction input output ms).map (⟨·, .extraction input⟩) ++
    match table with
    | none => []
    | some p => (tabulation p ms now).map (⟨·, .table⟩)

lemma performs_run (h : paths? args = some (input, output)) (w : World) :
    Performs (run args settings) w
      (plan input output settings.table (Measurement.extract (w.tree.textAt input)) w.now) := by
  rw [run, h]
  refine Performs.bind (performs_extractTo input output w |>.adapt _) fun ms w' he => ?_
  obtain ⟨rfl, hnow⟩ := eq_of_eval_extractTo (eval_of_adapt_ok he)
  cases settings.table with
  | none => exact .pure 0 w'
  | some p =>
    rw [← hnow]
    exact Performs.bind (performs_writeTable _ p w' |>.adapt _) fun _ w'' _ => .pure 0 w''

lemma status_eq_zero {n : ℕ} (hp : paths? args = some (input, output))
    (h : eval (run args settings : Worldly Trouble ℕ) w = (.ok n, w')) : n = 0 := by
  rw [run, hp] at h
  obtain ⟨_, w₁, -, h⟩ := exists_of_eval_bind h
  split at h
  · cases h
    rfl
  · obtain ⟨_, w₂, -, h⟩ := exists_of_eval_bind h
    cases h
    rfl

inductive Aftermath (input output : Path) (table : Option Path) (ms : List Measurement) (x y : Scene) : Trouble → Prop
  | unread {c : Cause} : y = x → Aftermath input output table ms x y (.extraction input (.readInput input c))
  | noParent {q : Path} {c : Cause} : output.parent? = some q → x.tree.Grows y.tree → y.sink = x.sink →
      Aftermath input output table ms x y (.extraction input (.createDir q c))
  | unwritten {c : Cause} : x.tree.Grows y.tree → y.sink = x.sink →
      Aftermath input output table ms x y (.extraction input (.writeOutput output c))
  | unprinted {c : Cause} {b : Bytes} : y.tree.readFile output = .ok (Bytes.ofString (Report.write ms)) →
      b <+: Bytes.ofString (Summary.write ms) → b ≠ Bytes.ofString (Summary.write ms) → x.sink.Took b y.sink →
      Aftermath input output table ms x y (.extraction input (.summary c))
  | noTableParent {p q : Path} {c : Cause} : table = some p → p.parent? = some q →
      y.tree.readFile output = .ok (Bytes.ofString (Report.write ms)) →
      x.sink.Took (Bytes.ofString (Summary.write ms)) y.sink → Aftermath input output table ms x y (.table (.createDir q c))
  | noTable {p : Path} {c : Cause} : table = some p →
      y.tree.readFile output = .ok (Bytes.ofString (Report.write ms)) →
      x.sink.Took (Bytes.ofString (Summary.write ms)) y.sink → Aftermath input output table ms x y (.table (.writeOutput p c))

variable {table : Option Path} {now : Instant} {x y : Scene} {e : Trouble}

lemma aftermath_of_runs (h : Runs (plan input output table ms now) x (some e) y) :
    Aftermath input output table ms x y e := by
  -- stage by stage: first the case that it stops the run, then what it has done if it does not
  rcases h.cons_some with ⟨_, hd, h⟩ | ⟨-, f, hl, hf, rfl⟩
  swap
  · cases hl
    cases hf <;> exact .unread rfl
  cases hd
  rcases h.cons_some with ⟨_, hd, h⟩ | ⟨-, f, hl, hf, rfl⟩
  swap
  · cases hf with
    | makeParent hp =>
      cases hl with
      | makeParent hg => exact .noParent hp hg.toGrows rfl
  obtain _ | ⟨hg, -⟩ := hd
  rcases h.cons_some with ⟨_, hd, h⟩ | ⟨-, f, hl, hf, rfl⟩
  swap
  · cases hl
    cases hf
    exact .unwritten hg.toGrows rfl
  obtain _ | _ | ⟨hp, hw⟩ := hd
  have hreport := readFile_of_wrote hp hw
  rcases h.cons_some with ⟨_, hd, h⟩ | ⟨-, f, hl, hf, rfl⟩
  swap
  · cases hf
    cases hl with
    | print hb hne ht => exact .unprinted hreport hb hne ht
  obtain _ | _ | _ | ⟨-, ht⟩ := hd
  cases table with
  | none => cases h
  | some p =>
    rcases h.cons_some with ⟨_, hd, h⟩ | ⟨-, f, hl, hf, rfl⟩
    swap
    · cases hf with
      | makeParent hp =>
        cases hl with
        | makeParent hg => exact .noTableParent rfl hp (readFile_of_grows hg.toGrows hreport) ht
    obtain _ | ⟨hg, -⟩ := hd
    rcases h.cons_some with ⟨_, hd, h⟩ | ⟨-, f, hl, hf, rfl⟩
    swap
    · cases hl
      cases hf
      exact .noTable rfl (readFile_of_grows hg.toGrows hreport) ht
    cases h

lemma Aftermath.chain_eq (h : Aftermath input output table ms x y e) :
    ∃ f, e = .extraction input f ∧ e.chain = ["extracting benchmarks from " ++ input.shown, f.message, f.source] ∨
      e = .table f ∧ e.chain = ["writing markdown summary", f.message, f.source] := by
  cases h with
  | unread | noParent | unwritten | unprinted => exact ⟨_, Or.inl ⟨rfl, rfl⟩⟩
  | noTableParent | noTable => exact ⟨_, Or.inr ⟨rfl, rfl⟩⟩

/-- A run does its stages in order, up to the first that cannot succeed. What is left then is what the
stages before it have done, and what the one that failed can leave. -/
theorem run_stages (h : paths? args = some (input, output)) (w : World) :
    let ms := Measurement.extract (w.tree.textAt input)
    let r := eval (run args settings : Worldly Trouble ℕ) w
    Runs (plan input output settings.table ms w.now) w.scene (failure? r.1) r.2.scene ∧
      ∀ e, r.1 = .error e → Aftermath input output settings.table ms w.scene r.2.scene e ∧
        ∃ f, e = .extraction input f ∧
            e.chain = ["extracting benchmarks from " ++ input.shown, f.message, f.source] ∨
          e = .table f ∧ e.chain = ["writing markdown summary", f.message, f.source] := by
  have hr : Performs (run args settings) w _ := performs_run h w
  refine ⟨hr, fun e he => ?_⟩
  rw [Performs, he] at hr
  exact ⟨aftermath_of_runs hr, (aftermath_of_runs hr).chain_eq⟩

def cramped : World where
  tree := ⟨[([[105]], .file (Bytes.ofString "test a ... bench: 5 ns/iter (+/- 1)"))]⟩
  sink := { room := some 12 }

theorem run_stages_of_short_sink :
    paths? [[120], [105], [100, 47, 111]] = some ([105], [100, 47, 111]) ∧
      let ms := Measurement.extract "test a ... bench: 5 ns/iter (+/- 1)"
      let r := eval (run [[120], [105], [100, 47, 111]] ⟨some [109]⟩ : Worldly Trouble ℕ) cramped
      let e : Trouble := .extraction [105] (.summary (.sink .full))
      Runs (plan [105] [100, 47, 111] (some [109]) ms ⟨0, 0⟩) cramped.scene (some e) r.2.scene ∧
        Aftermath [105] [100, 47, 111] (some [109]) ms cramped.scene r.2.scene e ∧
        cramped.tree.isDir [100] = false ∧ r.2.tree.isDir [100] = true ∧
        r.2.tree.readFile [100, 47, 111] = .ok (Bytes.ofString (Report.write ms)) ∧
        r.2.sink.taken = (Bytes.ofString (Summary.write ms)).take 12 ∧ r.2.tree.lookup [[109]] = none := by
  have hp : paths? [[120], [105], [100, 47, 111]] = some ([105], [100, 47, 111]) := rfl
  refine ⟨hp, ?_⟩
  intro ms r e
  have htext : cramped.tree.textAt [105] = "test a ... bench: 5 ns/iter (+/- 1)" := by decide +kernel
  have hrun : r.1 = .error e ∧ r.2.tree.isDir [100] = true ∧
      r.2.tree.readFile [100, 47, 111] = .ok (Bytes.ofString (Report.write ms)) ∧
      r.2.sink.taken = (Bytes.ofString (Summary.write ms)).take 12 ∧ r.2.tree.lookup [[109]] = none := by decide +kernel
  obtain ⟨he, hrun⟩ := hrun
  obtain ⟨hruns, hleft⟩ := @run_stages _ _ ⟨some [109]⟩ _ hp cramped
  have hafter := (hleft e he).1
  rw [htext] at hruns hafter
  rw [he] at hruns
  exact ⟨hruns, hafter, by decide, hrun⟩

end Command

end BenchReport
