import BenchReport.Proofs.Sinks

namespace BenchReport

open Gauge

section Printing

variable {S : Type} [Host (StateM S)] [Limited S] {s : S} {text : Bytes} {k : ℕ}

def printAll (bs : List Bytes) : ExceptT Failure (StateM S) Unit := bs.forM fun b => attempt .summary (Host.print b)

lemma prints_printAll (bs : List Bytes) : Prints (S := S) (printAll bs) bs.flatten := by
  induction bs with
  | nil => exact .pure
  | cons b bs ih => exact (Prints.print b).seq ih

/-- A text printed on a sink with so much room: its beginning has arrived, and if there is more of it the failure is
what the sink, now full, has answered last. -/
structure Cut (text : Bytes) (k : ℕ) (s : S) (r : Except Failure Unit × S) : Prop where
  taken_eq : taken r.2 = taken s ++ text.take k
  ok_iff : r.1 = .ok () ↔ text.length ≤ k
  failure : k < text.length → ∃ s₁ b c, b ≠ [] ∧ room s₁ = some 0 ∧ taken s₁ = taken r.2 ∧ r.1 = .error (.summary c) ∧
    (Limited.offer s₁ b = (.refused c, r.2) ∨
      Limited.offer s₁ b = (.took 0, r.2) ∧ c.message = "failed to write whole buffer")

lemma Prints.cut {x : ExceptT Failure (StateM S) Unit} (hx : Prints x text) (hk : room s = some k) :
    Cut text k s (outcome x s) := by
  have h := hx s
  generalize outcome x s = r at h ⊢
  obtain ⟨r, s'⟩ := r
  cases h with
  | whole hroom ht =>
    have hl := hroom k hk
    refine ⟨?_, iff_of_true rfl hl, fun hlt => absurd hl (Nat.not_le.mpr hlt)⟩
    rw [List.take_of_length_le hl]
    exact ht.taken_eq
  | @cut s₁ _ _ b a c hk' hl ht hb ho hc =>
    obtain rfl := Option.some.inj (hk.symm.trans hk')
    obtain ⟨hfull, hsame⟩ := Limited.of_failed hb ho hc
    refine ⟨ht.taken_eq, iff_of_false (fun he => by cases he) (Nat.not_le.mpr hl), fun _ => ?_⟩
    refine ⟨s₁, b, c, hb, hfull, ?_, rfl, ?_⟩
    · rw [hsame.taken_eq, List.append_nil]
    · cases a with
      | interrupted => cases hc
      | refused c' =>
        cases hc
        exact Or.inl ho
      | took n =>
        cases n with
        | zero =>
          cases hc
          exact Or.inr ⟨ho, rfl⟩
        | succ n => cases hc

theorem summary_cut (ms : List Measurement) (h : room s = some k) :
    Cut (Bytes.ofString (Summary.write ms)) k s (outcome (writeSummary ms) s) ∧
      ∀ bs : List Bytes, bs.flatten = Bytes.ofString (Summary.write ms) →
        Cut (Bytes.ofString (Summary.write ms)) k s (outcome (printAll bs) s) := by
  refine ⟨(prints_writeSummary ms).cut h, fun bs hbs => ?_⟩
  have hprints : Prints (S := S) (printAll bs) _ := prints_printAll bs
  rw [hbs] at hprints
  exact hprints.cut h

end Printing

def brimful : World where
  sink := { room := some 33, stalls := true }

theorem summary_cut_in_a_character :
    Gauge.room brimful = some 33 ∧
      Cut (Bytes.ofString (Summary.write [⟨"é\n", 7, 1⟩])) 33 brimful (outcome (writeSummary [⟨"é\n", 7, 1⟩]) brimful) ∧
      ∀ bs : List Bytes, bs.flatten = Bytes.ofString (Summary.write [⟨"é\n", 7, 1⟩]) →
        Cut (Bytes.ofString (Summary.write [⟨"é\n", 7, 1⟩])) 33 brimful (outcome (printAll bs) brimful) := by
  have hroom : Gauge.room brimful = some 33 := rfl
  exact ⟨hroom, summary_cut _ hroom⟩

end BenchReport
