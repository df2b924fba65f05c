import BenchReport.Run
import Mathlib.Data.List.Basic

namespace BenchReport

namespace Bytes

lemma ofString_append (s t : String) : ofString (s ++ t) = ofString s ++ ofString t := by
  simp only [ofString, String.toUTF8, String.toByteArray_append, ByteArray.toList_data_append]

lemma ofString_join_cons (s : String) (ps : List String) :
    ofString (String.join (s :: ps)) = ofString s ++ ofString (String.join ps) := by
  rw [String.join_cons, ofString_append]

lemma ofString_of_text? {b : Bytes} {s : String} (h : b.text? = some s) : ofString s = b := by
  rw [text?, String.fromUTF8?] at h
  split_ifs at h
  cases h
  simp [ofString, String.fromUTF8, String.toUTF8]

lemma ofString_injective {s t : String} (h : ofString s = ofString t) : s = t := by
  have hs := text?_ofString s
  rw [h, text?_ofString] at hs
  exact (Option.some.inj hs).symm

end Bytes

inductive Answer
  | took (n : ℕ)
  | interrupted
  | refused (c : Cause)

/-- What an answer says went wrong. An interruption is no failure: the bytes are offered again. -/
def Answer.cause? : Answer → Option Cause
  | took 0 => some (.sink .stalled)
  | took (_ + 1) | interrupted => none
  | refused c => some c

inductive Offers {S : Type} (offer : S → Bytes → Answer × S) : S → Bytes → Except Cause Unit → S → Prop
  | nil {s : S} : Offers offer s [] (.ok ()) s
  | took {s s' s'' : S} {b : Bytes} {n : ℕ} {r : Except Cause Unit} : b ≠ [] → offer s b = (.took (n + 1), s') →
      Offers offer s' (b.drop (n + 1)) r s'' → Offers offer s b r s''
  | interrupted {s s' s'' : S} {b : Bytes} {r : Except Cause Unit} : b ≠ [] → offer s b = (.interrupted, s') →
      Offers offer s' b r s'' → Offers offer s b r s''
  | failed {s s' : S} {b : Bytes} {a : Answer} {c : Cause} : b ≠ [] → offer s b = (a, s') → a.cause? = some c →
      Offers offer s b (.error c) s'

class Gauge (S : Type) where
  taken : S → Bytes
  room : S → Option ℕ

open Gauge

section Gauge

variable {S : Type} [Gauge S] {s s' s'' : S} {b b' : Bytes} {k : ℕ}

structure Gained (s : S) (b : Bytes) (s' : S) : Prop where
  taken_eq : taken s' = taken s ++ b
  room_eq : room s' = (room s).map (· - b.length)

lemma Gained.refl (s : S) : Gained s [] s := ⟨(List.append_nil _).symm, by simp⟩

lemma Gained.trans (h : Gained s b s') (h' : Gained s' b' s'') : Gained s (b ++ b') s'' := by
  constructor
  · rw [h'.taken_eq, h.taken_eq, List.append_assoc]
  · rw [h'.room_eq, h.room_eq, Option.map_map]
    congr 1
    funext r
    simp only [Function.comp_apply, List.length_append]
    omega

lemma Gained.room_of_some (h : Gained s b s') (hk : room s = some k) : room s' = some (k - b.length) := by
  rw [h.room_eq, hk, Option.map_some]

end Gauge

def afterPrint {S : Type} [Host (StateM S)] (s : S) (b : Bytes) : Except Cause Unit × S :=
  StateT.run (m := Id) (Host.print b) s

/-- Surroundings that print by offering to a sink, which takes something as long as it has room. -/
class Limited (S : Type) [Host (StateM S)] extends Gauge S where
  offer : S → Bytes → Answer × S
  print_offers (s : S) (b : Bytes) : Offers offer s b (afterPrint s b).1 (afterPrint s b).2
  of_took {s s' : S} {b : Bytes} {n : ℕ} : offer s b = (.took (n + 1), s') →
    n < b.length ∧ (∀ k ∈ room s, n < k) ∧ Gained s (b.take (n + 1)) s'
  of_interrupted {s s' : S} {b : Bytes} : offer s b = (.interrupted, s') → Gained s [] s'
  of_failed {s s' : S} {b : Bytes} {a : Answer} {c : Cause} : b ≠ [] → offer s b = (a, s') → a.cause? = some c →
    room s = some 0 ∧ Gained s [] s'

section Printing

variable {S : Type} [Host (StateM S)] [Limited S] {s s' s'' : S} {b text text' : Bytes} {ε : Type}

/-- What comes of a text: all of it arrives if there is room for it, or it is cut and the sink's last answer says why. -/
inductive Arrives (f : Cause → ε) (s : S) (text : Bytes) : Except ε Unit → S → Prop
  | whole {s' : S} : (∀ k ∈ room s, text.length ≤ k) → Gained s text s' → Arrives f s text (.ok ()) s'
  | cut {s₁ s' : S} {k : ℕ} {b : Bytes} {a : Answer} {c : Cause} : room s = some k → k < text.length →
      Gained s (text.take k) s' → b ≠ [] → Limited.offer s₁ b = (a, s') → a.cause? = some c →
      Arrives f s text (.error (f c)) s'

namespace Arrives

variable {f : Cause → ε} {r : Except ε Unit}

lemma after (hb : ∀ k ∈ room s, b.length ≤ k) (hg : Gained s b s') (h : Arrives f s' text r s'') :
    Arrives f s (b ++ text) r s'' := by
  cases h with
  | whole hroom ht =>
    refine .whole (fun k hk => ?_) (hg.trans ht)
    have hrest := hroom _ (hg.room_of_some hk)
    have hfirst := hb k hk
    rw [List.length_append]
    omega
  | cut hk hlt ht hne ho hc =>
    rw [hg.room_eq] at hk
    obtain ⟨k, hk', rfl⟩ := Option.map_eq_some_iff.mp hk
    have hfirst := hb k hk'
    refine .cut hk' ?_ ?_ hne ho hc
    · rw [List.length_append]
      omega
    · rw [List.take_append, List.take_of_length_le hfirst]
      exact hg.trans ht

lemma mapError {r : Except Cause Unit} (g : Cause → ε) (h : Arrives id s text r s') :
    Arrives g s text (r.mapError g) s' := by
  cases h with
  | whole hroom ht => exact .whole hroom ht
  | cut hk hlt ht hne ho hc => exact .cut hk hlt ht hne ho hc

end Arrives

lemma Offers.arrives {r : Except Cause Unit} (h : Offers Limited.offer s b r s') : Arrives id s b r s' := by
  induction h with
  | nil => exact .whole (fun _ _ => Nat.zero_le _) (.refl _)
  | @took s s' s'' b n r hb ho _ ih =>
    obtain ⟨hn, hroom, ht⟩ := Limited.of_took ho
    have hle : ∀ k ∈ room s, (b.take (n + 1)).length ≤ k := by
      rw [List.length_take_of_le hn]
      exact hroom
    have h := ih.after hle ht
    rwa [List.take_append_drop] at h
  | interrupted hb ho _ ih => exact ih.after (fun _ _ => Nat.zero_le _) (Limited.of_interrupted ho)
  | failed hb ho hc =>
    obtain ⟨hroom, ht⟩ := Limited.of_failed hb ho hc
    exact .cut hroom (List.length_pos_iff.mpr hb) ht hb ho hc

def outcome (x : ExceptT Failure (StateM S) Unit) (s : S) : Except Failure Unit × S := x.run.run s

def Prints (x : ExceptT Failure (StateM S) Unit) (text : Bytes) : Prop :=
  ∀ s, Arrives Failure.summary s text (outcome x s).1 (outcome x s).2

namespace Prints

lemma pure : Prints (S := S) (pure ()) [] := fun s => .whole (fun _ _ => Nat.zero_le _) (.refl s)

lemma print (b : Bytes) : Prints (S := S) (attempt .summary (Host.print b)) b :=
  fun s => (Limited.print_offers s b).arrives.mapError Failure.summary

lemma seq {x y : ExceptT Failure (StateM S) Unit} (hx : Prints x text) (hy : Prints y text') :
    Prints (do x; y) (text ++ text') := by
  intro s
  have h := hx s
  rw [outcome, ExceptT.run_bind, StateT.run_bind]
  rcases hr : outcome x s with ⟨r, s'⟩
  rw [hr] at h
  rw [outcome] at hr
  rw [hr]
  cases h with
  | whole hroom ht => exact (hy s').after hroom ht
  | cut hk hlt ht hb ho hc =>
    refine .cut hk ?_ ?_ hb ho hc
    · rw [List.length_append]
      omega
    · rwa [List.take_append_of_le_length (Nat.le_of_lt hlt)]

end Prints

lemma prints_writeSummary (ms : List Measurement) :
    Prints (S := S) (writeSummary ms) (Bytes.ofString (Summary.write ms)) := by
  rw [writeSummary, Summary.write]
  induction Summary.pieces ms with
  | nil => exact .pure
  | cons p ps ih =>
    rw [Bytes.ofString_join_cons]
    exact (Prints.print _).seq ih

end Printing

end BenchReport
