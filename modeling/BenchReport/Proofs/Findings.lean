import BenchReport.Log
import BenchReport.Proofs.GroupedNumeral
import BenchReport.Proofs.Lines
import Mathlib.Data.List.Forall2

/-! What is told of each hit: that it was skipped, exactly if one of its numerals cannot be read, or else
the values it holds. -/

namespace BenchReport

open ResultLine

namespace Hit

variable {text : String} {h : Hit} {c : Char}

lemma exists_shows_of_mem_all (hh : h ∈ all text) : ∃ f : Form, h.Shows f := by
  rw [all_eq_onward] at hh
  obtain ⟨-, f, -, -, hf⟩ := shows_of_at? (at?_of_mem_onward hh).2
  exact ⟨f, hf⟩

lemma isDigit_or_comma_of_run (a : Run isNumeral) (hc : c ∈ (String.ofList a.chars).toList) :
    c.isDigit = true ∨ c = ',' := by
  rw [String.toList_ofList] at hc
  simpa [isNumeral] using a.all c hc

end Hit

namespace Finding

structure TellsOf (f : Finding) (h : Hit) : Prop where
  skipped_iff : f = .skipped h.name h.time h.variance ↔
    Numeral.IsUnreadable h.time ∨ Numeral.IsUnreadable h.variance
  matched_iff : ∀ t v, f = .matched ⟨h.name, t, v⟩ ↔ Numeral.Reads h.time t ∧ Numeral.Reads h.variance v
  warn_iff : (Log.Event.found f).level = .warn ↔
    Numeral.IsUnreadable h.time ∨ Numeral.IsUnreadable h.variance
  debug_iff : (Log.Event.found f).level = .debug ↔
    ∃ t v, Numeral.Reads h.time t ∧ Numeral.Reads h.variance v

variable {h : Hit} {t v : UInt64}

lemma ofHit_eq_matched_iff :
    ofHit h = .matched ⟨h.name, t, v⟩ ↔
      Numeral.readGrouped? h.time = some t ∧ Numeral.readGrouped? h.variance = some v := by
  cases ht : Numeral.readGrouped? h.time <;> cases hv : Numeral.readGrouped? h.variance <;>
    simp [ofHit, ht, hv]

lemma ofHit_eq_skipped_iff :
    ofHit h = .skipped h.name h.time h.variance ↔
      Numeral.readGrouped? h.time = none ∨ Numeral.readGrouped? h.variance = none := by
  cases ht : Numeral.readGrouped? h.time <;> cases hv : Numeral.readGrouped? h.variance <;>
    simp [ofHit, ht, hv]

lemma exists_ofHit (h : Hit) :
    (∃ t v, ofHit h = .matched ⟨h.name, t, v⟩) ∨ ofHit h = .skipped h.name h.time h.variance := by
  rw [ofHit]
  split
  · exact Or.inl ⟨_, _, rfl⟩
  · exact Or.inr rfl

lemma warn_ofHit_iff :
    (Log.Event.found (ofHit h)).level = .warn ↔ ofHit h = .skipped h.name h.time h.variance := by
  obtain ⟨t, v, he⟩ | he := exists_ofHit h <;> simp [he, Log.Event.level]

lemma debug_ofHit_iff :
    (Log.Event.found (ofHit h)).level = .debug ↔ ∃ t v, ofHit h = .matched ⟨h.name, t, v⟩ := by
  obtain ⟨t, v, he⟩ | he := exists_ofHit h <;> simp [he, Log.Event.level]

lemma tellsOf_ofHit (ht : ∀ c ∈ h.time.toList, c.isDigit = true ∨ c = ',')
    (hv : ∀ c ∈ h.variance.toList, c.isDigit = true ∨ c = ',') : (ofHit h).TellsOf h := by
  have hskipped : ofHit h = .skipped h.name h.time h.variance ↔
      Numeral.IsUnreadable h.time ∨ Numeral.IsUnreadable h.variance := by
    rw [ofHit_eq_skipped_iff, Numeral.readGrouped?_eq_none_iff ht, Numeral.readGrouped?_eq_none_iff hv]
  have hmatched (t v : UInt64) : ofHit h = .matched ⟨h.name, t, v⟩ ↔
      Numeral.Reads h.time t ∧ Numeral.Reads h.variance v := by
    rw [ofHit_eq_matched_iff, Numeral.readGrouped?_eq_some_iff ht, Numeral.readGrouped?_eq_some_iff hv]
  refine ⟨hskipped, hmatched, warn_ofHit_iff.trans hskipped, ?_⟩
  rw [debug_ofHit_iff]
  exact exists_congr fun t => exists_congr fun v => hmatched t v

lemma tellsOf_of_mem_all {text : String} {h : Hit} (hh : h ∈ Hit.all text) : (ofHit h).TellsOf h := by
  obtain ⟨f, hf⟩ := Hit.exists_shows_of_mem_all hh
  apply tellsOf_ofHit
  · rw [hf.time]
    exact fun _ => Hit.isDigit_or_comma_of_run f.tail.time
  · rw [hf.variance]
    exact fun _ => Hit.isDigit_or_comma_of_run f.tail.variance

/-! The findings of a text, one after the other. -/

variable {c : Char} {s : List Char}

lemma all_of_none (hn : Hit.at? 0 (c :: s) = none) : all (.ofList (c :: s)) = all (.ofList s) := by
  rw [all_ofList, all_ofList, Hit.onward_of_none (s := c :: s) hn]
  have hh := Hit.onward_append_length [c] s
  rw [List.singleton_append, List.length_singleton] at hh
  rw [hh, map_ofHit_shift]

lemma all_of_some (hh : Hit.at? 0 s = some h) : all (.ofList s) = ofHit h :: all (.ofList (s.drop h.stop)) := by
  have hadd := Hit.allFrom_add 0 h.stop 0 (s.drop h.stop)
  rw [Nat.zero_add] at hadd
  rw [all_ofList, all_ofList, Hit.onward_of_some (s := s) hh, List.map_cons, Hit.onward, hadd, map_ofHit_shift]
  rfl

lemma text_induction {motive : List Char → Prop} (nil : motive [])
    (pass : ∀ c s, Hit.at? 0 (c :: s) = none → motive s → motive (c :: s))
    (hit : ∀ s h, Hit.at? 0 s = some h → motive (s.drop h.stop) → motive s) (s : List Char) : motive s := by
  induction hn : s.length using Nat.strongRecOn generalizing s with
  | ind n ih =>
    cases hh : Hit.at? 0 s with
    | some h =>
      obtain ⟨-, hlt, hle⟩ := Hit.at?_bounds (p := 0) (s := s) hh
      refine hit s h hh (ih _ ?_ _ rfl)
      rw [List.length_drop]
      omega
    | none =>
      cases s with
      | nil => exact nil
      | cons c s => exact pass c s hh (ih s.length (by simp [← hn]) s rfl)

theorem each_told_once (text : String) :
    List.Forall₂ (fun h f => TellsOf f h) (Hit.all text) (all text) ∧
      ∀ ms, Measurement.IsStableSort ((all text).filterMap measurement?) ms ↔
        ms = Measurement.extract text := by
  constructor
  · rw [all, List.forall₂_map_right_iff, List.forall₂_same]
    exact fun _ => tellsOf_of_mem_all
  · intro ms
    exact Measurement.isStableSort_iff

end Finding

end BenchReport
