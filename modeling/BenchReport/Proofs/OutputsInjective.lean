import BenchReport.Proofs.InstantText
import BenchReport.Proofs.Scan
import BenchReport.Proofs.Sinks
import BenchReport.Table

/-! What the summary and the table lose of measurements that were extracted: the summary their variances, the
table nothing. -/

namespace BenchReport

open Text ResultLine Worldly

variable {c : Char} {m m' : Measurement} {ms ms' : List Measurement} {t t' : Instant} {text : String}

namespace Measurement

def IsVisible (m : Measurement) : Prop := ∀ c ∈ m.name.toList, isVisible c = true

lemma IsVisible.not_mem (h : m.IsVisible) (hc : isBlank c = true) : c ∉ m.name.toList := by
  intro hm
  have hv := h c hm
  rw [isVisible, hc] at hv
  cases hv

lemma isVisible_of_mem_extract (h : m ∈ extract text) : m.IsVisible := by
  rw [extract, sort, List.mem_mergeSort, List.mem_filterMap] at h
  obtain ⟨f, hf, hm⟩ := h
  rw [Finding.all, Hit.all_eq_onward, List.mem_map] at hf
  obtain ⟨h, hh, rfl⟩ := hf
  obtain ⟨-, form, -, -, hs⟩ := Hit.shows_of_at? (Hit.at?_of_mem_onward hh).2
  rw [Finding.ofHit] at hm
  split at hm
  · cases hm
    rw [IsVisible, hs.name, String.toList_ofList]
    exact form.name.all
  · cases hm

lemma map_eq_map_of_line {α β : Type} {line : Measurement → α} {key : Measurement → β}
    (hline : ∀ m m', m.IsVisible → m'.IsVisible → line m = line m' → key m = key m') (hms : ∀ m ∈ ms, m.IsVisible)
    (hms' : ∀ m ∈ ms', m.IsVisible) (h : ms.map line = ms'.map line) : ms.map key = ms'.map key := by
  induction ms generalizing ms' with
  | nil =>
    cases ms' with
    | nil => rfl
    | cons m' ms' => cases h
  | cons m ms ih =>
    cases ms' with
    | nil => cases h
    | cons m' ms' =>
      rw [List.forall_mem_cons] at hms hms'
      obtain ⟨hm, hrest⟩ := List.cons.inj h
      rw [List.map_cons, List.map_cons, hline m m' hms.1 hms'.1 hm, ih hms.2 hms'.2 hrest]

end Measurement

open Measurement

namespace Summary

def firstLine (n : ℕ) : String := "Extracted " ++ n.repr ++ " benchmark results"

def line (m : Measurement) : String := "  " ++ m.name ++ ": " ++ m.timeNs.toNat.repr ++ " ns"

lemma write_eq (ms : List Measurement) : write ms = ended (firstLine ms.length :: ms.map line) := by
  have hlines : String.join (ms.flatMap fun m => ["  ", m.name, ": ", m.timeNs.toNat.repr, " ns\n"]) =
      ended (ms.map line) := by
    have hcut : " ns\n" = " ns" ++ "\n" := by decide +kernel
    induction ms with
    | nil => rfl
    | cons m ms ih =>
      rw [List.flatMap_cons, String.join_append, ih, List.map_cons, ended_cons, line, hcut]
      simp only [String.join_cons, String.join_nil, String.append_empty, String.append_assoc]
  have hcut : " benchmark results\n" = " benchmark results" ++ "\n" := by decide +kernel
  rw [write, pieces, String.join_append, hlines, ended_cons, firstLine, hcut]
  simp only [String.join_cons, String.join_nil, String.append_empty, String.append_assoc]

lemma not_mem_firstLine (n : ℕ) : '\n' ∉ (firstLine n).toList := by
  rw [firstLine]
  simp only [String.toList_append, List.mem_append, not_or, Nat.toList_repr]
  exact ⟨⟨by decide +kernel, not_mem_toDigits rfl⟩, by decide +kernel⟩

lemma not_mem_line (h : m.IsVisible) : '\n' ∉ (line m).toList := by
  rw [line]
  simp only [String.toList_append, List.mem_append, not_or, Nat.toList_repr]
  exact ⟨⟨⟨⟨by decide, h.not_mem rfl⟩, by decide⟩, not_mem_toDigits rfl⟩, by decide⟩

lemma line_inj (h : m.IsVisible) (h' : m'.IsVisible) (hl : line m = line m') :
    (m.name, m.timeNs) = (m'.name, m'.timeNs) := by
  have hcut (m : Measurement) : (line m).toList = "  ".toList ++ ((m.name.toList ++ [':']) ++
      ' ' :: (Nat.toDigits 10 m.timeNs.toNat ++ ' ' :: "ns".toList)) := by
    rw [line]
    simp only [String.toList_append, List.append_assoc, Nat.toList_repr]
    rfl
  have hname {m : Measurement} (h : m.IsVisible) : ' ' ∉ m.name.toList ++ [':'] := by
    rw [List.mem_append, not_or]
    exact ⟨h.not_mem rfl, by decide⟩
  have hc := congrArg String.toList hl
  rw [hcut, hcut] at hc
  obtain ⟨hn, hc⟩ := append_cons_inj (hname h) (hname h') (List.append_cancel_left hc)
  obtain ⟨ht, -⟩ := toDigits_append_cons_inj rfl hc
  rw [String.toList_inj.mp (List.append_cancel_right hn), UInt64.toNat_inj.mp ht]

lemma write_inj (hms : ∀ m ∈ ms, m.IsVisible) (hms' : ∀ m ∈ ms', m.IsVisible) (h : write ms = write ms') :
    ms.map (fun m => (m.name, m.timeNs)) = ms'.map (fun m => (m.name, m.timeNs)) := by
  have hlines {ms : List Measurement} (hms : ∀ m ∈ ms, m.IsVisible) :
      ∀ l ∈ firstLine ms.length :: ms.map line, '\n' ∉ l.toList := by
    rw [List.forall_mem_cons, List.forall_mem_map]
    exact ⟨not_mem_firstLine _, fun m hm => not_mem_line (hms m hm)⟩
  rw [write_eq, write_eq] at h
  have hl := ended_inj (hlines hms) (hlines hms') h
  exact map_eq_map_of_line (fun _ _ => line_inj) hms hms' (List.cons.inj hl).2

lemma write_eq_of_keys (h : ms.map (fun m => (m.name, m.timeNs)) = ms'.map (fun m => (m.name, m.timeNs))) :
    write ms = write ms' := by
  have hpieces (ms : List Measurement) : pieces ms = ["Extracted ", ms.length.repr, " benchmark results\n"] ++
      (ms.map fun m => (m.name, m.timeNs)).flatMap fun key => ["  ", key.1, ": ", key.2.toNat.repr, " ns\n"] := by
    rw [pieces, List.flatMap_map]
  have hlength : ms.length = ms'.length := by simpa using congrArg List.length h
  rw [write, write, hpieces, hpieces, h, hlength]

/-- What arrives at a sink that takes everything. -/
def bytes (ms : List Measurement) : Bytes := (eval (writeSummary ms) {}).2.sink.taken

lemma bytes_eq (ms : List Measurement) : bytes ms = Bytes.ofString (write ms) := by
  have hroom : ({} : World).sink.HasRoom (Bytes.ofString (write ms)).length := fun _ hr => by cases hr
  obtain ⟨s, he, ht⟩ := eval_writeSummary_of_hasRoom hroom
  rw [bytes, he]
  exact ht.taken

end Summary

namespace Table

lemma isDigit_or_point_of_mem_positional {ds : List Char} (hds : ∀ c ∈ ds, c.isDigit = true) (p : ℤ)
    (hc : c ∈ Layout.table.positional ds p) : c.isDigit = true ∨ c = '.' := by
  have hzeros (k : ℤ) : ∀ c ∈ Layout.zeros k, c.isDigit = true := fun c hc => by
    rw [List.eq_of_mem_replicate hc]
    rfl
  rw [Layout.positional] at hc
  split_ifs at hc with hp hl hf
  · rcases List.mem_append.mp hc with hc | hc
    · rcases List.mem_cons.mp hc with rfl | hc
      · exact .inl rfl
      · rcases List.mem_cons.mp hc with rfl | hc
        · exact .inr rfl
        · exact .inl (hzeros _ c hc)
    · exact .inl (hds c hc)
  · exact absurd hf (by decide)
  · rw [List.append_nil, List.mem_append] at hc
    exact .inl (hc.elim (hds c) (hzeros _ c))
  · rcases List.mem_append.mp hc with hc | hc
    · exact .inl (hds c (List.mem_of_mem_take hc))
    · rcases List.mem_cons.mp hc with rfl | hc
      · exact .inr rfl
      · exact .inl (hds c (List.mem_of_mem_drop hc))

lemma isDigit_or_point_of_mem_numeral {x : Binary64} (hc : c ∈ (Layout.table.write x).toList) :
    c.isDigit = true ∨ c = '.' := by
  rw [Layout.write] at hc
  split_ifs at hc with hx hf
  · exact absurd hf (by decide)
  · obtain rfl : c = '0' := by simpa using hc
    exact .inl rfl
  · dsimp only at hc
    rw [String.toList_ofList] at hc
    exact isDigit_or_point_of_mem_positional (fun c hc => Numeral.isDigit_of_mem_toDigits hc) _ hc

lemma not_mem_numeral {x : Binary64} (hc : c.isDigit = false) (hp : c ≠ '.') : c ∉ (Layout.table.write x).toList := by
  intro h
  rcases isDigit_or_point_of_mem_numeral h with hd | rfl
  · rw [hd] at hc
    cases hc
  · exact hp rfl

lemma not_mem_row (h : m.IsVisible) : '\n' ∉ (row m).toList := by
  rw [row]
  simp only [String.toList_append, List.mem_append, not_or, Nat.toList_repr]
  refine ⟨⟨⟨⟨⟨⟨⟨⟨⟨⟨?_, h.not_mem rfl⟩, ?_⟩, not_mem_toDigits rfl⟩, ?_⟩, not_mem_toDigits rfl⟩, ?_⟩,
    not_mem_numeral rfl (by decide)⟩, ?_⟩, not_mem_numeral rfl (by decide)⟩, ?_⟩ <;> decide

lemma row_inj (h : m.IsVisible) (h' : m'.IsVisible) (hr : row m = row m') : m = m' := by
  have hcut (m : Measurement) : ∃ s, (row m).toList = "| ".toList ++ (m.name.toList ++ ' ' ::
      ("| ".toList ++ (Nat.toDigits 10 m.timeNs.toNat ++ ' ' ::
        ("| ".toList ++ (Nat.toDigits 10 m.varianceNs.toNat ++ ' ' :: s))))) := by
    rw [row]
    simp only [String.toList_append, List.append_assoc, Nat.toList_repr]
    exact ⟨_, rfl⟩
  obtain ⟨s, hs⟩ := hcut m
  obtain ⟨s', hs'⟩ := hcut m'
  have hc := congrArg String.toList hr
  rw [hs, hs'] at hc
  obtain ⟨hname, hc⟩ := append_cons_inj (h.not_mem rfl) (h'.not_mem rfl) (List.append_cancel_left hc)
  obtain ⟨htime, hc⟩ := toDigits_append_cons_inj rfl (List.append_cancel_left hc)
  obtain ⟨hvariance, -⟩ := toDigits_append_cons_inj rfl (List.append_cancel_left hc)
  cases m
  cases m'
  simp_all [UInt64.toNat_inj, String.toList_inj]

lemma not_mem_lines (t : Instant) (hms : ∀ m ∈ ms, m.IsVisible) : ∀ l ∈ lines ms t, '\n' ∉ l.toList := by
  have hinstant : '\n' ∉ ("Generated: " ++ t.write).toList := by
    rw [String.toList_append, List.mem_append, not_or]
    exact ⟨by decide +kernel, Instant.not_mem_write rfl (by decide)⟩
  have htotal : '\n' ∉ ("Total benchmarks: " ++ ms.length.repr).toList := by
    rw [String.toList_append, List.mem_append, not_or, Nat.toList_repr]
    exact ⟨by decide +kernel, not_mem_toDigits rfl⟩
  simp only [lines, List.forall_mem_append, List.forall_mem_cons, List.forall_mem_map, List.not_mem_nil,
    false_implies, implies_true, and_true]
  exact ⟨⟨⟨by decide +kernel, by decide, hinstant, by decide, by decide +kernel, by decide +kernel⟩,
    fun m hm => not_mem_row (hms m hm)⟩, by decide, by decide, htotal⟩

lemma write_eq_iff (hms : ∀ m ∈ ms, m.IsVisible) (hms' : ∀ m ∈ ms', m.IsVisible) :
    write ms t = write ms' t' ↔ ms = ms' ∧ t.ShownAlike t' := by
  constructor
  · intro h
    have hl := ended_inj (not_mem_lines t hms) (not_mem_lines t' hms') h
    obtain ⟨hl, -⟩ := List.append_inj' hl (by simp only [List.length_cons])
    obtain ⟨hfirst, hrows⟩ := List.append_inj hl (by simp only [List.length_cons])
    have hinstant : "Generated: " ++ t.write = "Generated: " ++ t'.write := by
      simpa only [List.cons.injEq, true_and, and_true] using hfirst
    refine ⟨?_, Instant.write_eq_iff.mp ((String.append_right_inj _).mp hinstant)⟩
    have hkeys : ms.map id = ms'.map id := map_eq_map_of_line (fun _ _ => row_inj) hms hms' hrows
    rwa [List.map_id, List.map_id] at hkeys
  · rintro ⟨rfl, ht⟩
    rw [write, write, lines, lines, Instant.write_eq_iff.mpr ht]

end Table

/-- Two moments show alike if a leap second begins before the last second of its minute: it is written as the second
after it. Of any other two moments the pages differ. -/
theorem outputs_tell_apart (a b : String) (s t : Instant) :
    (Summary.bytes (extract a) = Summary.bytes (extract b) ↔
      (extract a).map (fun m => (m.name, m.timeNs)) = (extract b).map fun m => (m.name, m.timeNs)) ∧
    (Table.write (extract a) s = Table.write (extract b) t ↔ extract a = extract b ∧ s.ShownAlike t) ∧
    (s.nanos < 2 * 1000000000 → t.nanos < 2 * 1000000000 →
      (s.ShownAlike t ↔ s = t ∨ s.LeapsInto t ∨ t.LeapsInto s)) := by
  have hvisible (text : String) : ∀ m ∈ extract text, m.IsVisible := fun _ => isVisible_of_mem_extract
  refine ⟨?_, Table.write_eq_iff (hvisible a) (hvisible b), Instant.shownAlike_iff⟩
  rw [Summary.bytes_eq, Summary.bytes_eq]
  constructor
  · intro h
    exact Summary.write_inj (hvisible a) (hvisible b) (Bytes.ofString_injective h)
  · intro h
    rw [Summary.write_eq_of_keys h]

def leapSecond : Instant := ⟨253402300859, 1500000000⟩

def beforeYearZero : Instant := ⟨-62167219201, 250000000⟩

theorem outputs_tell_apart_leap_second :
    Summary.bytes (extract "test a ... bench: 5 ns/iter (+/- 1)") =
      Summary.bytes (extract "test a ... bench: 5 ns/iter (+/- 2)") ∧
    Table.write (extract "test a ... bench: 5 ns/iter (+/- 1)") leapSecond ≠
      Table.write (extract "test a ... bench: 5 ns/iter (+/- 1)") beforeYearZero := by
  obtain ⟨hsummary, -, -⟩ := outputs_tell_apart "test a ... bench: 5 ns/iter (+/- 1)"
    "test a ... bench: 5 ns/iter (+/- 2)" leapSecond beforeYearZero
  obtain ⟨-, htable, hinstants⟩ := outputs_tell_apart "test a ... bench: 5 ns/iter (+/- 1)"
    "test a ... bench: 5 ns/iter (+/- 1)" leapSecond beforeYearZero
  refine ⟨hsummary.mpr (by decide +kernel), fun h => ?_⟩
  rcases (hinstants (by decide) (by decide)).mp (htable.mp h).2 with heq | hleaps | hleaps
  · exact absurd heq (by decide)
  · exact hleaps.early (by decide)
  · exact absurd hleaps.leap (by decide)

def earlyLeapSecond : Instant := ⟨4, 1000000000⟩

def secondAfter : Instant := ⟨5, 0⟩

theorem outputs_meet_in_an_early_leap_second :
    Table.write (extract "test a ... bench: 5 ns/iter (+/- 1)") earlyLeapSecond =
      Table.write (extract "test a ... bench: 5 ns/iter (+/- 1)") secondAfter ∧
    earlyLeapSecond ≠ secondAfter := by
  decide +kernel

end BenchReport
