import BenchReport.Proofs.ReportReading
import Mathlib.Data.List.Forall2

namespace BenchReport.Report

variable {c : Char} {s w ds : List Char} {n : ℕ}

section Strings

lemma hexUnit_of_lt (hn : n < 0x10) : HexUnit ('0' :: '0' :: '0' :: Text.hexDigits n) n := by
  have h : ∀ n < 0x10, Text.hexDigits n = [n.digitChar] ∧ Text.hexDigit? n.digitChar = some n := by decide
  obtain ⟨hd, hv⟩ := h n hn
  rw [hd]
  simpa using HexUnit.mk (a := '0') (b := '0') (c := '0') rfl rfl rfl hv

lemma hexUnit_of_le_of_lt (hl : 0x10 ≤ n) (hn : n < 0x20) : HexUnit ('0' :: '0' :: Text.hexDigits n) n := by
  have h : ∀ k < 0x10, Text.hexDigits (0x10 + k) = ['1', k.digitChar] ∧ Text.hexDigit? k.digitChar = some k := by
    decide
  obtain ⟨k, rfl⟩ := Nat.exists_eq_add_of_le hl
  obtain ⟨hd, hv⟩ := h k (by omega)
  rw [hd]
  exact .mk (a := '0') (b := '0') (c := '1') rfl rfl rfl hv

lemma Spells.of_unit {u : List Char} (hu : HexUnit u c.toNat) (hc : c.toNat < 0x20) :
    Spells ('\\' :: 'u' :: u) c := by
  have hs : ∀ n < 0x20, isHigh n = false ∧ isLow n = false := by decide
  have h := Spells.unit hu (hs _ hc).1 (hs _ hc).2
  rwa [Char.ofNat_toNat] at h

lemma spells_escapedChar (c : Char) : Spells (escapedChar c) c := by
  rw [escapedChar]
  split_ifs with hq hb hf hn hr ht hx hy
  · rcases hq with rfl | rfl
    · exact .letter (by decide)
    · exact .letter (by decide)
  · exact .letter (hb ▸ by decide)
  · exact .letter (hf ▸ by decide)
  · exact .letter (hn ▸ by decide)
  · exact .letter (hr ▸ by decide)
  · exact .letter (ht ▸ by decide)
  · exact .of_unit (hexUnit_of_lt hx) (by omega)
  · exact .of_unit (hexUnit_of_le_of_lt (by omega) hy) hy
  · rw [not_or] at hq
    exact .plain ⟨fun h => hy h, hq.1, hq.2⟩

lemma spelled_flatMap (s : List Char) : Spelled (s.flatMap escapedChar) s := by
  induction s with
  | nil => exact .nil
  | cons c s ih => exact .cons (spells_escapedChar c) ih

lemma quotes_string (n : String) : Quotes (string n.toList) n := ⟨_, spelled_flatMap n.toList, rfl⟩

end Strings

section Numbers

lemma digits_toDigits (n : ℕ) : Digits (Nat.toDigits 10 n) := fun _ hc => Numeral.isDigit_of_mem_toDigits hc

lemma exists_toDigits (hn : n ≠ 0) : ∃ c u, Nat.toDigits 10 n = c :: u ∧ c ≠ '0' := by
  induction n using Nat.strongRecOn with
  | _ n ih =>
    rcases Nat.lt_or_ge n 10 with hlt | hle
    · have h : ∀ n < 10, n ≠ 0 → n.digitChar ≠ '0' := by decide
      exact ⟨_, [], Nat.toDigits_of_lt_base hlt, h n hlt hn⟩
    · obtain ⟨c, u, hu, hc⟩ := ih (n / 10) (by omega) (by omega)
      exact ⟨c, _, by rw [Nat.toDigits_of_base_le (by decide) hle, hu, List.cons_append], hc⟩

lemma whole_toDigits (n : ℕ) : Whole (Nat.toDigits 10 n) := by
  rcases eq_or_ne n 0 with rfl | hn
  · exact .zero
  · obtain ⟨c, u, hu, hc⟩ := exists_toDigits hn
    have hd := digits_toDigits n
    rw [hu] at hd ⊢
    exact .digits (hd c List.mem_cons_self) hc fun d h => hd d (List.mem_cons_of_mem c h)

lemma counts_toDigits (t : UInt64) : Counts (Nat.toDigits 10 t.toNat) t :=
  ⟨whole_toDigits _, Nat.ofDigitChars_toDigits (by decide) (by decide)⟩

lemma Digits.append {ds' : List Char} (h : Digits ds) (h' : Digits ds') : Digits (ds ++ ds') := by
  intro d hd
  rcases List.mem_append.mp hd with hd | hd
  · exact h d hd
  · exact h' d hd

lemma digits_zeros (k : Int) : Digits (Layout.zeros k) := by
  intro d hd
  rw [List.eq_of_mem_replicate hd]
  decide

lemma Whole.digits_all (h : Whole ds) : Digits ds := by
  cases h with
  | zero => simp [Digits]
  | digits hc _ hd => exact List.forall_mem_cons.mpr ⟨hc, hd⟩

lemma Whole.append_zeros {k : Int} (h : Whole ds) (hz : ds = ['0'] → k = 0) : Whole (ds ++ Layout.zeros k) := by
  cases h with
  | zero =>
    rw [hz rfl]
    exact .zero
  | digits hc hne hd => exact .digits hc hne (hd.append (digits_zeros k))

lemma magnitude_split {k : ℕ} (h : Whole ds) (hk : 0 < k) (hl : k < ds.length) :
    Magnitude (ds.take k ++ '.' :: ds.drop k) := by
  obtain ⟨k, rfl⟩ := Nat.exists_eq_add_of_le' hk
  cases h with
  | zero => exact absurd hl (by simp)
  | @digits c ds hc hne hd =>
    have hw : Whole (c :: ds.take k) := .digits hc hne fun d h => hd d (List.mem_of_mem_take h)
    have hf : Fraction ('.' :: ds.drop k) := by
      refine .some (List.ne_nil_of_length_pos ?_) fun d h => hd d (List.mem_of_mem_drop h)
      rw [List.length_cons] at hl
      rw [List.length_drop]
      omega
    simpa using Magnitude.mk hw hf .none

lemma magnitude_positional {p : Int} (h : Whole ds) (hz : ds = ['0'] → p = 1) :
    Magnitude (Layout.report.positional ds p) := by
  rw [Layout.positional]
  split_ifs with hp hl hf
  · have hd : Digits (Layout.zeros (-p) ++ ds) := (digits_zeros _).append h.digits_all
    have hne : Layout.zeros (-p) ++ ds ≠ [] := by
      obtain ⟨c, u, rfl, -⟩ := h.exists_cons
      simp
    simpa using Magnitude.mk .zero (.some hne hd) .none
  · have hw : Whole (ds ++ Layout.zeros (p - ds.length)) := h.append_zeros fun hds => by simp [hds, hz hds]
    have hf : Fraction ['.', '0'] := .some (List.cons_ne_nil _ _) (by simp [Digits])
    simpa using Magnitude.mk hw hf .none
  · exact absurd rfl hf
  · exact magnitude_split h (by omega) (by omega)

lemma exponent_report (e : Int) :
    Exponent ('e' :: ((if e < 0 then ['-'] else ['+']) ++ Nat.toDigits 10 e.natAbs)) := by
  refine .some (by decide) ?_ Nat.toDigits_ne_nil (digits_toDigits _)
  split_ifs <;> decide

lemma magnitude_scientific (h : Whole ds) (e : Int) : Magnitude (Layout.report.scientific ds e) := by
  have he := exponent_report e
  cases h with
  | zero => simpa [Layout.scientific, Layout.report] using Magnitude.mk .zero .none he
  | @digits c ds hc hne hd =>
    have hw : Whole [c] := .digits hc hne (List.forall_mem_nil _)
    cases ds with
    | nil => simpa [Layout.scientific, Layout.report] using Magnitude.mk hw .none he
    | cons d ds =>
      have hf : Fraction ('.' :: d :: ds) := .some (List.cons_ne_nil _ _) hd
      simpa [Layout.scientific, Layout.report] using Magnitude.mk hw hf he

lemma not_reads_zero {x : Binary64} (hx : x.sig ≠ 0) (k : Int) : ¬ x.Reads 0 k := by
  have hlow : 0 < x.lowEnd := by
    rw [Binary64.lowEnd]
    split_ifs <;> omega
  have hpos : 0 < Binary64.binarySide x.lowEnd x k :=
    Nat.mul_pos (Nat.mul_pos hlow (Nat.pow_pos (by decide))) (Nat.pow_pos (by decide))
  have hzero : Binary64.decimalSide 0 k = 0 := by simp [Binary64.decimalSide]
  rw [Binary64.Reads, hzero]
  split_ifs <;> omega

lemma digits_decimalAt?_ne_zero {x : Binary64} {t : Tie} {k : Int} {d : Decimal} (hx : x.sig ≠ 0)
    (h : x.decimalAt? t k = some d) : d.digits ≠ 0 := by
  have hr := not_reads_zero hx k
  rw [Binary64.decimalAt?] at h
  split_ifs at h with h₁ h₂ h₃
  · cases h
    exact Nat.succ_ne_zero _
  · cases h
    intro hd
    exact hr (hd ▸ h₁)
  · cases h
    exact Nat.succ_ne_zero _

lemma shortest_eq {x : Binary64} (hx : x.sig ≠ 0) (t : Tie) :
    (x.shortest t).digits ≠ 0 ∨ x.shortest t = ⟨0, 0⟩ := by
  rw [Binary64.shortest]
  cases h : (List.range 18).findSome? fun (i : ℕ) => x.decimalAt? t (x.leadExp + 1 - i) with
  | none => exact Or.inr rfl
  | some d =>
    obtain ⟨i, -, hd⟩ := List.exists_of_findSome?_eq_some h
    exact Or.inl (digits_decimalAt?_ne_zero hx hd)

lemma toDigits_eq_zero_iff : Nat.toDigits 10 n = ['0'] ↔ n = 0 := by
  constructor
  · intro h
    by_contra hn
    obtain ⟨c, u, hu, hc⟩ := exists_toDigits hn
    exact hc (List.cons.inj (hu.symm.trans h)).1
  · rintro rfl
    exact Nat.toDigits_zero 10

lemma magnitude_write (x : Binary64) : Magnitude (Layout.report.write x).toList := by
  rw [Layout.write]
  split_ifs with hx hf
  · have hfrac : Fraction ['.', '0'] := .some (List.cons_ne_nil _ _) (by simp [Digits])
    exact .mk .zero hfrac .none
  · exact absurd rfl hf
  · have hw := whole_toDigits (x.shortest Layout.report.tie).digits
    dsimp only
    rw [String.toList_ofList]
    split_ifs with hp
    -- the digits are zero only where no numeral was found, and then there is no exponent either
    · refine magnitude_positional hw fun hz => ?_
      rcases shortest_eq hx Layout.report.tie with hd | hd
      · exact absurd (toDigits_eq_zero_iff.mp hz) hd
      · rw [hd]
        rfl
    · exact magnitude_scientific hw _

end Numbers

section Lists

variable {α : Type} {item : List Char → α → Prop} {as : List α} {ss : List (List Char)} {g : List Char}

lemma Separated.append_gap (h : Separated item w as) (hg : Gap g) : Separated item (w ++ g) as := by
  induction h with
  | last hg₁ hw hg₂ =>
    simp only [List.append_assoc]
    exact .last hg₁ hw (gap_append hg₂ hg)
  | more hg₁ hw hg₂ _ ih =>
    simp only [List.append_assoc, List.cons_append]
    exact .more hg₁ hw hg₂ ih

lemma separated_intercalate (h : List.Forall₂ (fun s a => ∃ g w, Gap g ∧ item w a ∧ s = g ++ w) ss as)
    (hne : as ≠ []) : Separated item ([','].intercalate ss) as := by
  induction h with
  | nil => exact absurd rfl hne
  | cons hs ht ih =>
    obtain ⟨g, w, hg, hw, rfl⟩ := hs
    cases ht with
    | nil => simpa using Separated.last hg hw gap_nil
    | cons =>
      rw [List.intercalate_cons_cons]
      simpa using Separated.more hg hw gap_nil (ih (List.cons_ne_nil _ _))

lemma gap_newLine (indent : ℕ) : Gap (newLine indent) := by
  intro c hc
  rcases List.mem_cons.mp hc with rfl | hc
  · rfl
  · rw [List.eq_of_mem_replicate hc]
    rfl

end Lists

section Records

variable {m : Measurement} {ms : List Measurement}

lemma member_string {k : String} {v : List Char} {f : Field} (hn : f.IsNamed k.toList) (hv : Says v f) :
    Member (string k.toList ++ ':' :: ' ' :: v) f := by
  have hg : Gap [' '] := by simp [Gap, isGap]
  simpa [string] using Member.mk (spelled_flatMap k.toList) hn gap_nil hg hv

lemma record_prettyRecord (indent : ℕ) (m : Measurement) : Record (prettyRecord indent m) m := by
  have hfields : List.Forall₂ (fun s f => ∃ g w, Gap g ∧ Member w f ∧ s = g ++ w)
      ((fields m).map fun kv => newLine (indent + 2) ++ string kv.1.toList ++ ':' :: ' ' :: kv.2)
      [.name m.name, .time m.timeNs, .variance m.varianceNs, .other, .other] := by
    have hmember {k : String} {v : List Char} {f : Field} (hn : f.IsNamed k.toList) (hv : Says v f) :
        ∃ g w, Gap g ∧ Member w f ∧ newLine (indent + 2) ++ string k.toList ++ ':' :: ' ' :: v = g ++ w :=
      ⟨_, _, gap_newLine _, member_string hn hv, List.append_assoc _ _ _⟩
    have hus : Field.other.IsNamed "time_us".toList := ⟨by decide, by decide, by decide⟩
    have hms : Field.other.IsNamed "time_ms".toList := ⟨by decide, by decide, by decide⟩
    simp only [fields, List.map_cons, List.map_nil]
    exact .cons (hmember rfl (.name (quotes_string m.name))) <|
      .cons (hmember rfl (.time (counts_toDigits _))) <|
      .cons (hmember rfl (.variance (counts_toDigits _))) <|
      .cons (hmember hus (.other (.number (magnitude_write _)))) <|
      .cons (hmember hms (.other (.number (magnitude_write _)))) .nil
  have hs := (separated_intercalate hfields (List.cons_ne_nil _ _)).append_gap (gap_newLine indent)
  exact .object hs ⟨rfl, rfl, rfl⟩

lemma isReport_prettyList (ms : List Measurement) : IsReport (prettyList ms) ms := by
  cases ms with
  | nil => exact .empty gap_nil gap_nil gap_nil
  | cons m ms =>
    have hitems : List.Forall₂ (fun s a => ∃ g w, Gap g ∧ Record w a ∧ s = g ++ w)
        ((m :: ms).map fun m => newLine 2 ++ prettyRecord 2 m) (m :: ms) := by
      rw [List.forall₂_map_left_iff, List.forall₂_same]
      exact fun m _ => ⟨_, _, gap_newLine 2, record_prettyRecord 2 m, rfl⟩
    have hs := (separated_intercalate hitems (List.cons_ne_nil _ _)).append_gap (gap_newLine 0)
    simpa [prettyList] using IsReport.records gap_nil hs gap_nil

lemma read_write (ms : List Measurement) : read (write ms) = .ok ms := by
  rw [read_eq_ok_iff, write, String.toList_ofList]
  exact isReport_prettyList ms

end Records

end BenchReport.Report
