import BenchReport.Proofs.ReportKept

/-! What the arguments of a run decide: two paths are taken as they are, and of anything else comes the usage line and
nothing more. -/

namespace BenchReport

open Worldly

variable {a b : Bytes} {input output : Path} {args : List Bytes} {settings : Command.Settings} {w w' : World}

namespace Bytes

section Text

lemma text?_ne_none_iff : text? b ≠ none ↔ (ByteArray.mk b.toArray).IsValidUTF8 := by
  rw [text?, String.fromUTF8?]
  split_ifs with h <;> simp [h]

lemma text?_dash : text? (45 :: b) ≠ none ↔ text? b ≠ none := by
  have hdash : ['-'].utf8Encode = ⟨#[45]⟩ := rfl
  have hcons : ByteArray.mk (45 :: b).toArray = ['-'].utf8Encode ++ ByteArray.mk b.toArray := by
    rw [hdash]
    ext1
    simp
  rw [text?_ne_none_iff, text?_ne_none_iff, hcons, ByteArray.isValidUTF8_utf8Encode_singleton_append_iff]

lemma text?_of_append (h : text? (a ++ 61 :: b) ≠ none) : text? a ≠ none := by
  rw [text?_ne_none_iff] at h ⊢
  let s : String := ⟨_, h⟩
  have hbytes : s.toByteArray = ⟨(a ++ 61 :: b).toArray⟩ := rfl
  have hlt : (⟨a.length⟩ : String.Pos.Raw) < s.rawEndPos := by
    simp [String.Pos.Raw.lt_iff, String.rawEndPos, String.utf8ByteSize, hbytes, ByteArray.size]
  have hfirst : (s.getUTF8Byte ⟨a.length⟩ hlt).IsUTF8FirstByte := by
    have hget : s.getUTF8Byte ⟨a.length⟩ hlt = 61 := by
      simp [String.getUTF8Byte, hbytes, ByteArray.getElem_eq_getElem_data]
    rw [hget]
    decide
  have hvalid := (String.Pos.Raw.isValid_iff_isUTF8FirstByte.mpr (.inr ⟨hlt, hfirst⟩)).isValidUTF8_extract_zero
  have hcut : s.toByteArray.extract 0 a.length = ⟨a.toArray⟩ := by
    rw [hbytes]
    ext1
    simp
  rwa [hcut] at hvalid

end Text

end Bytes

namespace Command

section Paths

/-- Two dashes, and between them and the first equals sign, or the end, what is no text. -/
def IsGarbled (a : Bytes) : Prop :=
  ∃ name rest, a = dashes ++ name ++ rest ∧ 61 ∉ name ∧ (rest = [] ∨ rest.head? = some 61) ∧ name.text? = none

def IsNoPath (a : Bytes) : Prop := a = [] ∨ a = dashes ∨ IsGarbled a

lemma longName?_dashes (b : Bytes) : longName? (dashes ++ b) = some (b.takeWhile (· ≠ 61)) := rfl

lemma exists_of_longName? (h : (longName? a).isSome) : ∃ b, a = dashes ++ b := by
  rw [longName?] at h
  split_ifs at h with hp
  · obtain ⟨b, rfl⟩ := List.isPrefixOf_iff_prefix.mp hp
    exact ⟨b, rfl⟩
  · cases h

lemma takeWhile_name {name rest : Bytes} (hn : 61 ∉ name) (hr : rest = [] ∨ rest.head? = some 61) :
    (name ++ rest).takeWhile (· ≠ 61) = name := by
  have hname : ∀ b ∈ name, decide (b ≠ 61) = true := fun b hb => decide_eq_true fun h => hn (h ▸ hb)
  rw [List.takeWhile_append_of_pos hname]
  rcases hr with rfl | hr
  · rw [List.takeWhile_nil, List.append_nil]
  · obtain ⟨b, rfl⟩ := List.head?_eq_some_iff.mp hr
    rw [List.takeWhile_cons_of_neg (by simp), List.append_nil]

lemma isGarbled_dashes_iff : IsGarbled (dashes ++ b) ↔ Bytes.text? (b.takeWhile (· ≠ 61)) = none := by
  constructor
  · rintro ⟨name, rest, hb, hn, hr, ht⟩
    rw [List.append_assoc] at hb
    rw [List.append_cancel_left hb, takeWhile_name hn hr]
    exact ht
  · refine fun ht => ⟨_, b.dropWhile (· ≠ 61), ?_, fun h => ?_, ?_, ht⟩
    · rw [List.append_assoc, List.takeWhile_append_dropWhile]
    · simpa using List.all_eq_true.mp List.all_takeWhile _ h
    · cases hd : b.dropWhile (· ≠ 61) with
      | nil => exact .inl rfl
      | cons c r =>
        have hne : b.dropWhile (· ≠ 61) ≠ [] := by
          rw [hd]
          exact List.cons_ne_nil c r
        have hc := List.head_dropWhile_not _ hne
        simp only [hd, List.head_cons, decide_eq_false_iff_not, not_not] at hc
        rw [hc]
        exact .inr rfl

lemma isPath_eq_true_iff : isPath a = true ↔ ¬ IsNoPath a := by
  have hname : ((longName? a).map fun n => n.text?.isSome).getD true = true ↔ ¬ IsGarbled a := by
    cases hl : longName? a with
    | none =>
      refine iff_of_true rfl ?_
      rintro ⟨name, rest, rfl, -⟩
      rw [List.append_assoc, longName?_dashes] at hl
      cases hl
    | some n =>
      obtain ⟨b, rfl⟩ := exists_of_longName? (Option.isSome_of_eq_some hl)
      rw [longName?_dashes] at hl
      rw [isGarbled_dashes_iff, ← Option.some.inj hl]
      simp [Option.isSome_iff_ne_none]
  rw [isPath, Bool.and_eq_true, Bool.and_eq_true, decide_eq_true_eq, decide_eq_true_eq, hname, IsNoPath, not_or, not_or,
    and_assoc]

lemma IsGarbled.text?_eq_none (h : IsGarbled a) : a.text? = none := by
  obtain ⟨name, rest, rfl, -, hr, ht⟩ := h
  by_contra hne
  rw [dashes, List.append_assoc, List.cons_append, List.cons_append, List.nil_append, ← ne_eq, Bytes.text?_dash,
    Bytes.text?_dash] at hne
  rcases hr with rfl | hr
  · rw [List.append_nil] at hne
    exact hne ht
  · obtain ⟨b, rfl⟩ := List.head?_eq_some_iff.mp hr
    exact Bytes.text?_of_append hne ht

lemma paths?_eq_some (hi : ¬ IsNoPath input) (ho : ¬ IsNoPath output) (name : Bytes) :
    paths? [name, input, output] = some (input, output) := by
  rw [paths?, isPath_eq_true_iff.mpr hi, isPath_eq_true_iff.mpr ho]
  rfl

lemma paths?_eq_none_iff : paths? args = none ↔ args.length ≠ 3 ∨ ∃ a ∈ args.tail, IsNoPath a := by
  rcases args with _ | ⟨name, _ | ⟨input, _ | ⟨output, _ | ⟨extra, args⟩⟩⟩⟩
  · exact iff_of_true rfl (.inl (by decide))
  · exact iff_of_true rfl (.inl (by simp))
  · exact iff_of_true rfl (.inl (by simp))
  · by_cases hio : IsNoPath input ∨ IsNoPath output
    · refine iff_of_true ?_ (.inr (by simpa using hio))
      rw [paths?, if_neg]
      rw [Bool.and_eq_true, isPath_eq_true_iff, isPath_eq_true_iff, ← not_or]
      exact not_not.mpr hio
    · have hio' := not_or.mp hio
      refine iff_of_false ?_ (by simpa using hio')
      rw [paths?_eq_some hio'.1 hio'.2]
      exact Option.some_ne_none _
  · exact iff_of_true rfl (.inl (by simp))

end Paths

section Outcomes

def usageLine : Bytes := Bytes.ofString (usage ++ "\n")

inductive Refuses (w : World) : Except Trouble ℕ → World → Prop
  | told {s : Sink} : w.sink.HasRoom usageLine.length → w.sink.Took usageLine s → Refuses w (.ok 1) { w with sink := s }
  | untold {n : ℕ} {s : Sink} {e : Trouble} : w.sink.room = some n → n < usageLine.length →
      w.sink.Took (usageLine.take n) s → e = .usage (.sink w.sink.refusal) →
      e.chain = ["failed to print usage", w.sink.refusal.message] → Refuses w (.error e) { w with sink := s }

inductive Extracts (settings : Settings) (input output : Path) (w : World) : Except Trouble ℕ → World → Prop
  | failed {f : Failure} {w' : World} : eval (extractTo input output) w = (.error f, w') →
      Extracts settings input output w (.error (.extraction input f)) w'
  | done {ms : List Measurement} {w' : World} : eval (extractTo input output) w = (.ok ms, w') → settings.table = none →
      Extracts settings input output w (.ok 0) w'
  | untabled {ms : List Measurement} {w' w'' : World} {p : Path} {f : Failure} :
      eval (extractTo input output) w = (.ok ms, w') → settings.table = some p →
      eval (writeTable ms p) w' = (.error f, w'') → Extracts settings input output w (.error (.table f)) w''
  | tabled {ms : List Measurement} {w' w'' : World} {p : Path} :
      eval (extractTo input output) w = (.ok ms, w') → settings.table = some p →
      eval (writeTable ms p) w' = (.ok (), w'') → Extracts settings input output w (.ok 0) w''

lemma eval_run_of_paths?_none (h : paths? args = none) (w : World) : eval (run args settings : Worldly Trouble ℕ) w =
    (((w.sink.write usageLine).1.mapError .sink).mapError .usage |>.map fun _ => 1,
      { w with sink := (w.sink.write usageLine).2 }) := by
  have hprint : eval (ExceptT.mk do return (← Host.print usageLine).mapError .usage : Worldly Trouble Unit) w =
      (((w.sink.write usageLine).1.mapError .sink).mapError .usage, { w with sink := (w.sink.write usageLine).2 }) := rfl
  rw [run, h]
  rcases hw : w.sink.write usageLine with ⟨e | _, s⟩
  · rw [hw] at hprint
    exact eval_bind_of_error hprint
  · rw [hw] at hprint
    exact eval_bind_of_ok hprint

lemma refuses_of_paths? (h : paths? args = none) (w : World) :
    Refuses w (eval (run args settings : Worldly Trouble ℕ) w).1 (eval (run args settings : Worldly Trouble ℕ) w).2 := by
  have hl := Sink.lands_write Trouble.usage w.sink usageLine
  rw [eval_run_of_paths?_none h]
  generalize ((w.sink.write usageLine).1.mapError Cause.sink).mapError Trouble.usage = r at hl ⊢
  generalize (w.sink.write usageLine).2 = s at hl ⊢
  cases hl with
  | whole hroom ht => exact .told hroom ht
  | cut hn hlt ht => exact .untold hn hlt ht rfl rfl

lemma extracts_of_paths? (h : paths? args = some (input, output)) (w : World) :
    Extracts settings input output w (eval (run args settings : Worldly Trouble ℕ) w).1
      (eval (run args settings : Worldly Trouble ℕ) w).2 := by
  rw [run, h]
  dsimp only
  rcases he : eval (extractTo input output) w with ⟨f | ms, w'⟩
  · rw [eval_bind_of_error (eval_adapt_of_error _ he)]
    exact .failed he
  · rw [eval_bind_of_ok (eval_adapt_of_ok _ he)]
    cases ht : settings.table with
    | none => exact .done he ht
    | some p =>
      rcases hp : eval (writeTable ms p) w' with ⟨f | _, w''⟩
      · rw [eval_bind_of_error (eval_adapt_of_error _ hp)]
        exact .untabled he ht hp
      · rw [eval_bind_of_ok (eval_adapt_of_ok _ hp)]
        exact .tabled he ht hp

lemma Extracts.not_refuses {r : Except Trouble ℕ} (h : Extracts settings input output w r w') : ¬ Refuses w r w' := by
  intro hr
  cases hr with
  | told => cases h
  | untold _ _ _ he =>
    subst he
    cases h

end Outcomes

/-- A run is refused exactly if it has not two arguments behind its name, or one of the two is empty, two dashes, or
garbled, which no text is. Of a run that is refused come the usage line and the status 1, or what says that the line
could not be printed; of any other an extraction from the one path to the other. -/
theorem run_by_arguments (args : List Bytes) (settings : Settings) (w : World) :
    let r := eval (run args settings : Worldly Trouble ℕ) w
    (Refuses w r.1 r.2 ↔ args.length ≠ 3 ∨ ∃ a ∈ args.tail, a = [] ∨ a = dashes ∨ IsGarbled a) ∧
      (∀ name input output, args = [name, input, output] → ¬ IsNoPath input → ¬ IsNoPath output →
        Extracts settings input output w r.1 r.2) ∧
      ∀ a, IsGarbled a → a.text? = none := by
  intro r
  refine ⟨⟨fun hr => ?_, fun h => refuses_of_paths? (paths?_eq_none_iff.mpr h) w⟩, ?_, fun a => IsGarbled.text?_eq_none⟩
  · apply paths?_eq_none_iff.mp
    cases hp : paths? args with
    | none => rfl
    | some io =>
      have he : Extracts settings io.1 io.2 w r.1 r.2 := extracts_of_paths? hp w
      exact absurd hr he.not_refuses
  · rintro name input output rfl hi ho
    exact extracts_of_paths? (paths?_eq_some hi ho name) w

theorem run_by_arguments_like_options :
    ¬ IsNoPath [45, 104] ∧ ¬ IsNoPath [45, 45, 97, 61, 255] ∧
      let r := eval (run [[120], [45, 104], [45, 45, 97, 61, 255]] {} : Worldly Trouble ℕ) crowded
      Extracts {} [45, 104] [45, 45, 97, 61, 255] crowded r.1 r.2 := by
  have hi : ¬ IsNoPath [45, 104] := isPath_eq_true_iff.mp (by decide)
  have ho : ¬ IsNoPath [45, 45, 97, 61, 255] := isPath_eq_true_iff.mp (by decide)
  exact ⟨hi, ho, (run_by_arguments [[120], [45, 104], [45, 45, 97, 61, 255]] {} crowded).2.1 _ _ _ rfl hi ho⟩

theorem garbled_argument_refused :
    (∀ a ∈ [[105], [45, 45, 255]], a ≠ [] ∧ a ≠ dashes) ∧
      let r := eval (run [[120], [105], [45, 45, 255]] {} : Worldly Trouble ℕ) crowded
      Refuses crowded r.1 r.2 ∧ ¬ Extracts {} [105] [45, 45, 255] crowded r.1 r.2 := by
  have hnone : paths? [[120], [105], [45, 45, 255]] = none := by decide
  refine ⟨by decide, ?_⟩
  intro r
  have hr : Refuses crowded r.1 r.2 := refuses_of_paths? hnone crowded
  exact ⟨hr, fun h => h.not_refuses hr⟩

end Command

end BenchReport
