import BenchReport.Proofs.Transcript

namespace BenchReport

open Text ResultLine

def isSpacing (c : Char) : Bool := c == ' ' || c == '\t' || c == '\r'

structure LineEntry where
  name : Run isVisible
  time : Run isNumeral
  variance : Run isNumeral

namespace LineEntry

def text (e : LineEntry) : List Char :=
  "test ".toList ++ e.name.chars ++ " ... bench: ".toList ++ e.time.chars ++ " ns/iter (+/- ".toList ++
    e.variance.chars ++ ")".toList

def finding (e : LineEntry) : Finding :=
  .ofHit ⟨0, e.text.length, .ofList e.name.chars, .ofList e.time.chars, .ofList e.variance.chars⟩

def line (e : LineEntry) (rest : List (Run isSpacing × LineEntry)) : List Char :=
  e.text ++ rest.flatMap fun x => x.1.chars ++ x.2.text

def last (e : LineEntry) : List (Run isSpacing × LineEntry) → LineEntry
  | [] => e
  | (_, e') :: rest => e'.last rest

def opening (e : LineEntry) : List Char := "test ".toList ++ (e.name.chars ++ " ".toList)

def tail (e : LineEntry) : Tail := ⟨spaces 0, e.time, spaces 0, spaces 0, spaces 0, e.variance⟩

def filler (e : LineEntry) : List (Run isSpacing × LineEntry) → List Char
  | [] => "... ".toList
  | (sep, e') :: rest => "... ".toList ++ (e.tail.text ++ (sep.chars ++ (e'.opening ++ e'.filler rest)))

variable (e : LineEntry) (sep : Run isSpacing) (e' : LineEntry) (rest : List (Run isSpacing × LineEntry))

lemma filler_nil : e.filler [] = "... ".toList := rfl

lemma filler_cons : e.filler ((sep, e') :: rest) =
    "... ".toList ++ (e.tail.text ++ (sep.chars ++ (e'.opening ++ e'.filler rest))) := rfl

lemma text_eq : e.text = e.opening ++ ("... ".toList ++ e.tail.text) := by
  delta text opening Tail.text
  simp only [List.append_assoc]
  rfl

lemma line_eq : e.line rest = e.opening ++ (e.filler rest ++ (e.last rest).tail.text) := by
  induction rest generalizing e with
  | nil => rw [line, text_eq, filler_nil, last, List.flatMap_nil, List.append_nil]
  | cons x rest ih =>
    have hx := ih x.2
    rw [line] at hx
    rw [line, List.flatMap_cons, List.append_assoc, hx, text_eq, filler_cons, last]
    simp only [List.append_assoc]

lemma isInLine_of_isSpacing {c : Char} (hc : isSpacing c = true) : isInLine c = true := by
  simp only [isSpacing, Bool.or_eq_true, beq_iff_eq] at hc
  rcases hc with (rfl | rfl) | rfl <;> decide

lemma isInLine_opening : ∀ c ∈ e.opening, isInLine c = true := by
  delta opening
  rw [List.forall_mem_append, List.forall_mem_append]
  exact ⟨List.all_eq_true.mp (by decide), fun c hc => isInLine_of_isVisible (e.name.all c hc),
    List.all_eq_true.mp (by decide)⟩

lemma isInLine_tail : ∀ c ∈ e.tail.text, isInLine c = true := by
  have hs : ∀ c ∈ (spaces 0).chars, isInLine c = true := List.all_eq_true.mp (by decide)
  delta Tail.text
  simp only [List.forall_mem_append]
  exact ⟨List.all_eq_true.mp (by decide), hs, fun c hc => isInLine_of_isNumeral (e.time.all c hc), hs,
    List.all_eq_true.mp (by decide), hs, List.all_eq_true.mp (by decide), hs,
    fun c hc => isInLine_of_isNumeral (e.variance.all c hc), List.all_eq_true.mp (by decide)⟩

lemma isInLine_filler : ∀ c ∈ e.filler rest, isInLine c = true := by
  induction rest generalizing e with
  | nil =>
    rw [filler_nil]
    exact List.all_eq_true.mp (by decide)
  | cons x rest ih =>
    rw [filler_cons]
    simp only [List.forall_mem_append]
    exact ⟨List.all_eq_true.mp (by decide), e.isInLine_tail, fun c hc => isInLine_of_isSpacing (x.1.all c hc),
      x.2.isInLine_opening, ih x.2⟩

def form : Form where
  lead := spaces 0
  name := e.name
  gap := spaces 0
  filler := e.filler rest
  inLine := e.isInLine_filler rest
  tail := (e.last rest).tail

lemma text_form : (e.form rest).text = e.line rest := by
  rw [line_eq, Form.text_eq_append]
  delta Form.opening opening
  simp only [List.append_assoc]
  rfl

lemma isLongest_form : (e.form rest).IsLongest [] := by
  apply Form.isLongest_of_silent _ List.not_mem_nil
  cases rest <;> exact Pattern.head?_word (u := "... ".toList) (by decide) (by decide) _

/-- However many results share a line, one is found; so each gets its own numerals only if there is no
other. -/
theorem all_sharedLine :
    Finding.all (.ofList (e.line rest)) = [{ e.last rest with name := e.name }.finding] ∧
      (Finding.all (.ofList (e.line rest)) = (e :: rest.map Prod.snd).map finding ↔ rest = []) := by
  have hh : Hit.at? 0 ((e.form rest).text ++ []) =
      some ⟨0, (e.form rest).text.length, .ofList e.name.chars, .ofList (e.last rest).time.chars,
        .ofList (e.last rest).variance.chars⟩ := by
    rw [Hit.at?_eq_reference?, Hit.reference?_eq_some_iff]
    exact ⟨_, _, rfl, e.isLongest_form rest, rfl, (Nat.zero_add _).symm, rfl, rfl, rfl⟩
  rw [List.append_nil, text_form] at hh
  have hone : Finding.all (.ofList (e.line rest)) = [{ e.last rest with name := e.name }.finding] := by
    rw [Finding.all_ofList, Hit.onward_of_some (s := e.line rest) hh, Hit.onward_of_length_le (Nat.le_refl _)]
    rfl
  refine ⟨hone, ?_⟩
  rw [hone]
  constructor
  · intro he
    have hlen := congrArg List.length he
    simpa using hlen
  · rintro rfl
    rfl

theorem all_ne_of_two_on_a_line :
    Finding.all "test a ... bench: 1 ns/iter (+/- 2) test b ... bench: 3 ns/iter (+/- 4)" ≠
        [.matched ⟨"a", 1, 2⟩, .matched ⟨"b", 3, 4⟩] ∧
      Finding.all "test a ... bench: 1 ns/iter (+/- 2) test b ... bench: 3 ns/iter (+/- 4)" =
        [.matched ⟨"a", 3, 4⟩] ∧
      Finding.all "test a ... bench: 1 ns/iter (+/- 2) test b ... bench: , ns/iter (+/- 4)" =
        [.skipped "a" "," "4"] := by
  decide +kernel

end LineEntry

end BenchReport
