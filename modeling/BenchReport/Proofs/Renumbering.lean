import BenchReport.Proofs.Findings
import BenchReport.Proofs.Interchange
import BenchReport.Proofs.Reference
import BenchReport.Proofs.Transcript
import BenchReport.Proofs.UniqueCuts

namespace BenchReport

open Text ResultLine

namespace ResultLine

lemma steady_pattern : Pattern.Steady isNumeral pattern := by
  have hword {u : List Char} (hu : (u.all fun c => !isNumeral c) = true) : (Item.word u).Steady isNumeral := by
    intro c hc
    simpa using List.all_eq_true.mp hu c hc
  have hblank : AllOrNone isNumeral isBlank := Or.inr fun _ => not_isBlank_of_isNumeral
  have hvisible : AllOrNone isNumeral isVisible := Or.inl fun _ => isVisible_of_isNumeral
  have hnumeral : AllOrNone isNumeral isNumeral := Or.inl fun _ hc => hc
  have hitems : ∀ i ∈ head ++ tail, i.Steady isNumeral := by
    simp only [head, tail, List.cons_append, List.nil_append, List.forall_mem_cons, List.not_mem_nil, false_implies,
      implies_true, and_true]
    exact ⟨hword (by decide), hblank, hvisible, hblank, hword (by decide), hblank, hnumeral, hblank,
      hword (by decide), hblank, hword (by decide), hblank, hnumeral, hword (by decide)⟩
  refine pattern_induction Pattern.steady_nil (fun i hi is he h => h.cons he (hitems i hi)) ?_
  exact fun htail => htail.filler (fun _ => isInLine_of_isNumeral) (rejects_tail (by decide))

lemma Tail.reported_eq {t t' : Tail} (h : t.text = t'.text) : t.reported = t'.reported := by
  have ht := longest?_tail t []
  rw [h, longest?_tail] at ht
  exact (congrArg Prod.fst (Option.some.inj ht)).symm

inductive Quantity
  | time
  | variance

namespace Form

variable {f g : Form}

def numeral (f : Form) : Quantity → Run isNumeral
  | .time => f.tail.time
  | .variance => f.tail.variance

def put (f : Form) (n : Run isNumeral) : Quantity → Form
  | .time => { f with tail := { f.tail with time := n } }
  | .variance => { f with tail := { f.tail with variance := n } }

lemma put_numeral (f : Form) (q : Quantity) : f.put (f.numeral q) q = f := by
  cases q <;> rfl

lemma exists_text_put (f : Form) (q : Quantity) :
    ∃ y v : List Char, y ≠ [] ∧ ∀ n, (f.put n q).text = y ++ (n.chars ++ v) := by
  cases q with
  | time =>
    refine ⟨f.opening ++ (f.filler ++ ("bench:".toList ++ f.tail.lead.chars)), f.tail.timeGap.chars ++ ("ns/iter".toList ++
      (f.tail.unitGap.chars ++ ("(+/-".toList ++ (f.tail.signGap.chars ++ (f.tail.variance.chars ++ ")".toList))))),
      List.cons_ne_nil _ _, fun n => ?_⟩
    rw [text_eq_append]
    delta Tail.text
    simp only [put, opening, List.append_assoc]
  | variance =>
    refine ⟨f.opening ++ (f.filler ++ ("bench:".toList ++ (f.tail.lead.chars ++ (f.tail.time.chars ++
      (f.tail.timeGap.chars ++ ("ns/iter".toList ++ (f.tail.unitGap.chars ++ ("(+/-".toList ++
        f.tail.signGap.chars)))))))), ")".toList, List.cons_ne_nil _ _, fun n => ?_⟩
    rw [text_eq_append]
    delta Tail.text
    simp only [put, opening, List.append_assoc]

lemma name_eq (h : f.text = g.text) : f.name.chars = g.name.chars := by
  have hb : ∀ c, isBlank c = true → isVisible c = false := fun c hc => by simp [isVisible, hc]
  have hv : ∀ c, isVisible c = true → isBlank c = false := fun c hc => by simpa [isVisible] using hc
  have hname (f : Form) : ∃ k, Pattern.longest? [.word "test".toList, .run isBlank, .field isVisible] f.text =
      some ([f.name.chars], k) := by
    delta text
    rw [Pattern.longest?_word, Pattern.longest?_run _ (f.name.head?_append hv _),
      Pattern.longest?_field _ (f.gap.head?_append hb _)]
    exact ⟨_, rfl⟩
  obtain ⟨k, hf⟩ := hname f
  obtain ⟨j, hg⟩ := hname g
  rw [h, hg] at hf
  have hfields := congrArg Prod.fst (Option.some.inj hf)
  exact (List.cons.inj hfields).1.symm

lemma tail_text_eq (h : f.text = g.text) : f.tail.text = g.tail.text := by
  have hmark (f : Form) : f.text = (f.opening ++ f.filler) ++ 'b' :: f.tail.text.tail := by
    rw [text_eq_append, ← f.tail.text_eq_cons, List.append_assoc]
  rw [hmark f, hmark g] at h
  rw [f.tail.text_eq_cons, g.tail.text_eq_cons,
    append_cons_inj_last f.tail.not_mem_tail_text g.tail.not_mem_tail_text h]

lemma reported_eq (h : f.text = g.text) : f.reported = g.reported := by
  rw [reported, reported, name_eq h, Tail.reported_eq (tail_text_eq h)]

def hit (f : Form) (start : ℕ) : Hit :=
  ⟨start, start + f.text.length, .ofList f.name.chars, .ofList f.tail.time.chars, .ofList f.tail.variance.chars⟩

lemma hit_eq (h : f.text = g.text) (start : ℕ) : f.hit start = g.hit start := by
  have hr := reported_eq h
  simp only [reported, Tail.reported, List.cons.injEq] at hr
  rw [hit, hit, h, hr.1, hr.2.1, hr.2.2.1]

end Form

end ResultLine

namespace Hit

variable {text : String} {s t y v before behind : List Char} {f g : Form} {h : Hit} {p : ℕ}

lemma at?_congr (hm : pattern.matchAt s = pattern.matchAt t) (p : ℕ) : at? p s = at? p t := by
  rw [at?, at?, hm]

lemma exists_at?_of_matchAt {m : List (List Char) × ℕ} (hm : pattern.matchAt s = some m) (p : ℕ) :
    ∃ h, at? p s = some h ∧ h.stop = p + m.2 := by
  obtain ⟨fs, k⟩ := m
  obtain ⟨w, r, rfl, ht, hlen⟩ := Pattern.takes_of_matchAt hm
  obtain ⟨f, rfl, rfl⟩ := takes_pattern_iff.mp ht
  refine ⟨⟨p, p + k, .ofList f.name.chars, .ofList f.tail.time.chars, .ofList f.tail.variance.chars⟩, ?_, rfl⟩
  rw [at?, hm]
  rfl

inductive Course (y v : List Char) (p : ℕ) : Prop
  | passes (earlier : List Hit) (he : ∀ h ∈ earlier, h.stop ≤ y.length)
      (h : ∀ n : Run isNumeral, onward (y ++ (n.chars ++ v)) p =
        earlier ++ onward (y ++ (n.chars ++ v)) y.length)
  | covers (earlier : List Hit) (he : ∀ h ∈ earlier, h.stop ≤ y.length) (start k : ℕ)
      (h : ∀ n : Run isNumeral, ∃ h : Hit, h.start = start ∧ h.stop = y.length + n.chars.length + k ∧
        onward (y ++ (n.chars ++ v)) p = earlier ++ h :: onward (y ++ (n.chars ++ v)) h.stop)

lemma Course.cons (q : ℕ) (hits : List Hit) (hh : ∀ h ∈ hits, h.stop ≤ y.length)
    (hp : ∀ n : Run isNumeral, onward (y ++ (n.chars ++ v)) p = hits ++ onward (y ++ (n.chars ++ v)) q)
    (hq : Course y v q) : Course y v p := by
  cases hq with
  | passes earlier he h =>
    refine .passes (hits ++ earlier) (List.forall_mem_append.mpr ⟨hh, he⟩) fun n => ?_
    rw [hp, h n, List.append_assoc]
  | covers earlier he start k h =>
    refine .covers (hits ++ earlier) (List.forall_mem_append.mpr ⟨hh, he⟩) start k fun n => ?_
    obtain ⟨g, hstart, hstop, hg⟩ := h n
    exact ⟨g, hstart, hstop, by rw [hp, hg, List.append_assoc]⟩

lemma course (y v : List Char) (hp : p ≤ y.length) : Course y v p := by
  induction hk : y.length - p using Nat.strongRecOn generalizing p with
  | ind k ih =>
    rcases Nat.eq_or_lt_of_le hp with rfl | hlt
    · exact .passes [] (by simp) fun n => rfl
    · have hdrop (n : Run isNumeral) :
          (y ++ (n.chars ++ v)).drop p = y.drop p ++ (n.chars ++ v) := List.drop_append_of_le_length hp
      have hlen : (y.drop p).length = y.length - p := List.length_drop
      cases steady_pattern (y.drop p) v with
      | fails hf =>
        refine Course.cons (p + 1) [] (by simp) ?_ (ih _ (by omega) (by omega) rfl)
        intro n
        rw [List.nil_append]
        apply onward_of_none
        rw [hdrop, at?, hf n]
      | before m hm hb =>
        obtain ⟨g, hg, hstop⟩ := exists_at?_of_matchAt (hb (Numeral.run 0)) p
        have hall (n : Run isNumeral) :
            at? p ((y ++ (n.chars ++ v)).drop p) = some g := by
          rw [hdrop, ← hg]
          exact at?_congr ((hb n).trans (hb (Numeral.run 0)).symm) p
        obtain ⟨-, hpos, -⟩ := at?_bounds (hall (Numeral.run 0))
        have hle : g.stop ≤ y.length := by omega
        refine Course.cons g.stop [g] (by simpa using hle) ?_ (ih _ (by omega) hle rfl)
        intro n
        exact onward_of_some (hall n)
      | across fields j ha =>
        refine .covers [] (by simp) p j fun n => ?_
        obtain ⟨g, hg, hstop⟩ := exists_at?_of_matchAt (ha n) p
        rw [← hdrop] at hg
        refine ⟨g, (at?_bounds hg).1, ?_, onward_of_some hg⟩
        rw [hstop, hlen]
        omega

lemma eq_hit_of_shows (hf : h.Shows f) : h = f.hit h.start := by
  obtain ⟨hstop, hname, htime, hvariance⟩ := hf
  rw [Form.hit, ← hstop, ← hname, ← htime, ← hvariance]

lemma eq_hit_of_mem_onward (hs : s = before ++ (f.text ++ behind)) (hh : h ∈ onward s p)
    (hstart : h.start = before.length) (hstop : h.stop = before.length + f.text.length) :
    h = f.hit before.length := by
  obtain ⟨-, g, r, hd, hg⟩ := shows_of_at? (at?_of_mem_onward hh).2
  have hlen : g.text.length = f.text.length := by
    have := hg.stop
    omega
  rw [hs, hstart, List.drop_left] at hd
  rw [eq_hit_of_shows hg, hstart]
  exact Form.hit_eq (List.append_inj_left hd.symm hlen) _

lemma onward_behind (hs : s = before ++ (t ++ behind)) :
    onward s (before.length + t.length) = (onward behind 0).map (shift (before.length + t.length)) := by
  rw [hs, ← List.append_assoc, ← List.length_append]
  exact onward_append_length (before ++ t) behind

lemma exists_lies_of_mem_all (hh : h ∈ all text) :
    ∃ (before : List Char) (f : Form) (behind : List Char),
      text.toList = before ++ (f.text ++ behind) ∧ h = f.hit before.length := by
  rw [all_eq_onward] at hh
  obtain ⟨-, f, r, hd, hf⟩ := shows_of_at? (at?_of_mem_onward hh).2
  obtain ⟨-, hpos, hle⟩ := bounds_of_mem_onward hh
  have hlen : (text.toList.take h.start).length = h.start := List.length_take_of_le (by omega)
  refine ⟨text.toList.take h.start, f, r, ?_, ?_⟩
  · rw [← hd, List.take_append_drop]
  · rw [hlen]
    exact eq_hit_of_shows hf

lemma exists_covering {n : Run isNumeral} (hh : h ∈ onward (y ++ (n.chars ++ v)) 0) (hstart : h.start < y.length)
    (hstop : y.length < h.stop) :
    ∃ (earlier : List Hit) (k : ℕ), h.stop = y.length + n.chars.length + k ∧
      ∀ n' : Run isNumeral, ∃ h' : Hit, h'.start = h.start ∧ h'.stop = y.length + n'.chars.length + k ∧
        onward (y ++ (n'.chars ++ v)) 0 = earlier ++ h' :: onward (y ++ (n'.chars ++ v)) h'.stop := by
  cases course y v (Nat.zero_le _) with
  | passes earlier he hc =>
    rw [hc] at hh
    rcases List.mem_append.mp hh with hm | hm
    · have hle := he h hm
      omega
    · have hle := (bounds_of_mem_onward hm).1
      omega
  | covers earlier he start k hc =>
    obtain ⟨g, hgstart, hgstop, hg⟩ := hc n
    have hhg : h = g := by
      rw [hg] at hh
      rcases List.mem_append.mp hh with hm | hm
      · have hle := he h hm
        omega
      · rcases List.mem_cons.mp hm with hm | hm
        · exact hm
        · have hle := (bounds_of_mem_onward hm).1
          omega
    rw [hhg, hgstart]
    exact ⟨earlier, k, hgstop, hc⟩

lemma exists_onward_put (f : Form) (q : Quantity) (before behind : List Char)
    (hh : f.hit before.length ∈ onward (before ++ (f.text ++ behind)) 0) :
    ∃ earlier : List Hit, ∀ n : Run isNumeral,
      onward (before ++ ((f.put n q).text ++ behind)) 0 =
        earlier ++ (f.put n q).hit before.length ::
          (onward behind 0).map (shift (before.length + (f.put n q).text.length)) := by
  obtain ⟨y, v, hy, htext⟩ := f.exists_text_put q
  have hs (n : Run isNumeral) : before ++ ((f.put n q).text ++ behind) =
      (before ++ y) ++ (n.chars ++ (v ++ behind)) := by
    rw [htext]
    simp only [List.append_assoc]
  have hlen (n : Run isNumeral) : (f.put n q).text.length = y.length + (n.chars.length + v.length) := by
    rw [htext, List.length_append, List.length_append]
  have hself := hs (f.numeral q)
  have hflen := hlen (f.numeral q)
  rw [f.put_numeral] at hself hflen
  have hypos := List.length_pos_iff.mpr hy
  have hnpos := List.length_pos_iff.mpr (f.numeral q).ne_nil
  have hstart : (f.hit before.length).start = before.length := rfl
  have hstop : (f.hit before.length).stop = before.length + f.text.length := rfl
  have hylen : (before ++ y).length = before.length + y.length := List.length_append
  rw [hself] at hh
  obtain ⟨earlier, k, hk, hcovers⟩ := exists_covering hh (by omega) (by omega)
  refine ⟨earlier, fun n => ?_⟩
  obtain ⟨g, hgstart, hgstop, hg⟩ := hcovers n
  have hend : g.stop = before.length + (f.put n q).text.length := by
    have hn := hlen n
    omega
  have hmem : g ∈ onward ((before ++ y) ++ (n.chars ++ (v ++ behind))) 0 := by
    rw [hg]
    simp
  have hput : g = (f.put n q).hit before.length := eq_hit_of_mem_onward (hs n).symm hmem (hgstart.trans hstart) hend
  rw [hs n, hg, hend, onward_behind (hs n).symm, hput]

end Hit

namespace Finding

open Hit

/-- What is told differs in a quantity, or in that it can be read, and in nothing else. -/
def SameBut : Quantity → Finding → Finding → Prop
  | .time, .matched m, .matched m' => m'.name = m.name ∧ m'.varianceNs = m.varianceNs
  | .time, .matched m, .skipped name' _ variance' =>
    name' = m.name ∧ Numeral.readGrouped? variance' = some m.varianceNs
  | .time, .skipped name _ variance, .matched m' =>
    m'.name = name ∧ Numeral.readGrouped? variance = some m'.varianceNs
  | .time, .skipped name _ variance, .skipped name' _ variance' => name' = name ∧ variance' = variance
  | .variance, .matched m, .matched m' => m'.name = m.name ∧ m'.timeNs = m.timeNs
  | .variance, .matched m, .skipped name' time' _ =>
    name' = m.name ∧ Numeral.readGrouped? time' = some m.timeNs
  | .variance, .skipped name time _, .matched m' =>
    m'.name = name ∧ Numeral.readGrouped? time = some m'.timeNs
  | .variance, .skipped name time _, .skipped name' time' _ => name' = name ∧ time' = time

lemma sameBut_put (f : Form) (q : Quantity) (n : Run isNumeral) (p : ℕ) :
    SameBut q (ofHit (f.hit p)) (ofHit ((f.put n q).hit p)) := by
  cases ht : Numeral.readGrouped? (.ofList f.tail.time.chars) <;>
    cases hv : Numeral.readGrouped? (.ofList f.tail.variance.chars) <;>
      cases hn : Numeral.readGrouped? (.ofList n.chars) <;>
        cases q <;> simp [ofHit, Form.hit, Form.put, ht, hv, hn, SameBut]

structure AlikeBut (q : Quantity) (text text' : String) (h h' : Hit) : Prop where
  exists_eq : ∃ earlier later : List Hit,
    Hit.all text = earlier ++ h :: later.map (shift h.stop) ∧
      Hit.all text' = earlier ++ h' :: later.map (shift h'.stop) ∧
      all text = earlier.map ofHit ++ ofHit h :: later.map ofHit ∧
      all text' = earlier.map ofHit ++ ofHit h' :: later.map ofHit
  sameBut : SameBut q (ofHit h) (ofHit h')

/-- A numeral put in the place of another changes its own hit, the places of those behind, and nothing
else. -/
theorem all_put_numeral (text : String) :
    (∀ h ∈ Hit.all text, ∃ (before : List Char) (f : Form) (behind : List Char),
      text.toList = before ++ (f.text ++ behind) ∧ h = f.hit before.length) ∧
    ∀ (before : List Char) (f : Form) (behind : List Char), text.toList = before ++ (f.text ++ behind) →
      f.hit before.length ∈ Hit.all text → ∀ (q : Quantity) (n : Run isNumeral),
        AlikeBut q text (.ofList (before ++ ((f.put n q).text ++ behind))) (f.hit before.length)
          ((f.put n q).hit before.length) := by
  refine ⟨fun _ => exists_lies_of_mem_all, ?_⟩
  intro before f behind htext hh q n
  rw [all_eq_onward, htext] at hh
  obtain ⟨earlier, hput⟩ := exists_onward_put f q before behind hh
  have hself := hput (f.numeral q)
  have hother := hput n
  rw [f.put_numeral, ← htext, ← all_eq_onward] at hself
  rw [← String.toList_ofList (l := before ++ ((f.put n q).text ++ behind)), ← all_eq_onward] at hother
  refine ⟨⟨earlier, onward behind 0, hself, hother, ?_, ?_⟩, sameBut_put f q n _⟩
  · rw [all, hself, List.map_append, List.map_cons, map_ofHit_shift]
  · rw [all, hother, List.map_append, List.map_cons, map_ofHit_shift]

theorem all_put_numeral_unreadable :
    let text := "test a ... bench: 1 ns/iter (+/- 2)\ntest b ... bench: 3 ns/iter (+/- 4)"
    let behind := "\ntest b ... bench: 3 ns/iter (+/- 4)".toList
    let f := Printed.form ⟨['a'], by simp, List.all_eq_true.mp (by decide)⟩ 1 2 0 0
    let n : Run isNumeral := ⟨[','], by simp, List.all_eq_true.mp (by decide)⟩
    text.toList = [] ++ (f.text ++ behind) ∧ f.hit 0 ∈ Hit.all text ∧
      AlikeBut .time text (.ofList ([] ++ ((f.put n .time).text ++ behind))) (f.hit 0)
        ((f.put n .time).hit 0) := by
  intro text behind f n
  have htext : text.toList = [] ++ (f.text ++ behind) := by decide +kernel
  have hh : f.hit ([] : List Char).length ∈ Hit.all text := by decide +kernel
  exact ⟨htext, hh, (all_put_numeral text).2 [] f behind htext hh .time n⟩

end Finding

end BenchReport
