import BenchReport.Proofs.Offering
import BenchReport.Proofs.WorldRuns

namespace BenchReport

variable {w w' : World} {b text : Bytes} {n : ℕ} {a : Answer} {c : Cause} {e : SinkError} {s s' : Sink}

namespace Sink

def HasRoom (s : Sink) (n : ℕ) : Prop := ∀ room ∈ s.room, n ≤ room

structure Took (s : Sink) (b : Bytes) (s' : Sink) : Prop where
  taken : s'.taken = s.taken ++ b
  room : s'.room = s.room.map (· - b.length)
  stalls : s'.stalls = s.stalls

def refusal (s : Sink) : SinkError := if s.stalls then .stalled else .full

lemma Took.refl (s : Sink) : s.Took [] s := ⟨(List.append_nil _).symm, by simp, rfl⟩

lemma Took.refusal (h : s.Took b s') : s'.refusal = s.refusal := by rw [Sink.refusal, h.stalls, Sink.refusal]

lemma taken_cons (s : Sink) (room : Option ℕ) (b : Bytes) :
    ({ s with room := room, pieces := b :: s.pieces } : Sink).taken = s.taken ++ b := by
  simp [taken]

lemma write_nil (s : Sink) : s.write [] = (.ok (), s) := by rw [write, if_pos rfl]

lemma took_of_offer (h : s.offer b = .ok (n, s')) : n ≤ b.length ∧ s.HasRoom n ∧ s.Took (b.take n) s' := by
  rw [offer.eq_def] at h
  split at h
  · next hr =>
    cases h
    refine ⟨Nat.le_refl _, by simp [HasRoom, hr], ?_, by simp [hr], rfl⟩
    rw [List.take_length]
    exact taken_cons s s.room b
  · split_ifs at h
    cases h
    exact ⟨Nat.zero_le _, fun _ _ => Nat.zero_le _, .refl s⟩
  · next room _ hr =>
    cases h
    refine ⟨Nat.min_le_right _ _, fun k hk => ?_, taken_cons s _ _, ?_, rfl⟩
    · obtain rfl := Option.some.inj (hr.symm.trans hk)
      exact Nat.min_le_left _ _
    · simp [hr]

lemma refusal_of_error (h : s.offer b = .error e) : s.room = some 0 ∧ e = s.refusal := by
  rw [offer.eq_def] at h
  split at h
  · cases h
  · next hr =>
    split_ifs at h with hs
    cases h
    exact ⟨hr, (if_neg fun h => hs (.inl h)).symm⟩
  · cases h

lemma refusal_of_stalled (hb : b ≠ []) (h : s.offer b = .ok (0, s')) : s.room = some 0 ∧ .stalled = s.refusal := by
  have hl := List.length_pos_iff.mpr hb
  rw [offer.eq_def] at h
  split at h
  · obtain ⟨hn, -⟩ := Prod.mk.inj (Except.ok.inj h)
    omega
  · next hr =>
    split_ifs at h with hs
    exact ⟨hr, (if_pos (hs.resolve_right hb)).symm⟩
  · next room hne hr =>
    obtain ⟨hn, -⟩ := Prod.mk.inj (Except.ok.inj h)
    exact absurd (by omega : room = 0) hne

lemma stalls_write (s : Sink) (b : Bytes) : (s.write b).2.stalls = s.stalls := by
  induction s, b using Sink.write.induct with
  | case1 s => rw [write_nil]
  | case2 s b hb e ho => rw [write, if_neg hb, ho]
  | case3 s b hb s' ho =>
    rw [write, if_neg hb, ho]
    exact (took_of_offer ho).2.2.stalls
  | case4 s b hb n s' ho ih =>
    rw [write, if_neg hb, ho]
    exact ih.trans (took_of_offer ho).2.2.stalls

end Sink

namespace World

def offer (w : World) (b : Bytes) : Answer × World :=
  match w.sink.offer b with
  | .error e => (.refused (.sink e), w)
  | .ok (n, s) => (.took n, { w with sink := s })

lemma offer_of_ok (h : w.sink.offer b = .ok (n, s)) : w.offer b = (.took n, { w with sink := s }) := by rw [offer, h]

lemma offer_of_error (h : w.sink.offer b = .error e) : w.offer b = (.refused (.sink e), w) := by rw [offer, h]

lemma offer_cases (h : w.offer b = (a, w')) :
    (∃ n s, w.sink.offer b = .ok (n, s) ∧ a = .took n ∧ w' = { w with sink := s }) ∨
      ∃ e, w.sink.offer b = .error e ∧ a = .refused (.sink e) ∧ w' = w := by
  cases ho : w.sink.offer b with
  | ok ns =>
    cases (offer_of_ok ho).symm.trans h
    exact Or.inl ⟨_, _, rfl, rfl, rfl⟩
  | error e =>
    cases (offer_of_error ho).symm.trans h
    exact Or.inr ⟨_, rfl, rfl, rfl⟩

lemma offers_write (w : World) (b : Bytes) :
    Offers offer w b ((w.sink.write b).1.mapError .sink) { w with sink := (w.sink.write b).2 } := by
  generalize hs : w.sink = s
  induction s, b using Sink.write.induct generalizing w with
  | case1 s =>
    rw [Sink.write_nil, ← hs]
    exact .nil
  | case2 s b hb e ho =>
    rw [Sink.write, if_neg hb, ho, ← hs]
    exact .failed hb (offer_of_error (hs ▸ ho)) rfl
  | case3 s b hb s' ho =>
    rw [Sink.write, if_neg hb, ho]
    exact .failed hb (offer_of_ok (hs ▸ ho)) rfl
  | case4 s b hb n s' ho ih =>
    rw [Sink.write, if_neg hb, ho]
    exact .took hb (offer_of_ok (hs ▸ ho)) (ih { w with sink := s' } rfl)

instance : Gauge World where
  taken w := w.sink.taken
  room w := w.sink.room

lemma gained_of_took (h : w.sink.Took b s) : Gained w b { w with sink := s } := ⟨h.taken, h.room⟩

lemma refusal_of_offer (hb : b ≠ []) (h : w.offer b = (a, w')) (hc : a.cause? = some c) :
    w.sink.room = some 0 ∧ Gained w [] w' ∧ c = .sink w'.sink.refusal := by
  obtain ⟨n, s, ho, rfl, rfl⟩ | ⟨e, ho, rfl, rfl⟩ := offer_cases h
  · cases n with
    | zero =>
      obtain ⟨hroom, hs⟩ := Sink.refusal_of_stalled hb ho
      have ht := (Sink.took_of_offer ho).2.2
      cases hc
      exact ⟨hroom, gained_of_took ht, by rw [hs, ht.refusal]⟩
    | succ n => cases hc
  · obtain ⟨hroom, he⟩ := Sink.refusal_of_error ho
    cases hc
    exact ⟨hroom, .refl _, congrArg Cause.sink he⟩

instance : Limited World where
  offer := offer
  print_offers := offers_write
  of_took h := by
    obtain ⟨_, s, ho, ⟨⟩, rfl⟩ | ⟨_, -, ⟨⟩, -⟩ := offer_cases h
    obtain ⟨hn, hroom, ht⟩ := Sink.took_of_offer ho
    exact ⟨hn, hroom, gained_of_took ht⟩
  of_interrupted h := by obtain ⟨_, _, -, ⟨⟩, -⟩ | ⟨_, -, ⟨⟩, -⟩ := offer_cases h
  of_failed hb h hc :=
    have hr := refusal_of_offer hb h hc
    ⟨hr.1, hr.2.1⟩

end World

/-- What comes of a text at a sink: all of it is taken, or as much as there is room for. -/
inductive Sink.Lands {ε : Type} (f : Cause → ε) (s : Sink) (text : Bytes) : Except ε Unit → Sink → Prop
  | whole {s' : Sink} : s.HasRoom text.length → s.Took text s' → Lands f s text (.ok ()) s'
  | cut {s' : Sink} {n : ℕ} : s.room = some n → n < text.length → s.Took (text.take n) s' →
      Lands f s text (.error (f (.sink s.refusal))) s'

section Landing

open Worldly

variable {ε : Type} {f : Cause → ε} {r : Except ε Unit} {ms : List Measurement}

lemma Arrives.lands (h : Arrives f w text r w') (hs : w'.sink.stalls = w.sink.stalls) :
    w.sink.Lands f text r w'.sink := by
  cases h with
  | whole hroom ht => exact .whole hroom ⟨ht.taken_eq, ht.room_eq, hs⟩
  | cut hk hlt ht hb ho hc =>
    have htook : w.sink.Took _ w'.sink := ⟨ht.taken_eq, ht.room_eq, hs⟩
    obtain rfl := (World.refusal_of_offer hb ho hc).2.2
    rw [htook.refusal]
    exact .cut hk hlt htook

lemma Sink.lands_write (f : Cause → ε) (s : Sink) (b : Bytes) :
    s.Lands f b (((s.write b).1.mapError .sink).mapError f) (s.write b).2 :=
  ((World.offers_write { sink := s } b).arrives.mapError f).lands (stalls_write s b)

lemma eval_print (w : World) (b : Bytes) :
    eval (attempt .summary (Host.print b)) w =
      (((w.sink.write b).1.mapError .sink).mapError .summary, { w with sink := (w.sink.write b).2 }) := rfl

lemma exists_eval_writeSummary (ms : List Measurement) (w : World) :
    ∃ r s, eval (writeSummary ms) w = (r, { w with sink := s }) ∧ s.stalls = w.sink.stalls := by
  rw [writeSummary]
  induction Summary.pieces ms generalizing w with
  | nil => exact ⟨_, w.sink, rfl, rfl⟩
  | cons p ps ih =>
    have hp := eval_print w (Bytes.ofString p)
    have hs := Sink.stalls_write w.sink (Bytes.ofString p)
    rcases hw : w.sink.write (Bytes.ofString p) with ⟨e | _, s⟩
    · rw [hw] at hp hs
      exact ⟨_, s, eval_bind_of_error hp, hs⟩
    · rw [hw] at hp hs
      obtain ⟨r, s', he, hs'⟩ := ih { w with sink := s }
      exact ⟨r, s', (eval_bind_of_ok hp).trans he, hs'.trans hs⟩

lemma exists_lands_writeSummary (ms : List Measurement) (w : World) :
    ∃ r s, eval (writeSummary ms) w = (r, { w with sink := s }) ∧
      w.sink.Lands .summary (Bytes.ofString (Summary.write ms)) r s := by
  obtain ⟨r, s, he, hs⟩ := exists_eval_writeSummary ms w
  have h : Arrives _ w _ (eval (writeSummary ms) w).1 (eval (writeSummary ms) w).2 := prints_writeSummary ms w
  rw [he] at h
  exact ⟨r, s, he, h.lands hs⟩

lemma eval_writeSummary_of_hasRoom (h : w.sink.HasRoom (Bytes.ofString (Summary.write ms)).length) :
    ∃ s, eval (writeSummary ms) w = (.ok (), { w with sink := s }) ∧
      w.sink.Took (Bytes.ofString (Summary.write ms)) s := by
  obtain ⟨r, s, he, hl⟩ := exists_lands_writeSummary ms w
  cases hl with
  | whole _ ht => exact ⟨s, he, ht⟩
  | cut hn hlt => exact absurd (h _ hn) (Nat.not_le.mpr hlt)

end Landing

end BenchReport
