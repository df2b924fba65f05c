import BenchReport.Report.Fault

namespace BenchReport.Report

def isGap (c : Char) : Bool := c == ' ' || c == '\t' || c == '\n' || c == '\r'

def skipGap (s : List Char) : List Char := s.dropWhile isGap

theorem length_dropWhile_le {α : Type} (p : α → Bool) (s : List α) :
    (s.dropWhile p).length ≤ s.length :=
  (List.dropWhile_suffix p).sublist.length_le

theorem length_skipGap_le (s : List Char) : (skipGap s).length ≤ s.length := length_dropWhile_le _ s

def readWord : List Char → List Char → Except Fault (List Char)
  | [], s => .ok s
  | _ :: _, [] => .error (.before .endInValue [])
  | e :: w, c :: s => if c = e then readWord w s else .error (.at .noLiteral (c :: s))

def hexUnit? (ds : List Char) : Option Nat :=
  ds.foldlM (fun n c => (Text.hexDigit? c).map (n * 16 + ·)) 0

/-- The digits of an escaped UTF-16 unit are looked for in the next four bytes. -/
def readUnit (s : List Char) : Except Fault (Nat × List Char) :=
  if byteLength s < 4 then .error (.before .endInText [])
  else match s with
    | a :: b :: c :: d :: r =>
      match hexUnit? [a, b, c, d] with
      | some n => .ok (n, r)
      | none => .error ⟨.badEscape, s, 4⟩
    | _ => .error ⟨.badEscape, s, 4⟩

def isHigh (n : Nat) : Bool := 0xD800 ≤ n && n < 0xDC00

def isLow (n : Nat) : Bool := 0xDC00 ≤ n && n < 0xE000

def readLow (high : Nat) : List Char → Except Fault (Char × List Char)
  | [] => .error (.before .endInText [])
  | ['\\'] => .error (.before .endInText [])
  | '\\' :: 'u' :: s =>
    match readUnit s with
    | .error e => .error e
    | .ok (low, r) =>
      if isLow low then .ok (Char.ofNat (0x10000 + (high - 0xD800) * 0x400 + (low - 0xDC00)), r)
      else .error (.before .loneSurrogate r)
  | '\\' :: s => .error (.at .unpairedEscape s)
  | s => .error (.at .unpairedEscape s)

def plainEscape? (c : Char) : Option Char :=
  if c = '"' ∨ c = '\\' ∨ c = '/' then some c
  else if c = 'b' then some '\x08'
  else if c = 'f' then some '\x0c'
  else if c = 'n' then some '\n'
  else if c = 'r' then some '\r'
  else if c = 't' then some '\t'
  else none

def readEscape : List Char → Except Fault (Char × List Char)
  | [] => .error (.before .endInText [])
  | 'u' :: s =>
    match readUnit s with
    | .error e => .error e
    | .ok (n, r) =>
      if isLow n then .error (.before .loneSurrogate r)
      else if isHigh n then readLow n r
      else .ok (Char.ofNat n, r)
  | c :: s =>
    match plainEscape? c with
    | some d => .ok (d, s)
    | none => .error (.at .badEscape (c :: s))

def skipEscape : List Char → Except Fault (List Char)
  | [] => .error (.before .endInText [])
  | 'u' :: s =>
    match readUnit s with
    | .error e => .error e
    | .ok (_, r) => .ok r
  | c :: s => if (plainEscape? c).isSome then .ok s else .error (.at .badEscape (c :: s))

section
variable {s r : List Char}

theorem length_readWord_le {w : List Char} (h : readWord w s = .ok r) : r.length ≤ s.length := by
  fun_induction readWord w s with
  | case1 => grind
  | case2 => cases h
  | case3 w c s ih => exact Nat.le_succ_of_le (ih h)
  | case4 => cases h

theorem length_readUnit {n : Nat} (h : readUnit s = .ok (n, r)) : r.length < s.length := by
  unfold readUnit at h
  grind

theorem length_readLow {n : Nat} {c : Char} (h : readLow n s = .ok (c, r)) :
    r.length < s.length := by
  unfold readLow at h
  split at h
  · cases h
  · cases h
  next s =>
    split at h
    · cases h
    next hu =>
      have := length_readUnit hu
      grind
  · cases h
  · cases h

theorem length_readEscape {c : Char} (h : readEscape s = .ok (c, r)) : r.length < s.length := by
  unfold readEscape at h
  split at h
  · cases h
  next s =>
    split at h
    · cases h
    next n t hu =>
      have hu := length_readUnit hu
      split at h
      · cases h
      · split at h
        · have := length_readLow h
          grind
        · grind
  · grind

theorem length_skipEscape (h : skipEscape s = .ok r) : r.length < s.length := by
  unfold skipEscape at h
  split at h
  · cases h
  next s =>
    split at h
    · cases h
    next hu =>
      have := length_readUnit hu
      grind
  · grind

end

def readString (s : List Char) : Except Fault (List Char × List Char) :=
  match s with
  | [] => .error (.before .endInText [])
  | '"' :: r => .ok ([], r)
  | '\\' :: r =>
    match _h : readEscape r with
    | .error e => .error e
    | .ok (c, r') => (readString r').map fun (cs, rest) => (c :: cs, rest)
  | c :: r =>
    if c < ' ' then .error (.before .controlCharacter r)
    else (readString r).map fun (cs, rest) => (c :: cs, rest)
termination_by s.length
decreasing_by
  · have := length_readEscape ‹_›
    simp only [List.length_cons]
    omega
  · simp only [List.length_cons, Nat.lt_add_one]

def skipString (s : List Char) : Except Fault (List Char) :=
  match s with
  | [] => .error (.before .endInText [])
  | '"' :: r => .ok r
  | '\\' :: r =>
    match _h : skipEscape r with
    | .error e => .error e
    | .ok r' => skipString r'
  | c :: r => if c < ' ' then .error (.before .controlCharacter (c :: r)) else skipString r
termination_by s.length
decreasing_by
  · have := length_skipEscape ‹_›
    simp only [List.length_cons]
    omega
  · simp only [List.length_cons, Nat.lt_add_one]

theorem map_eq_ok {ε α β : Type} {f : α → β} {x : Except ε α} {y : β} (h : x.map f = .ok y) :
    ∃ z, x = .ok z ∧ f z = y := by
  cases x with
  | error e => cases h
  | ok z => exact ⟨z, rfl, Except.ok.inj h⟩

theorem bind_eq_ok {ε α β : Type} {f : α → Except ε β} {x : Except ε α} {y : β}
    (h : (x >>= f) = .ok y) : ∃ z, x = .ok z ∧ f z = .ok y := by
  cases x with
  | error e => cases h
  | ok z => exact ⟨z, rfl, h⟩

theorem length_readString {s cs r : List Char} (h : readString s = .ok (cs, r)) :
    r.length < s.length := by
  fun_induction readString s generalizing cs r with
  | case1 => cases h
  | case2 => grind
  | case3 => cases h
  | case4 s c r' he ih =>
    have := length_readEscape he
    obtain ⟨⟨ds, t⟩, ht, hz⟩ := map_eq_ok h
    have := ih ht
    grind
  | case5 => cases h
  | case6 c s _ _ _ ih =>
    obtain ⟨⟨ds, t⟩, ht, hz⟩ := map_eq_ok h
    have := ih ht
    grind

theorem length_skipString {s r : List Char} (h : skipString s = .ok r) : r.length < s.length := by
  fun_induction skipString s with
  | case1 => cases h
  | case2 => grind
  | case3 => cases h
  | case4 s r' he ih =>
    have := length_skipEscape he
    have := ih h
    grind
  | case5 => cases h
  | case6 c s _ _ _ ih =>
    have := ih h
    grind

end BenchReport.Report
