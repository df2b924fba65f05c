import BenchReport.Text.Blank

namespace BenchReport.Expression

/-- In verbose mode blanks and comments count for nothing. Without `unicode` only what matches
whole characters is allowed. -/
structure Mode where
  verbose : Bool := false
  unicode : Bool := true
  deriving DecidableEq, Repr

def skipRemarks (inComment : Bool) : List Char → List Char
  | [] => []
  | c :: s =>
    if inComment then skipRemarks (c != '\n') s
    else if Text.isBlank c then skipRemarks false s
    else if c = '#' then skipRemarks true s
    else c :: s

theorem length_skipRemarks_le (b : Bool) (s : List Char) : (skipRemarks b s).length ≤ s.length := by
  induction s generalizing b with
  | nil => simp [skipRemarks]
  | cons c s ih =>
    have h := ih
    unfold skipRemarks
    split
    · exact Nat.le_succ_of_le (h _)
    · split
      · exact Nat.le_succ_of_le (h _)
      · split
        · exact Nat.le_succ_of_le (h _)
        · exact Nat.le_refl _

namespace Mode

def skip (m : Mode) (s : List Char) : List Char :=
  if m.verbose then skipRemarks false s else s

theorem length_skip_le (m : Mode) (s : List Char) : (m.skip s).length ≤ s.length := by
  unfold skip
  split
  · exact length_skipRemarks_le false s
  · exact Nat.le_refl _

end Mode

end BenchReport.Expression
