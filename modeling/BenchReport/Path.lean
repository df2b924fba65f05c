import BenchReport.Bytes

namespace BenchReport

abbrev Path := Bytes

namespace Path

def separator : UInt8 := 47

def split : Path → List Bytes
  | [] => [[]]
  | b :: p =>
    if b = separator then [] :: split p
    else match split p with
      | [] => [[b]]
      | x :: xs => (b :: x) :: xs

def join : List Bytes → Path
  | [] => []
  | [x] => x
  | x :: y :: xs => x ++ separator :: join (y :: xs)

def dot : Bytes := [46]

def dotDot : Bytes := [46, 46]

/-- A piece that names nothing; at the front of a path a dot does. -/
def isIdle (piece : Bytes) : Bool := piece = [] ∨ piece = dot

def trimEnd (pieces : List Bytes) : List Bytes := (pieces.reverse.dropWhile isIdle).reverse

/-- The directory of a path: all but the last name, without what is idle around it. The empty path
and the root lie in none. -/
def parent? (p : Path) : Option Path :=
  match split p with
  | [] => none
  | front :: pieces =>
    match trimEnd pieces with
    | [] => if front = [] then none else some []
    | pieces =>
      match trimEnd pieces.dropLast with
      | [] => some (if front = [] then [separator] else front)
      | pieces => some (join (front :: pieces))

def separated (pieces : List Bytes) : Bytes := pieces.flatMap fun x => separator :: x

theorem separated_singleton (x : Bytes) : separated [x] = separator :: x := List.append_nil _

theorem join_cons (x : Bytes) (xs : List Bytes) : join (x :: xs) = x ++ separated xs := by
  induction xs generalizing x with
  | nil => exact (List.append_nil x).symm
  | cons y ys ih => rw [join, ih y]; rfl

theorem separated_append (xs ys : List Bytes) :
    separated (xs ++ ys) = separated xs ++ separated ys := List.flatMap_append

theorem split_ne_nil (p : Path) : split p ≠ [] := by
  induction p with
  | nil => simp [split]
  | cons b p ih =>
    unfold split
    split
    · simp
    · split <;> simp

theorem join_split (p : Path) : join (split p) = p := by
  induction p with
  | nil => rfl
  | cons b p ih =>
    cases hs : split p with
    | nil => exact absurd hs (split_ne_nil p)
    | cons x xs =>
      rw [hs] at ih
      unfold split
      split
      next h => simp [h, hs, join, ih]
      · cases xs <;> simp_all [join]

theorem trimEnd_start (pieces : List Bytes) : trimEnd pieces <+: pieces := by
  have h := List.dropWhile_suffix (l := pieces.reverse) isIdle
  simpa [trimEnd] using List.reverse_prefix.2 h

theorem not_isIdle_of_trimEnd {pieces init : List Bytes} {last : Bytes}
    (h : trimEnd pieces = init ++ [last]) : isIdle last = false := by
  have h' : pieces.reverse.dropWhile isIdle = last :: init.reverse := by
    have := congrArg List.reverse h
    simpa [trimEnd] using this
  have := List.head_dropWhile_not isIdle (l := pieces.reverse) (by simp [h'])
  simpa [h'] using this

theorem length_separated_le_of_start {xs ys : List Bytes} (h : xs <+: ys) :
    (separated xs).length ≤ (separated ys).length := by
  obtain ⟨zs, rfl⟩ := h
  rw [separated_append, List.length_append]
  exact Nat.le_add_right _ _

theorem length_parent {p q : Path} (h : parent? p = some q) : q.length < p.length := by
  unfold parent? at h
  have hp := join_split p
  split at h
  · cases h
  next front pieces hs =>
    rw [hs, join_cons] at hp
    have hl := congrArg List.length hp
    have hpre := length_separated_le_of_start (trimEnd_start pieces)
    rw [List.length_append] at hl
    split at h
    · split at h
      · cases h
      next hf =>
        have := List.length_pos_iff.2 hf
        cases h
        rw [List.length_nil]
        omega
    next hne =>
      obtain ⟨init, last, hi⟩ : ∃ init last, trimEnd pieces = init ++ [last] :=
        ⟨_, _, (List.dropLast_concat_getLast hne).symm⟩
      have hidle := not_isIdle_of_trimEnd hi
      have hlast : 0 < last.length := List.length_pos_iff.2 fun h0 => by simp [isIdle, h0] at hidle
      have hinit := length_separated_le_of_start (trimEnd_start init)
      rw [hi, separated_append, List.length_append, separated_singleton, List.length_cons] at hpre
      rw [hi, List.dropLast_concat] at h
      split at h
      · cases h
        split
        · rw [List.length_singleton]
          omega
        · omega
      · cases h
        rw [join_cons, List.length_append]
        omega

def lineage (p : Path) : List Path :=
  if p = [] then []
  else
    match _h : parent? p with
    | none => [p]
    | some q => p :: lineage q
termination_by p.length
decreasing_by exact length_parent ‹_›

end Path

end BenchReport
