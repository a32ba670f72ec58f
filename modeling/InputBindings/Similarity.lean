import InputBindings.Number.Double

/-!
# Similarity of names

Two names resemble each other as far as they have characters in common in the same order: with `d`
characters of both names outside a longest common subsequence, out of `n` in all, the score is
`(1 - d / n) * 100`, computed in double-precision numbers.
-/

namespace InputBindings.Similarity

open Number (Double)

/-- One more row of the table of common lengths: `above` holds, for each rest of the second name,
the common length with what was read of the first name before `c`. -/
def nextRow (c : Char) : List Char → List Nat → List Nat
  | d :: ds, a :: b :: above =>
    match nextRow c ds (b :: above) with
    | left :: row => (if c = d then b + 1 else max a left) :: left :: row
    | [] => []
  | _, _ => [0]

/-- The length of a longest common subsequence. -/
def commonLength (xs ys : List Char) : Nat :=
  ((xs.foldr (fun c above => nextRow c ys above) (List.replicate (ys.length + 1) 0)).headD 0)

/-- The score of two names: 100 for equal ones, 0 for names without a character in common. -/
def score (a b : String) : Double :=
  let xs := a.toList
  let ys := b.toList
  let total := xs.length + ys.length
  let apart := total - 2 * commonLength xs ys
  let share := if total = 0 then Double.zero false else Double.ofRatio false apart total
  ((Double.ofInt 1).add share.neg).mul (Double.ofInt 100)

/-- How names are compared: the score of two names, when one score is at most another, and when a
score reaches a number. -/
structure Scale (σ : Type) where
  score : String → String → σ
  le : σ → σ → Bool
  reaches : σ → Int → Bool

/-- The scale of the scores in double-precision numbers. -/
def doubles : Scale Double where
  score := score
  le := Double.le
  reaches := fun x n => Double.intLe n x

/-- Places a scored name behind all that score at least as much. -/
def place (scale : Scale σ) (entry : σ × String) : List (σ × String) → List (σ × String)
  | [] => [entry]
  | other :: rest =>
    if scale.le entry.1 other.1 then other :: place scale entry rest else entry :: other :: rest

/-- The names with their scores, best first; names of one score keep their order. -/
def ranked (scale : Scale σ) (name : String) (names : List String) : List (σ × String) :=
  names.foldl (fun done other => place scale (scale.score name other, other) done) []

end InputBindings.Similarity
