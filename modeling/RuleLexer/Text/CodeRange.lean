import RuleLexer.Text.Span

/-!
# Tables of characters

A set of characters is kept as a list of inclusive ranges of code points in increasing order.
A map on characters is kept as a list of runs: every `step`-th code point from `first` to `last`
has an image, and the images keep the distances.
-/

namespace RuleLexer.Text

/-- The code point lies in one of the ranges, which are in increasing order. -/
def inRanges : List (Nat × Nat) → Nat → Bool
  | [], _ => false
  | (low, high) :: rest, n =>
      if n < low then false else if n ≤ high then true else inRanges rest n

structure CaseRun where
  first : Nat
  last : Nat
  step : Nat
  image : Nat

/-- The image of a code point, if one of the runs, which are in increasing order, has it. -/
def imageIn : List CaseRun → Nat → Option Nat
  | [], _ => none
  | run :: rest, n =>
      if n < run.first then none
      else if n ≤ run.last then
        if (n - run.first) % run.step = 0 then some (run.image + (n - run.first))
        else imageIn rest n
      else imageIn rest n

/-- The code points whose image is `n`. -/
def preimagesIn (runs : List CaseRun) (n : Nat) : List Nat :=
  runs.filterMap fun run =>
    if run.image ≤ n ∧ run.first + (n - run.image) ≤ run.last ∧ (n - run.image) % run.step = 0 then
      some (run.first + (n - run.image))
    else none

end RuleLexer.Text
