import RuleLexer.Lexer.Rule

/-!
# Repetition

A rule is applied again and again until the upper bound is reached, until it fails, or right after
it has read all input. An application that succeeds and reads nothing would do so forever, so it
ends the repetition and stands for as many as are asked for.
-/

namespace RuleLexer

inductive Bound where
  | unbounded
  | included (n : Nat)
  | excluded (n : Nat)
  deriving DecidableEq, Repr

/-- The least and the greatest count of a repetition. -/
structure Counts where
  min : Nat
  max : Nat
  deriving DecidableEq, Repr

namespace Counts

def lower : Bound → Option Nat
  | .unbounded => some 0
  | .included n => some n
  | .excluded n => if n + 1 < wordCount then some (n + 1) else none

def upper : Bound → Option Nat
  | .unbounded => some (wordCount - 1)
  | .included n => some n
  | .excluded n => if n = 0 then none else some (n - 1)

/-- The counts between two bounds, if there are any. -/
def between? (low high : Bound) : Option Counts :=
  match lower low, upper high with
  | some min, some max => if min ≤ max then some ⟨min, max⟩ else none
  | _, _ => none

end Counts

/-- How a repetition ended: the number of applications that count, the lexer after them, and
whether a further one read nothing. -/
structure Repetition (K : Type) where
  count : Nat
  lexer : Lexer K
  saturated : Bool

namespace Rule

variable {K : Type}

/-- Applies the rule up to `max` times in all, in at most `fuel` steps. -/
def iterate (r : Rule K) (max : Nat) : Nat → Nat → Lexer K → Except Fault (Repetition K)
  | 0, count, current =>
      if count < max then .error .endlessRule else .ok ⟨count, current, false⟩
  | fuel + 1, count, current =>
      if count < max then do
        let next ← r.apply current
        match next.state with
        | .noMatch => return ⟨count, current, false⟩
        | .done => return ⟨count + 1, next, false⟩
        | .matching =>
            if next.position = current.position then return ⟨count, current, true⟩
            else iterate r max fuel (count + 1) next
      else .ok ⟨count, current, false⟩

/-- The rule as many times as it succeeds, within the counts. -/
def repeatCounts (r : Rule K) (counts : Option Counts) : Rule K :=
  of fun l =>
    match counts with
    | none => .ok l.fail
    | some counts =>
        if l.failed then .ok l
        else do
          let done ← iterate r counts.max (l.bytesLeft + 1) 0 l
          if counts.min ≤ done.count ∨ done.saturated then return done.lexer else return l.fail

/-- The rule as many times as it succeeds, between two bounds. -/
def repeated (r : Rule K) (low high : Bound) : Rule K := repeatCounts r (Counts.between? low high)

def atLeast (n : Nat) (r : Rule K) : Rule K := repeated r (.included n) .unbounded

end Rule

end RuleLexer
