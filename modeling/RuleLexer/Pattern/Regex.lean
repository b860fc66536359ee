import RuleLexer.Pattern.CharSet

/-!
# Regular expressions

The core language of patterns: sets of characters, assertions about the characters around a
position, sequence, ordered choice and one form of repetition. Counted repetitions are written out
with these. A repetition tries one iteration; an iteration that reads nothing is its last one,
and only the first may read nothing.
-/

namespace RuleLexer

/-- The characters directly before and after a position in a text. -/
structure Surround where
  before : Option Char
  after : Option Char
  deriving DecidableEq, Repr

/-- What can be asked of a position. -/
inductive Assertion where
  | textStart
  | textEnd
  | lineStart
  | lineEnd
  /-- A line may end with a carriage return, a newline, or both. -/
  | returnLineStart
  | returnLineEnd
  | wordBoundary
  | notWordBoundary
  | wordStart
  | wordEnd
  | wordStartHalf
  | wordEndHalf
  | asciiWordBoundary
  | notAsciiWordBoundary
  | asciiWordStart
  | asciiWordEnd
  | asciiWordStartHalf
  | asciiWordEndHalf
  deriving DecidableEq, Repr

namespace Assertion

/-- There is a character and it is in the set. -/
def within (s : CharSet) : Option Char → Bool
  | none => false
  | some c => s.mem c

def holds (a : Assertion) (here : Surround) : Bool :=
  let word := within .word
  let asciiWord := within .asciiWord
  match a with
  | textStart => here.before.isNone
  | textEnd => here.after.isNone
  | lineStart => here.before.isNone || here.before == some '\n'
  | lineEnd => here.after.isNone || here.after == some '\n'
  | returnLineStart =>
      here.before.isNone || here.before == some '\n'
        || (here.before == some '\r' && here.after != some '\n')
  | returnLineEnd =>
      here.after.isNone || here.after == some '\r'
        || (here.after == some '\n' && here.before != some '\r')
  | wordBoundary => word here.before != word here.after
  | notWordBoundary => word here.before == word here.after
  | wordStart => !word here.before && word here.after
  | wordEnd => word here.before && !word here.after
  | wordStartHalf => !word here.before
  | wordEndHalf => !word here.after
  | asciiWordBoundary => asciiWord here.before != asciiWord here.after
  | notAsciiWordBoundary => asciiWord here.before == asciiWord here.after
  | asciiWordStart => !asciiWord here.before && asciiWord here.after
  | asciiWordEnd => asciiWord here.before && !asciiWord here.after
  | asciiWordStartHalf => !asciiWord here.before
  | asciiWordEndHalf => !asciiWord here.after

end Assertion

inductive Regex where
  | empty
  | set (s : CharSet)
  | assert (a : Assertion)
  | cat (p q : Regex)
  /-- Ordered choice: `p` is preferred. -/
  | alt (p q : Regex)
  /-- One or more iterations, as many as possible if greedy and as few as possible if not. -/
  | plus (greedy : Bool) (p : Regex)
  deriving DecidableEq, Repr

namespace Regex

def opt (greedy : Bool) (p : Regex) : Regex :=
  if greedy then alt p empty else alt empty p

def star (greedy : Bool) (p : Regex) : Regex := opt greedy (plus greedy p)

def times (p : Regex) : Nat → Regex → Regex
  | 0, rest => rest
  | n + 1, rest => cat p (times p n rest)

def upTo (greedy : Bool) (p : Regex) : Nat → Regex
  | 0 => empty
  | 1 => opt greedy p
  | n + 2 => opt greedy (cat p (upTo greedy p (n + 1)))

/-- From `min` to `max` times `p`, without an upper bound if there is no `max`. -/
def repeated (greedy : Bool) (min : Nat) (max : Option Nat) (p : Regex) : Regex :=
  match min, max with
  | 0, none => star greedy p
  | n + 1, none => times p n (plus greedy p)
  | n, some m => times p n (upTo greedy p (m - n))

end Regex

end RuleLexer
