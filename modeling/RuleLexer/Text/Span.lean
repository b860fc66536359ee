/-!
# Byte ranges

A span is a range of byte offsets, from `start` up to but not including `stop`.
Offsets are machine words: an operation whose result leaves the word range, or
whose caller breaks its contract, answers with a fault that says which.
A span may be inverted when it is written down field by field; `Span.new` is the
checked way to build one.
-/

namespace RuleLexer

abbrev Text := List Char

/-- The number of machine words: every offset and every length is below it. -/
def wordCount : Nat := Nat.pow 2 64

def decimal (n : Nat) : Text := Nat.toDigits 10 n

structure Span where
  start : Nat
  stop : Nat
  deriving DecidableEq, Repr, Inhabited

namespace Span

def zero : Span := ⟨0, 0⟩

/-- The span in brackets, as a half-open interval. -/
def display (s : Span) : Text :=
  "[".toList ++ decimal s.start ++ "..".toList ++ decimal s.stop ++ ")".toList

def bounds (s : Span) : Text :=
  decimal s.start ++ "..".toList ++ decimal s.stop

end Span

/-- What is reported when a contract between two parts of a lexer is broken. -/
inductive Fault where
  /-- A span was asked for whose start lies behind its end. -/
  | invertedSpan
  /-- A sum of offsets left the word range. -/
  | addOverflow
  /-- A difference of offsets fell below zero. -/
  | subOverflow
  /-- A window was asked for past the end of a source of this size. -/
  | beyondSource (span : Span) (size : Nat)
  /-- A window was asked for that starts or ends within a character. -/
  | splitCharacter (span : Span)
  /-- A matcher answered with a span that is not at the start of its window. -/
  | strayMatch (span window : Span)
  /-- A rule applied itself without end. -/
  | endlessRule
  deriving DecidableEq, Repr

def Fault.message : Fault → Text
  | invertedSpan => "span start must not exceed its end".toList
  | addOverflow => "attempt to add with overflow".toList
  | subOverflow => "attempt to subtract with overflow".toList
  | beyondSource span size =>
      "span ".toList ++ span.bounds ++ " exceeds source length ".toList ++ decimal size
  | splitCharacter span =>
      "span ".toList ++ span.bounds ++ " does not fall on char boundaries".toList
  | strayMatch span window =>
      "matcher returned ".toList ++ span.bounds ++ " outside the window ".toList ++ window.bounds
  | endlessRule => "a rule applied itself without end".toList

namespace Span

/-- The span between two offsets, which must be in order. -/
def new (start stop : Nat) : Except Fault Span :=
  if start ≤ stop then .ok ⟨start, stop⟩ else .error .invertedSpan

/-- The span of `n` bytes from `start`. -/
def withLen (start n : Nat) : Except Fault Span :=
  if start + n < wordCount then .ok ⟨start, start + n⟩ else .error .addOverflow

/-- The number of bytes from start to end. -/
def len (s : Span) : Except Fault Nat :=
  if s.start ≤ s.stop then .ok (s.stop - s.start) else .error .subOverflow

/-- A span is empty when its bounds coincide; an inverted span is not. -/
def isEmpty (s : Span) : Bool := s.start == s.stop

/-- The other span lies between the bounds of this one. -/
def contains (s other : Span) : Bool :=
  decide (s.start ≤ other.start) && decide (other.stop ≤ s.stop)

/-- The span without its first `n` bytes, or empty at its end if it has fewer. -/
def trimStart (s : Span) (n : Nat) : Except Fault Span :=
  if s.start + n < wordCount then .ok ⟨min (s.start + n) s.stop, s.stop⟩ else .error .addOverflow

/-- The smallest span over both. -/
def merge (s other : Span) : Span :=
  ⟨min s.start other.start, max s.stop other.stop⟩

/-- A span that is not inverted. -/
def Ordered (s : Span) : Prop := s.start ≤ s.stop

instance (s : Span) : Decidable s.Ordered := inferInstanceAs (Decidable (_ ≤ _))

end Span

end RuleLexer
