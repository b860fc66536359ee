import RuleLexer.Pattern.WordChar
import RuleLexer.Text.CaseFold

/-!
# Sets of characters

The character classes of patterns as expressions over ranges and the three named classes, with
the set operations and the closure under change of case. `CharSet.mem` says which characters are
in a set.
-/

namespace RuleLexer

inductive CharSet where
  | none
  /-- The characters from `low` to `high`, both included. -/
  | range (low high : Char)
  | digit
  | blank
  | word
  | union (a b : CharSet)
  | inter (a b : CharSet)
  | compl (a : CharSet)
  /-- The characters that differ at most in case from a member. -/
  | anyCase (a : CharSet)
  /-- The characters that differ at most in the case of an ASCII letter from a member. -/
  | anyAsciiCase (a : CharSet)
  deriving DecidableEq, Repr

namespace CharSet

def mem : CharSet → Char → Bool
  | none, _ => false
  | range low high, c => decide (low ≤ c) && decide (c ≤ high)
  | digit, c => Text.isDecimalDigit c
  | blank, c => Text.isBlank c
  | word, c => Text.isWordChar c
  | union a b, c => a.mem c || b.mem c
  | inter a b, c => a.mem c && b.mem c
  | compl a, c => !a.mem c
  | anyCase a, c => (Text.caseVariants c).any a.mem
  | anyAsciiCase a, c => (Text.asciiCaseVariants c).any a.mem

def single (c : Char) : CharSet := range c c

def all : CharSet := compl none

/-- The members of `a` that are not in `b`. -/
def diff (a b : CharSet) : CharSet := inter a (compl b)

/-- The characters that are in exactly one of the sets. -/
def symmDiff (a b : CharSet) : CharSet := union (diff a b) (diff b a)

def unions : List CharSet → CharSet
  | [] => none
  | [a] => a
  | a :: rest => union a (unions rest)

def ascii : CharSet := range '\x00' '\x7f'

/-- The number of ranges from which the set is put together, a measure of the size of its
automaton. -/
def rangeCount : CharSet → Nat
  | none => 0
  | range _ _ => 1
  | digit => Text.digitRanges.length
  | blank => Text.blankRanges.length
  | word => Text.wordRanges.length
  | union a b => a.rangeCount + b.rangeCount
  | inter a b => a.rangeCount + b.rangeCount
  | compl a => a.rangeCount + 14
  | anyCase a => 2 * a.rangeCount
  | anyAsciiCase a => 2 * a.rangeCount

/-- The set holds a character whose code is between 128 and 255. -/
def meetsHighBytes (a : CharSet) : Bool :=
  (List.range 128).any fun i => a.mem (Char.ofNat (128 + i))

def asciiClass? (name : Text) : Option CharSet :=
  let lower := range 'a' 'z'
  let upper := range 'A' 'Z'
  let digits := range '0' '9'
  if name = "alnum".toList then some (unions [digits, upper, lower])
  else if name = "alpha".toList then some (unions [upper, lower])
  else if name = "ascii".toList then some ascii
  else if name = "blank".toList then some (unions [single '\t', single ' '])
  else if name = "cntrl".toList then some (unions [range '\x00' '\x1f', single '\x7f'])
  else if name = "digit".toList then some digits
  else if name = "graph".toList then some (range '!' '~')
  else if name = "lower".toList then some lower
  else if name = "print".toList then some (range ' ' '~')
  else if name = "punct".toList then
    some (unions [range '!' '/', range ':' '@', range '[' '\x60', range '\x7b' '~'])
  else if name = "space".toList then some (unions [range '\t' '\r', single ' '])
  else if name = "upper".toList then some upper
  else if name = "word".toList then some (unions [digits, upper, single '_', lower])
  else if name = "xdigit".toList then some (unions [digits, range 'A' 'F', range 'a' 'f'])
  else Option.none

def asciiDigit : CharSet := range '0' '9'

def asciiBlank : CharSet := unions [range '\t' '\r', single ' ']

def asciiWord : CharSet :=
  unions [range '0' '9', range 'A' 'Z', single '_', range 'a' 'z']

end CharSet

end RuleLexer
