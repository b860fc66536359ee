import RuleLexer.Pattern.Basic
import RuleLexer.Pattern.Letter

/-!
# Flags of a pattern

Flags change how the rest of a group is read. They are written as letters, those after a dash
being switched off.
-/

namespace RuleLexer.Pattern

structure Flags where
  /-- Letters match in either case. -/
  anyCase : Bool
  /-- The line anchors match at every line. -/
  multiLine : Bool
  /-- The dot matches a newline too. -/
  dotAll : Bool
  /-- Repetitions are lazy unless marked, instead of greedy. -/
  swapGreed : Bool
  /-- The named classes hold all of Unicode, and not just their ASCII members. -/
  unicode : Bool
  /-- A line may end with a carriage return as well. -/
  returns : Bool
  /-- White space and comments in the pattern mean nothing. -/
  spaced : Bool
  deriving DecidableEq, Repr

namespace Flags

def standard : Flags := ⟨false, false, false, false, true, false, false⟩

/-- The flags with the one of this letter switched. -/
def switch? (flags : Flags) (letter : Char) (on : Bool) : Option Flags :=
  match letter with
  | 'i' => some { flags with anyCase := on }
  | 'm' => some { flags with multiLine := on }
  | 's' => some { flags with dotAll := on }
  | 'U' => some { flags with swapGreed := on }
  | 'u' => some { flags with unicode := on }
  | 'R' => some { flags with returns := on }
  | 'x' => some { flags with spaced := on }
  | _ => none

/-- The letters of a flag setting up to its closing `:` or `)`. A letter occurs once, and one dash
at most, which is not the last of them. -/
def read (flags : Flags) (on : Bool) (seen : List Char) :
    Text → Except Error (Flags × Text)
  | [] => .error .flags
  | c :: rest =>
      if c = ':' ∨ c = ')' then
        if seen.head? = some '-' then .error .flags else .ok (flags, c :: rest)
      else if seen.contains c then .error .flags
      else if c = '-' then read flags false (c :: seen) rest
      else match flags.switch? c on with
        | some flags => read flags on (c :: seen) rest
        | none => .error .flags

/-- The set of characters that a character stands for. -/
def literal (flags : Flags) (c : Char) : CharSet :=
  if flags.anyCase then
    if flags.unicode then .anyCase (.single c) else .anyAsciiCase (.single c)
  else .single c

/-- The closure of a class under the change of case that is asked for. -/
def foldCase (flags : Flags) (s : CharSet) : CharSet :=
  if flags.anyCase then
    if flags.unicode then .anyCase s else .anyAsciiCase s
  else s

/-- A class or its complement. Without Unicode classes a class is one of bytes, and it may hold
only those that are characters by themselves. -/
def complement (flags : Flags) (negated : Bool) (s : CharSet) : Except Error CharSet :=
  let s := if negated then CharSet.compl s else s
  if flags.unicode then .ok s
  else if s.meetsHighBytes then .error .notText
  else .ok (.inter s .ascii)

def dot (flags : Flags) : Except Error CharSet :=
  if !flags.unicode then .error .notText
  else if flags.dotAll then .ok .all
  else if flags.returns then .ok (.compl (.union (.single '\r') (.single '\n')))
  else .ok (.compl (.single '\n'))

def startAnchor (flags : Flags) : Assertion :=
  if flags.multiLine then if flags.returns then .returnLineStart else .lineStart else .textStart

def endAnchor (flags : Flags) : Assertion :=
  if flags.multiLine then if flags.returns then .returnLineEnd else .lineEnd else .textEnd

end Flags

/-- The rest of a spaced pattern after white space and comments, which run to the end of a line. -/
def skipSpaced (inComment : Bool) : Text → Text
  | [] => []
  | c :: rest =>
      if inComment then skipSpaced (c ≠ '\n') rest
      else if Text.isBlank c then skipSpaced false rest
      else if c = '#' then skipSpaced true rest
      else c :: rest

/-- The rest of the pattern after what means nothing under the flags. -/
def Flags.skip (flags : Flags) (text : Text) : Text :=
  if flags.spaced then skipSpaced false text else text

/-- The next character of a spaced pattern behind white space and the sign of a comment. What is in
the comment is not passed over. -/
def peekSpaced (inComment : Bool) : Text → Option Char
  | [] => none
  | c :: rest =>
      if Text.isBlank c then peekSpaced inComment rest
      else if !inComment && c == '#' then peekSpaced true rest
      else some c

/-- The character that is looked at in advance under the flags. -/
def Flags.peek (flags : Flags) (text : Text) : Option Char :=
  if flags.spaced then peekSpaced false text else text.head?

end RuleLexer.Pattern
