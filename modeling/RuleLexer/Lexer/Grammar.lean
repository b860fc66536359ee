import RuleLexer.Lexer.Rule
import RuleLexer.Text.LowerCase

/-!
# Grammars

Rules that are built from a table of kinds or a pattern can fail to be built. The table has the
kind of an end of line and those of keywords and characters; of two registrations of one word the
later holds. Keywords are compared in lower case.
-/

namespace RuleLexer

inductive RuleError where
  | emptyLiteral
  | missingKeyword (word : Text)
  | missingChar (c : Char)
  | badPattern (pattern : Text) (cause : Pattern.Error)
  deriving DecidableEq, Repr

def RuleError.message : RuleError → Text
  | emptyLiteral => "literal rules must match at least one character".toList
  | missingKeyword word => "no token kind registered for keyword `".toList ++ word ++ "`".toList
  | missingChar c => "no token kind registered for character ".toList ++ Text.quoteChar c
  | badPattern pattern _ => "invalid pattern `".toList ++ pattern ++ "`".toList

structure KindTable (K : Type) where
  endOfLine : K
  /-- The kinds of words in lower case, the latest first. -/
  keywords : List (Text × K)
  /-- The kinds of characters, the latest first. -/
  chars : List (Char × K)

namespace KindTable

variable {K : Type}

def new (endOfLine : K) : KindTable K := ⟨endOfLine, [], []⟩

def withKeyword (table : KindTable K) (word : Text) (kind : K) : KindTable K :=
  { table with keywords := (Text.toLower word, kind) :: table.keywords }

def withChar (table : KindTable K) (c : Char) (kind : K) : KindTable K :=
  { table with chars := (c, kind) :: table.chars }

def keyword (table : KindTable K) (word : Text) : Except RuleError K :=
  match table.keywords.lookup (Text.toLower word) with
  | some kind => .ok kind
  | none => .error (.missingKeyword word)

def char (table : KindTable K) (c : Char) : Except RuleError K :=
  match table.chars.lookup c with
  | some kind => .ok kind
  | none => .error (.missingChar c)

end KindTable

namespace Rule

variable {K : Type}

/-- Exactly the text, which must not be empty. -/
def literal (text : Text) (kind : K) : Except RuleError (Rule K) :=
  if text.isEmpty then .error .emptyLiteral else .ok (Rule.text text kind)

end Rule

/-- A table of kinds, and the limits on patterns and the properties that they can name. -/
structure Grammar (K : Type) where
  kinds : KindTable K
  limits : Pattern.Limits
  properties : Pattern.Properties

namespace Grammar

variable {K : Type}

def new (properties : Pattern.Properties) (kinds : KindTable K) : Grammar K :=
  ⟨kinds, .standard, properties⟩

/-- A match of the pattern at the start of the current line. -/
def pattern (g : Grammar K) (p : Text) (kind : K) : Except RuleError (Rule K) :=
  match Anchored.compile g.properties g.limits p with
  | .ok compiled => .ok (Rule.pattern compiled kind)
  | .error cause => .error (.badPattern p cause)

/-- The character, with the kind registered for it. -/
def char (g : Grammar K) (c : Char) : Except RuleError (Rule K) :=
  (g.kinds.char c).map fun kind => Rule.char c kind

/-- Exactly the word, with the kind registered for it in any case. -/
def keyword (g : Grammar K) (word : Text) : Except RuleError (Rule K) := do
  Rule.literal word (← g.kinds.keyword word)

def newline (g : Grammar K) : Rule K := Rule.newline g.kinds.endOfLine

def eol (g : Grammar K) : Rule K := Rule.eol g.kinds.endOfLine

end Grammar

end RuleLexer
