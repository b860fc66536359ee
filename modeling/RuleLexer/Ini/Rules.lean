import RuleLexer.Ini.Kind
import RuleLexer.Ini.Patterns
import RuleLexer.Lexer.Repeat

/-!
# The rules of INI files

A file is a run of sections. A section is a header with the lines below it, or the lines before
the first header. A line holds an entry, a comment, both or neither. Every header and every line
may be indented, and ends where the text ends or with a newline.
-/

namespace RuleLexer.Ini

open Rule

/-- Blanks within a line, if there are any. -/
def spaceRule : Rule Kind := option (spaces .whitespaceToken)

/-- A comment mark and what follows it on the line. -/
def commentRule : Rule Kind :=
  named "comment".toList (seq
    [oneOf [char '#' .hash, char ';' .semicolon],
      option (pattern commentPattern .commentToken)])

/-- A name in brackets on a line of its own. -/
def headerRule : Rule Kind :=
  named "header".toList (seq
    [spaceRule, char '[' .leftBracket, pattern headerPattern .headerToken,
      char ']' .rightBracket, spaceRule, option commentRule, eol .endOfLine])

/-- A key, a separator, and a value if there is one. -/
def entryRule : Rule Kind :=
  named "kvp".toList (seq
    [pattern keyPattern .keyToken, spaceRule, oneOf [char '=' .equals, char ':' .colon],
      spaceRule, option (pattern valuePattern .valueToken)])

/-- A line that is not a header, with its end. -/
def lineRule : Rule Kind :=
  named "line".toList (seq
    [spaceRule, option entryRule, spaceRule, option commentRule, eol .endOfLine])

/-- A header and the lines below it, or some lines without a header. -/
def sectionRule : Rule Kind :=
  named "section".toList (oneOf [sequence headerRule (atLeast 0 lineRule), atLeast 1 lineRule])

def fileRule : Rule Kind := named "file".toList (atLeast 0 sectionRule)

/-- The lexer at the end of a run over a source. -/
def tokenize (source : Source) : Except Fault (Lexer Kind) := fileRule.tokenize source

end RuleLexer.Ini
