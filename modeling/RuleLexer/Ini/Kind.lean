import RuleLexer.Text.Span

/-!
# Kinds of INI tokens
-/

namespace RuleLexer.Ini

inductive Kind where
  /-- The name of a section between the brackets of a header. -/
  | headerToken
  | keyToken
  | valueToken
  /-- Spaces and tabs. -/
  | whitespaceToken
  /-- The text of a comment after its mark. -/
  | commentToken
  | endOfLine
  | leftBracket
  | rightBracket
  | equals
  | colon
  | hash
  | semicolon
  deriving DecidableEq, Repr

namespace Kind

def name : Kind → Text
  | headerToken => "HeaderToken".toList
  | keyToken => "KeyToken".toList
  | valueToken => "ValueToken".toList
  | whitespaceToken => "WhitespaceToken".toList
  | commentToken => "CommentToken".toList
  | endOfLine => "EndOfLine".toList
  | leftBracket => "LeftBracket".toList
  | rightBracket => "RightBracket".toList
  | equals => "Equals".toList
  | colon => "Colon".toList
  | hash => "Hash".toList
  | semicolon => "Semicolon".toList

def all : List Kind :=
  [headerToken, keyToken, valueToken, whitespaceToken, commentToken, endOfLine, leftBracket,
    rightBracket, equals, colon, hash, semicolon]

def ofName? (text : Text) : Option Kind := all.find? (·.name == text)

theorem ofName?_name (k : Kind) : ofName? k.name = some k := by
  cases k <;> decide

end Kind

end RuleLexer.Ini
