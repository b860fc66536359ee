import RuleLexer.Text.Unprintable

/-!
# Quoted text

A quoted text stands on one line between double quotes. Quotes and backslashes get a backslash,
the common controls their letter, and every other character that cannot be shown by itself is
written as its code point in braces. A quoted character stands between single quotes instead.
-/

namespace RuleLexer.Text

/-- The hexadecimal digits of a number, in lower case. -/
def hexadecimal (n : Nat) : Text := Nat.toDigits 16 n

/-- The quoted form of a character between marks of the kind `mark`. -/
def escapeChar (mark c : Char) : Text :=
  if c = '\t' then ['\\', 't']
  else if c = '\r' then ['\\', 'r']
  else if c = '\n' then ['\\', 'n']
  else if c = '\x00' then ['\\', '0']
  else if c = '\\' then ['\\', '\\']
  else if c = mark then ['\\', mark]
  else if isPrintable c then [c]
  else ['\\', 'u', '\x7b'] ++ hexadecimal c.toNat ++ ['\x7d']

def quote (text : Text) : Text := '"' :: text.flatMap (escapeChar '"') ++ ['"']

def quoteChar (c : Char) : Text := '\'' :: escapeChar '\'' c ++ ['\'']

end RuleLexer.Text
