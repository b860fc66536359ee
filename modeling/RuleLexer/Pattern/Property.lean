import RuleLexer.Pattern.CharSet

/-!
# Properties of characters

A pattern can name the characters that have a property, such as a general category or a script.
Which properties there are, and which characters have them, is for a character database to say and
not for the language of patterns. So a pattern is read with a table of properties, and what holds
of patterns holds for every such table.
-/

namespace RuleLexer.Pattern

/-- The characters that have the property of this name, if there is one. The name is all that the
pattern has between the braces, so it may ask for a property by a value, as in `Script=Greek`. -/
abbrev Properties := Text → Option CharSet

namespace Properties

/-- Names are compared without case, and a space, a dash or a low line in them means nothing. -/
def looseName (name : Text) : Text :=
  (name.filter fun c => c != ' ' && c != '-' && c != '_').map Char.toLower

/-- The properties of which the library has a set. -/
def known : Properties := fun name =>
  let name := looseName name
  let isOneOf (names : List String) : Bool := names.any fun spelling => spelling.toList == name
  if isOneOf ["any"] then some .all
  else if isOneOf ["ascii"] then some .ascii
  else if isOneOf ["nd", "decimalnumber", "digit"] then some .digit
  else if isOneOf ["whitespace", "wspace", "space"] then some .blank
  else none

end Properties

end RuleLexer.Pattern
