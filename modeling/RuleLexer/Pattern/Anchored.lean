import RuleLexer.Pattern.Parser
import RuleLexer.Pattern.Search

/-!
# Patterns at the start of a text

A pattern is compiled with an anchor before it and a group around it, as text. The group keeps a
choice at the top of the pattern behind the anchor.
-/

namespace RuleLexer

structure Anchored where
  pattern : Text
  regex : Regex
  deriving DecidableEq

namespace Anchored

/-- The text that is compiled for a pattern. -/
def wrap (pattern : Text) : Text := "^(?:".toList ++ pattern ++ ")".toList

def compile (properties : Pattern.Properties) (limits : Pattern.Limits) (pattern : Text) :
    Except Pattern.Error Anchored := do
  let tree ← Pattern.parse properties (wrap pattern)
  let tree ← tree.limitTo limits
  return ⟨pattern, tree.toRegex⟩

/-- Where the leftmost match ends, if this is not at the start of the text. -/
def prefixLength (p : Anchored) (text : Text) : Option Nat :=
  match p.regex.find? text with
  | some (skipped, length) => if 0 < skipped + length then some (skipped + length) else none
  | none => none

end Anchored

end RuleLexer
