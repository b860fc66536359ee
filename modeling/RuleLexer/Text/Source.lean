import RuleLexer.Text.Lines

/-!
# Source texts

A source is a text together with its line table. Reading a text drops one leading
byte order mark, so offset zero is the first character of the content.
-/

namespace RuleLexer

structure Source where
  text : Text
  lines : LineTable
  lines_eq : lines = LineTable.ofText text
  deriving DecidableEq

namespace Source

def byteOrderMark : Char := '\uFEFF'

def exactly (text : Text) : Source := ⟨text, LineTable.ofText text, rfl⟩

/-- The source with the content of a text: one leading byte order mark is dropped. -/
def ofText : Text → Source
  | [] => exactly []
  | c :: rest => if c = byteOrderMark then exactly rest else exactly (c :: rest)

def size (source : Source) : Nat := Text.byteSize source.text

def isEmpty (source : Source) : Bool := source.text.isEmpty

def fullSpan (source : Source) : Span := ⟨0, source.size⟩

/-- The text of a span, and nothing when the span is inverted, reaches past the end or cuts a
character. -/
def slice (source : Source) (span : Span) : Text := (Text.between? source.text span).getD []

def lineCount (source : Source) : Nat := source.lines.lineCount

def lineOf (source : Source) (offset : Nat) : Nat := source.lines.lineOf offset

def lineCol (source : Source) (offset : Nat) : Nat × Nat :=
  source.lines.lineCol source.text offset

def debug (source : Source) : Text :=
  "SourceText \x7b len: ".toList ++ decimal source.size ++ ", lines: ".toList
    ++ decimal source.lineCount ++ " \x7d".toList

end Source

end RuleLexer
