import RuleLexer.Text.Bytes

/-!
# Lines and columns

A line starts at the beginning of the text and after every newline. The table of a
text lists these starts; a position's line is the number of starts up to it, and its
column counts the characters from the start of that line. Both are counted from one.
-/

namespace RuleLexer

structure LineTable where
  starts : List Nat
  deriving DecidableEq, Repr

namespace LineTable

def empty : LineTable := ⟨[]⟩

/-- The positions right after the newlines of a text that begins at `offset`. -/
def newlineEnds (offset : Nat) : Text → List Nat
  | [] => []
  | c :: rest =>
      if c = '\n' then (offset + 1) :: newlineEnds (offset + 1) rest
      else newlineEnds (offset + c.utf8Size) rest

def ofText (text : Text) : LineTable := ⟨0 :: newlineEnds 0 text⟩

def lineCount (table : LineTable) : Nat := table.starts.length

/-- The line of a byte offset; everything past the last start is on the last line. -/
def lineOf (table : LineTable) (offset : Nat) : Nat :=
  max 1 (table.starts.countP (· ≤ offset))

/-- The line of a byte offset of `text`, and one more than the number of characters between the
start of that line and the offset. An offset within a character is in column one. -/
def lineCol (table : LineTable) (text : Text) (offset : Nat) : Nat × Nat :=
  let line := table.lineOf offset
  let start := table.starts[line - 1]?.getD 0
  let before := (Text.between? text ⟨start, min offset (Text.byteSize text)⟩).getD []
  (line, before.length + 1)

def debug (table : LineTable) : Text :=
  "LineOffsetTable \x7b offsets: [".toList
    ++ List.intercalate ", ".toList (table.starts.map decimal) ++ "] \x7d".toList

end LineTable

end RuleLexer
