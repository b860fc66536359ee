import RuleLexer.Lexer.Basic
import RuleLexer.Text.Blank
import RuleLexer.Text.CellWidth

/-!
# Reports of rejected documents

A report shows the line on which a run left off, with an arrow below the first character that was
not read. Here a text has more line ends than the newline alone, and positions count characters.
With colors, each piece is painted by itself.
-/

namespace RuleLexer.Report

/-- The characters of a report's label in a text: the one that begins at a byte offset, or the
last one when the offset is at the end. -/
def labelRange (text : Text) (offset : Nat) : Nat × Nat :=
  let count := text.length
  let before := match Text.takeBytes? text offset with
    | some front => front.length
    | none => 0
  let start := min before (count - 1)
  (start, min (start + 1) count)

/-- A character after which a new line begins. -/
def isLineEnd (c : Char) : Bool :=
  c == '\n' || c == '\r' || c == '\x0b' || c == '\x0c' || c == '\u0085' || c == '\u2028'
    || c == '\u2029'

/-- A line of a text: how many lines and how many characters are before it, and its characters
with those of its end. -/
structure Line where
  number : Nat
  start : Nat
  chars : Text
  deriving DecidableEq, Repr

/-- The line of the character at position `target`, found from the line that is under way: its
number and start, and its characters so far, the latest first. -/
def lineFrom (target number start : Nat) (current : Text) : Text → Line
  | [] => ⟨number, start, current.reverse⟩
  | c :: rest =>
      let next := start + current.length + 1
      if isLineEnd c && !(c == '\r' && rest.head? == some '\n') && decide (next ≤ target) then
        lineFrom target (number + 1) next [] rest
      else if isLineEnd c && !(c == '\r' && rest.head? == some '\n') then
        ⟨number, start, (c :: current).reverse⟩
      else lineFrom target number start (c :: current) rest

def lineOf (text : Text) (target : Nat) : Line := lineFrom target 1 0 [] text

def tabWidth : Nat := 4

/-- The character that is shown for the `i`-th one of a line, and how many cells it takes. -/
def shown (i : Nat) (c : Char) : Char × Nat :=
  if c = '\t' then (' ', tabWidth - i % tabWidth)
  else if Text.isBlank c then (' ', 1)
  else (c, Text.cellWidth c)

/-- The number of cells of the `i`-th character of a line, one past its end. -/
def widthAt (chars : Text) (i : Nat) : Nat :=
  match chars[i]? with
  | some c => (shown i c).2
  | none => 1

/-- A piece of a report, painted if there are colors. -/
def paint (color : Bool) (code : String) (piece : Text) : Text :=
  if color then "\x1b[".toList ++ code.toList ++ "m".toList ++ piece ++ "\x1b[0m".toList
  else piece

def red : String := "31"

def gray : String := "38;5;246"

def faintGray : String := "38;5;249"

def marginGray : String := "38;5;240"

def blanks (n : Nat) : Text := List.replicate n ' '

/-- The characters of a line, of which the one at `mark` is the marked one. -/
def sourceCells (color : Bool) (mark : Nat) (i : Nat) : Text → Text
  | [] => []
  | c :: rest =>
      let (s, width) := shown i c
      let piece := paint color (if i = mark then red else faintGray) [s]
      (if s = ' ' then (List.replicate width piece).flatten else piece)
        ++ sourceCells color mark (i + 1) rest

/-- A cell of an arrow row: a first character and what fills the rest of its width. -/
def arrowCell (color : Bool) (width : Nat) (first fill : Char) : Text :=
  match width with
  | 0 => []
  | n + 1 => paint color red [first] ++ (List.replicate n (paint color red [fill])).flatten

/-- The row that points at the marked character. -/
def pointerRow (color : Bool) (line : Text) (mark : Nat) : Text :=
  (List.range (mark + 3)).flatMap fun i =>
    if i = mark then arrowCell color (widthAt line i) '┬' '─' else blanks (widthAt line i)

/-- The row that leads from the marked character to the label. -/
def leaderRow (color : Bool) (line : Text) (mark : Nat) : Text :=
  (List.range (mark + 3)).flatMap fun i =>
    if i < mark then blanks (widthAt line i)
    else if i = mark then arrowCell color (widthAt line i) '╰' '─'
    else arrowCell color (widthAt line i) '─' '─'

/-- What the label says about a run that ended in this state. -/
def label : State → Text
  | .noMatch => "no rule matches here".toList
  | _ => "input from here on was not consumed".toList

/-- The line of a report that names the place, with colors or without. -/
def location (color : Bool) (name : Text) (line column : Nat) : Text :=
  paint color gray ['╭'] ++ paint color gray ['─'] ++ paint color gray ['['] ++ name
    ++ ":".toList ++ decimal line ++ ":".toList ++ decimal column ++ paint color gray [']']

def render (name text : Text) (r : Rejection) (color : Bool) : Text :=
  let heading := paint color red "Error:".toList ++ " document rejected: ".toList ++ r.message
    ++ ['\n']
  if text.isEmpty then heading
  else
    let start := (labelRange text r.offset).1
    let line := lineOf text start
    let mark := start - line.start
    let chars := Text.trimEnd line.chars
    let width := (decimal line.number).length
    let margin := ' ' :: paint color marginGray (blanks (width + 1) ++ ['│']) ++ [' ']
    heading
      ++ blanks (width + 2) ++ location color name line.number (mark + 1) ++ ['\n']
      ++ blanks (width + 2) ++ paint color gray ['│'] ++ ['\n']
      ++ [' '] ++ paint color gray (decimal line.number ++ [' ', '│']) ++ [' ']
      ++ sourceCells color mark 0 chars ++ ['\n']
      ++ margin ++ pointerRow color chars mark ++ ['\n']
      ++ margin ++ leaderRow color chars mark ++ [' '] ++ label r.state ++ ['\n']
      ++ paint color gray (List.replicate (width + 2) '─' ++ ['╯']) ++ ['\n']

end RuleLexer.Report
