import RuleLexer.Ini.Rules
import RuleLexer.Text.LowerCase

/-!
# INI documents

A document is the list of sections that the tokens of a source describe. Entries above the first
header belong to a section without a name. Indentation is held back until the next token of its
line shows which section the line belongs to.
-/

namespace RuleLexer.Ini

structure Entry where
  key : Text
  /-- Empty when nothing follows the separator. -/
  value : Text
  keySpan : Span
  valueSpan : Option Span
  line : Nat
  deriving DecidableEq, Repr

structure Section where
  /-- The text between the brackets without the white space around it. -/
  name : Option Text
  /-- From the start of the header's line, or of the document, to the end of the last token. -/
  span : Span
  line : Nat
  entries : List Entry
  deriving DecidableEq, Repr

structure Document where
  sections : List Section
  deriving DecidableEq, Repr

/-- The section that tokens are added to; its entries are the latest first. -/
structure OpenSection where
  name : Option Text
  span : Span
  line : Nat
  newest : List Entry
  deriving DecidableEq, Repr

namespace OpenSection

/-- The section above the first header. -/
def global : OpenSection := ⟨none, Span.zero, 1, []⟩

def headed (span : Span) (line : Nat) : OpenSection := ⟨none, span, line, []⟩

/-- The section is part of the document: it has a name or an entry. -/
def isKept (s : OpenSection) : Bool := s.name.isSome || !s.newest.isEmpty

def close (s : OpenSection) : Section := ⟨s.name, s.span, s.line, s.newest.reverse⟩

/-- The section as the end of a list of sections. -/
def closed (s : OpenSection) : List Section := if s.isKept then [s.close] else []

def setValue (s : OpenSection) (value : Text) (span : Span) : OpenSection :=
  match s.newest with
  | [] => s
  | e :: rest => { s with newest := { e with value := value, valueSpan := some span } :: rest }

def extend (s : OpenSection) (span : Span) : OpenSection := { s with span := s.span.merge span }

end OpenSection

/-- The sections that are complete, the latest first, the one that is open, and the indentation of
the line that has just begun. -/
structure Fold where
  complete : List Section
  current : OpenSection
  indent : Option Span
  atLineStart : Bool
  deriving DecidableEq, Repr

namespace Fold

def start : Fold := ⟨[], .global, none, true⟩

/-- Adds a token that is not held back; `span` is its span with the indentation before it. -/
def add (source : Source) (f : Fold) (token : Token Kind) (span : Span) : Fold :=
  let line := (source.lineCol token.span.start).1
  let f := match token.kind with
    | .leftBracket =>
        { f with
          complete := f.current.closed ++ f.complete
          current := .headed span line }
    | .headerToken =>
        { f with current := { f.current with name := some (token.text source).trim } }
    | .keyToken =>
        let e : Entry := ⟨token.text source, [], token.span, none, line⟩
        { f with current := { f.current with newest := e :: f.current.newest } }
    | .valueToken => { f with current := f.current.setValue (token.text source) token.span }
    | _ => f
  ⟨f.complete, f.current.extend span, none, token.kind == .endOfLine⟩

def step (source : Source) (f : Fold) (token : Token Kind) : Fold :=
  if token.kind = .whitespaceToken ∧ f.atLineStart then
    { f with indent := some token.span, atLineStart := false }
  else f.add source token (match f.indent with
    | some indent => indent.merge token.span
    | none => token.span)

/-- The document when no token is left. -/
def finish (f : Fold) : Document :=
  let last := match f.indent with
    | some indent => f.current.extend indent
    | none => f.current
  ⟨(last.closed ++ f.complete).reverse⟩

end Fold

inductive ReadError where
  | fault (fault : Fault)
  | rejected (rejection : Rejection)
  deriving DecidableEq, Repr

def ReadError.message : ReadError → Text
  | fault f => f.message
  | rejected r => "not a valid INI document: ".toList ++ r.message

namespace Section

def isNamed (s : Section) (name : Text) : Bool :=
  match s.name with
  | some own => Text.sameIgnoringCase own name
  | none => false

/-- The value of a key in the section; the last occurrence counts. -/
def get? (s : Section) (key : Text) : Option Text :=
  (s.entries.reverse.find? fun e => Text.sameIgnoringCase e.key key).map (·.value)

end Section

namespace Document

/-- The document that the tokens of a source describe. -/
def ofTokens (source : Source) (tokens : List (Token Kind)) : Document :=
  (tokens.foldl (Fold.step source) .start).finish

/-- Reads a source, all of which the rules must accept. -/
def parse (source : Source) : Except ReadError Document :=
  match tokenize source with
  | .error fault => .error (.fault fault)
  | .ok lexer =>
      match lexer.accepted with
      | .error rejection => .error (.rejected rejection)
      | .ok tokens => .ok (ofTokens source tokens)

/-- The first section of this name, in any case of ASCII letters. -/
def section? (d : Document) (name : Text) : Option Section := d.sections.find? (·.isNamed name)

/-- The entries above the first header. -/
def global? (d : Document) : Option Section :=
  match d.sections with
  | s :: _ => if s.name.isNone then some s else none
  | [] => none

/-- The section is the one asked for: one of that name, or the one without a name. -/
def isWanted (wanted : Option Text) (s : Section) : Bool :=
  match wanted with
  | some name => s.isNamed name
  | none => s.name.isNone

/-- The value of a key in the sections of a name, or above the first header. The last occurrence
counts, over all sections of that name, so these are gone through from the last one on, and each
from its last entry on. -/
def get? (d : Document) (wanted : Option Text) (key : Text) : Option Text :=
  (((d.sections.reverse.filter (isWanted wanted)).flatMap (·.entries.reverse)).find? fun e =>
    Text.sameIgnoringCase e.key key).map (·.value)

end Document

end RuleLexer.Ini
