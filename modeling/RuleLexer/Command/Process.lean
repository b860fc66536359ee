import RuleLexer.Command.Json
import RuleLexer.Command.Options
import RuleLexer.Ini.Document
import RuleLexer.Report

/-!
# Processing one file

What a command makes of the text of one file: whether it is accepted, what the file adds to the
output, and the report if it is rejected.
-/

namespace RuleLexer

/-- What a file adds to the output, in the format that the options ask for. -/
inductive Output where
  | text (text : Text)
  | json (value : Json)

structure FileReport where
  path : Text
  accepted : Bool
  output : Output
  diagnostic : Option Text

namespace FileReport

def rejectionJson (r : Rejection) : Json :=
  .record [("reason", .string r.message), ("offset", .number r.offset),
    ("line", .number r.line), ("column", .number r.column)]

/-- The record of a file with the fields that the command adds. -/
def fileJson (path : Text) (rejection : Option Rejection) (fields : List (String × Json)) : Json :=
  .record ([("path", .string path), ("accepted", .bool rejection.isNone)]
    ++ (rejection.map fun r => ("rejection", rejectionJson r)).toList ++ fields)

def tokenJson (source : Source) (token : Token Ini.Kind) : Json :=
  let (line, column) := source.lineCol token.span.start
  .record [("kind", .string token.kind.name), ("text", .string (token.text source)),
    ("start", .number token.span.start), ("end", .number token.span.stop),
    ("line", .number line), ("column", .number column)]

def tokenLine (source : Source) (token : Token Ini.Kind) : Text :=
  let (line, column) := source.lineCol token.span.start
  decimal line ++ [':'] ++ decimal column ++ [' '] ++ token.kind.name ++ [' ']
    ++ Text.quote (token.text source) ++ ['\n']

def entryJson (e : Ini.Entry) : Json :=
  .record [("key", .string e.key), ("value", .string e.value), ("line", .number e.line)]

def sectionJson (s : Ini.Section) : Json :=
  .record [("name", .textOrNull s.name), ("line", .number s.line),
    ("entries", .array (s.entries.map entryJson))]

def documentJson (d : Ini.Document) : Json :=
  .record [("sections", .array (d.sections.map sectionJson))]

def entryLine (e : Ini.Entry) : Text :=
  "  ".toList ++ e.key ++ " = ".toList ++ e.value ++ ['\n']

/-- The line that stands above the entries of a section. -/
def sectionLine (s : Ini.Section) : Text :=
  match s.name with
  | some name => ['['] ++ name ++ "] (line ".toList ++ decimal s.line ++ [')', '\n']
  | none => "(global)\n".toList

def sectionLines (s : Ini.Section) : Text := sectionLine s ++ s.entries.flatMap entryLine

def documentLines (d : Ini.Document) : Text := d.sections.flatMap sectionLines

/-- What a command adds to the output for a file with these tokens. -/
def outputOf (options : Options) (path : Text) (source : Source) (tokens : List (Token Ini.Kind))
    (rejection : Option Rejection) : Output :=
  match options.command with
  | .tokenize =>
      if options.json then
        .json (fileJson path rejection [("tokens", .array (tokens.map (tokenJson source)))])
      else .text (tokens.flatMap (tokenLine source))
  | .check =>
      if options.json then .json (fileJson path rejection [])
      else if rejection.isNone && options.verbose then .text (path ++ ": ok\n".toList)
      else .text []
  | .sections =>
      if rejection.isSome then
        if options.json then .json (fileJson path rejection []) else .text []
      else
        let document := Ini.Document.ofTokens source tokens
        if options.json then .json (fileJson path rejection [("document", documentJson document)])
        else .text (documentLines document)

/-- The rejection of a lexer that has not read all of its input. -/
def rejection? (lexer : Lexer Ini.Kind) : Option Rejection :=
  match lexer.accepted with
  | .ok _ => none
  | .error r => some r

/-- Runs the command on the source of a path. -/
def process (options : Options) (path : Text) (source : Source) : Except Fault FileReport := do
  let lexer ← Ini.tokenize source
  let rejection := rejection? lexer
  return {
    path := path
    accepted := rejection.isNone
    output := outputOf options path source lexer.tokens rejection
    diagnostic := rejection.map fun r => Report.render path source.text r options.color }

end FileReport

end RuleLexer
