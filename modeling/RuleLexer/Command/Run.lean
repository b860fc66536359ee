import RuleLexer.Command.Process

/-!
# Running a command over files

Every file is worked on by itself, one after another or with the work divided. What they add to a
run is put together in the order in which they are given. A file that cannot be read gets a line
among the diagnostics and nothing in the output.
-/

namespace RuleLexer

inductive FileError where
  | notFound
  | isDirectory
  | notDirectory
  | notUtf8
  /-- Another error of the system, in its own words. -/
  | system (message : Text)
  deriving DecidableEq, Repr

def FileError.message : FileError → Text
  | notFound => "No such file or directory (os error 2)".toList
  | isDirectory => "Is a directory (os error 21)".toList
  | notDirectory => "Not a directory (os error 20)".toList
  | notUtf8 => "stream did not contain valid UTF-8".toList
  | system message => message

/-- How the text of the file at a path is had. -/
abbrev FileReader := Text → Except FileError Text

/-- What a run leaves: whether every file was read and accepted, and what it writes. -/
structure Outcome where
  accepted : Bool
  stdout : Text
  stderr : Text
  deriving DecidableEq, Repr

namespace Outcome

/-- What one file adds to a run: its verdict, a text, a JSON value and a diagnostic. -/
structure Part where
  accepted : Bool
  text : Text
  json : Option Json
  stderr : Text

/-- The line of a file that cannot be read. -/
def readFailure (path : Text) (error : FileError) : Text :=
  "error: cannot read ".toList ++ path ++ ": ".toList ++ error.message ++ ['\n']

/-- The line above the text of a file, if there are several files. -/
def heading (options : Options) (path : Text) : Text :=
  if 1 < options.files.length then "==> ".toList ++ path ++ " <==\n".toList else []

def partOf (options : Options) (report : FileReport) : Part :=
  let (text, json) := match report.output with
    | .text text => (if text.isEmpty then [] else heading options report.path ++ text, none)
    | .json value => ([], some value)
  ⟨report.accepted, text, json, report.diagnostic.getD []⟩

def part (options : Options) (read : FileReader) (path : Text) : Except Fault Part :=
  match read path with
  | .error error => .ok ⟨false, [], none, readFailure path error⟩
  | .ok text => (FileReport.process options path (Source.ofText text)).map (partOf options)

def ofParts (options : Options) (parts : List Part) : Outcome :=
  let json :=
    if options.json then (Json.array (parts.filterMap (·.json))).pretty ++ ['\n'] else []
  ⟨parts.all (·.accepted), parts.flatMap (·.text) ++ json, parts.flatMap (·.stderr)⟩

/-- Applies `f` to a list with the work divided: either half of the list is worked on by itself, and
divided further until `splits` divisions are inside one another, or one element is left. -/
def forkJoin {α β : Type} (f : α → β) : Nat → List α → List β
  | 0, xs => xs.map f
  | splits + 1, xs =>
      if xs.length ≤ 1 then xs.map f
      else
        let middle := xs.length / 2
        forkJoin f splits (xs.take middle) ++ forkJoin f splits (xs.drop middle)

/-- What every file adds to the run, or why the work on it has come to a stop. -/
def results (options : Options) (read : FileReader) : List (Except Fault Part) :=
  if options.parallel then forkJoin (part options read) options.files.length options.files
  else options.files.map (part options read)

/-- Runs the command over all files. -/
def run (options : Options) (read : FileReader) : Except Fault Outcome := do
  let parts ← (results options read).mapM id
  return ofParts options parts

end Outcome

end RuleLexer
