import RuleLexer.Command.Run

/-!
# The program

What the program writes and the status with which it ends, for its arguments and the files that it
can read.
-/

namespace RuleLexer.Program

/-- The end of a program: its status and what it writes. -/
structure Exit where
  code : Nat
  stdout : Text
  stderr : Text
  deriving DecidableEq, Repr

def usage : Text :=
  (String.intercalate "\n"
    ["spanlex - INI tokenizer built on the spanlex grammar engine",
      "",
      "Usage: spanlex <command> [options] <files...>",
      "",
      "Commands:",
      "  tokenize <files...>  Print every token as `line:col Kind \"text\"`",
      "  check <files...>     Report files that are not valid INI (exit status 1)",
      "  sections <files...>  Print sections and entries",
      "  help                 Show this help message",
      "  version              Show version information",
      "",
      "Options:",
      "  --json               Emit JSON instead of text",
      "  --no-parallel        Process files one at a time",
      "  -v, --verbose        Report accepted files; debug logging unless RUST_LOG is set",
      "",
      "Logging is configured with RUST_LOG, e.g. RUST_LOG=spanlex_grammar=trace.",
      ""]).toList

def version : Text := "spanlex 0.1.0\n".toList

def asksHelp (args : List Text) : Bool :=
  match args with
  | [] => true
  | arg :: _ => arg == "help".toList || arg == "--help".toList || arg == "-h".toList

def asksVersion (args : List Text) : Bool :=
  match args with
  | [] => false
  | arg :: _ => arg == "version".toList || arg == "--version".toList || arg == "-V".toList

/-- What the program does with its arguments: with colors if `color` is set. -/
def perform (args : List Text) (color : Bool) (read : FileReader) : Exit :=
  if asksHelp args then ⟨0, usage, []⟩
  else if asksVersion args then ⟨0, version, []⟩
  else match Options.parse args with
    | .error error => ⟨2, usage, "error: ".toList ++ error.message ++ "\n\n".toList⟩
    | .ok options =>
        match Outcome.run { options with color := color } read with
        | .error fault => ⟨1, [], "error: ".toList ++ fault.message ++ "\n".toList⟩
        | .ok outcome => ⟨if outcome.accepted then 0 else 1, outcome.stdout, outcome.stderr⟩

end RuleLexer.Program
