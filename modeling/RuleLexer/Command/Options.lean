import RuleLexer.Text.Span

/-!
# Command-line options
-/

namespace RuleLexer

inductive Command where
  | tokenize
  | check
  | sections
  deriving DecidableEq, Repr

namespace Command

def ofName? (name : Text) : Option Command :=
  if name = "tokenize".toList ∨ name = "lex".toList then some tokenize
  else if name = "check".toList then some check
  else if name = "sections".toList then some sections
  else none

def name : Command → Text
  | tokenize => "tokenize".toList
  | check => "check".toList
  | sections => "sections".toList

end Command

inductive UsageError where
  | missingCommand
  | unknownCommand (name : Text)
  | unknownOption (flag : Text)
  | missingFile (command : Command)
  deriving DecidableEq, Repr

def UsageError.message : UsageError → Text
  | missingCommand => "missing command".toList
  | unknownCommand name => "unknown command '".toList ++ name ++ "'".toList
  | unknownOption flag => "unknown option '".toList ++ flag ++ "'".toList
  | missingFile command => "'".toList ++ command.name ++ "' needs at least one file".toList

structure Options where
  command : Command
  files : List Text
  json : Bool
  /-- Files may be read at the same time. -/
  parallel : Bool
  verbose : Bool
  /-- Paint the reports. No argument sets this. -/
  color : Bool
  deriving DecidableEq, Repr

namespace Options

def new (command : Command) : Options := ⟨command, [], false, true, false, false⟩

def addArgument (options : Options) (arg : Text) : Except UsageError Options :=
  if arg = "--json".toList then .ok { options with json := true }
  else if arg = "--no-parallel".toList then .ok { options with parallel := false }
  else if arg = "-v".toList ∨ arg = "--verbose".toList then .ok { options with verbose := true }
  else if arg.head? = some '-' then .error (.unknownOption arg)
  else .ok { options with files := options.files ++ [arg] }

/-- Takes the arguments after the command into account, up to the first that is refused. -/
def addArguments (options : Options) : List Text → Except UsageError Options
  | [] => .ok options
  | arg :: rest => do addArguments (← options.addArgument arg) rest

def parse : List Text → Except UsageError Options
  | [] => .error .missingCommand
  | name :: rest =>
      match Command.ofName? name with
      | none => .error (.unknownCommand name)
      | some command => do
          let options ← (new command).addArguments rest
          if options.files.isEmpty then .error (.missingFile command) else return options

end Options

end RuleLexer
