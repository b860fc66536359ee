import RuleLexer.Command.Program
import RuleLexer.Command.FileTree

/-!
# The command line

Reads the files that the arguments name, and writes what the program leaves. There is no log: it
would tell what is done and change nothing about it.
-/

open RuleLexer

/-- The error of the system with this number and these words. -/
def systemError (code : UInt32) (details : String) : FileError :=
  if code = 2 then .notFound
  else if code = 20 then .notDirectory
  else if code = 21 then .isDirectory
  else .system (details.toList ++ " (os error ".toList ++ decimal code.toNat ++ ")".toList)

/-- The error of the system in the words of the program. -/
def fileErrorOf : IO.Error → FileError
  | .noFileOrDirectory _ code details => systemError code details
  | .permissionDenied _ code details => systemError code details
  | .inappropriateType _ code details => systemError code details
  | .invalidArgument _ code details => systemError code details
  | .resourceExhausted _ code details => systemError code details
  | .otherError code details => systemError code details
  | error => .system error.toString.toList

def readText (path : String) : IO (Except FileError Text) := do
  try
    return decodeUtf8 (← IO.FS.readBinFile path)
  catch error =>
    return .error (fileErrorOf error)

def main (args : List String) : IO UInt32 := do
  let args := args.map String.toList
  let files := match Options.parse args with
    | .ok options => options.files
    | .error _ => []
  let texts ← files.mapM fun path => return (path, ← readText (String.ofList path))
  let color ← (← IO.getStderr).isTty
  let exit := Program.perform args color fun path => (texts.lookup path).getD (.error .notFound)
  IO.print (String.ofList exit.stdout)
  IO.eprint (String.ofList exit.stderr)
  return exit.code.toUInt32
