import ItemSieve.Command.Run

/-!
# The program

Reads the arguments and the files, lets `Invocation.run` answer, and prints and stores the answer.
No external program is started from here, so every launch is refused as if its program were missing.
-/

namespace ItemSieve

/-- Why an external program is not started. -/
def missingProgram (target : String) : String :=
  s!"Failed to launch {target}: No such file or directory (os error 2)"

/-- The directory of the settings document. -/
def settingsDirectory : IO String := do
  if let some dir ← IO.getEnv "ITEMSIFT_CONFIG_DIR" then return dir
  if let some dir ← IO.getEnv "XDG_CONFIG_HOME" then
    if dir.startsWith "/" then return dir ++ "/itemsift"
  return (← IO.getEnv "HOME").getD "" ++ "/.config/itemsift"

/-- Why the system could not read a file. A directory can be opened, but then not be read; so the
error does not name it, as it does name a file that is used as a directory. -/
def readFailure : IO.Error → String
  | .noFileOrDirectory .. => "No such file or directory (os error 2)"
  | .permissionDenied .. => "Permission denied (os error 13)"
  | .inappropriateType none .. => "Is a directory (os error 21)"
  | .inappropriateType (some _) .. => "Not a directory (os error 20)"
  | .invalidArgument .. => "File name too long (os error 36)"
  | e => toString e

/-- The text of a file, or why it cannot be read. -/
def readText (path : String) : IO (Except String String) := do
  try return .ok (← IO.FS.readFile path)
  catch e => return .error (readFailure e)

/-- Runs the command line and returns the exit code. -/
def runArguments (args : List String) : IO UInt32 := do
  match Command.Invocation.ofArguments args with
  | .error e =>
    IO.eprintln ("error: " ++ e.message)
    return 2
  | .ok invocation =>
    let directory ← settingsDirectory
    let document := directory ++ "/config.json"
    let stored := (← readText document).toOption
    let bare : Command.Context := {
      directory := toString (← IO.currentDir)
      stored
      files := fun _ => .error ""
      surroundings := ⟨false, false, fun target => some (missingProgram target)⟩ }
    let content ←
      match bare.catalogPath invocation.catalog with
      | .ok path => readText path
      | .error _ => pure (.error "")
    let report := invocation.run { bare with files := fun _ => content }
    if let some text := report.stored then
      IO.FS.createDirAll directory
      IO.FS.writeFile document text
    IO.print report.output
    if let some line := report.errorLine then IO.eprintln line
    return .ofNat report.exitCode

end ItemSieve

/-- The program. -/
def main (args : List String) : IO UInt32 :=
  ItemSieve.runArguments args
