import ObjectQuery.CommandLine.Outcome

/-! The program on the files and the variables of the system. -/

namespace ObjectQuery

def FileFault.ofSystem : IO.Error → FileFault
  | .noFileOrDirectory .. => .notFound
  | .inappropriateType none .. => .isDirectory
  | .inappropriateType (some _) .. => .notDirectory
  | _ => .denied

def readFile (path : String) : IO (Except FileFault String) := do
  try
    return textOfBytes (← IO.FS.readBinFile path)
  catch e =>
    return .error (.ofSystem e)

/-- The directory of the user's configuration; a relative one does not count. -/
def configurationDirectory? : IO (Option String) := do
  match ← IO.getEnv "XDG_CONFIG_HOME" with
  | some directory => if directory.startsWith "/" then return some directory
  | none => pure ()
  return (← IO.getEnv "HOME").map (· ++ "/.config")

def readUserFile : IO (Except FileFault String) := do
  match ← configurationDirectory? with
  | some directory => readFile (directory ++ "/" ++ Settings.userPath)
  | none => return .error .notFound

def surroundings (arguments : List String) : IO Surroundings := do
  let settingsVariable ← IO.getEnv Settings.variableName
  let contents ← (CommandLine.files settingsVariable arguments).mapM fun path => do
    return (path, ← readFile path)
  return {
    read := fun path => (contents.lookup path).getD (.error .notFound)
    settingsVariable := settingsVariable
    userFile := ← readUserFile }

end ObjectQuery

def main (arguments : List String) : IO UInt32 := do
  let outcome := ObjectQuery.CommandLine.run (← ObjectQuery.surroundings arguments) arguments
  IO.print outcome.output
  IO.eprint outcome.errors
  return outcome.exitCode.toUInt32
