import ObjectQuery.CommandLine.Help
import ObjectQuery.Document.Compiled
import ObjectQuery.Document.Query
import ObjectQuery.Json.Printer
import ObjectQuery.Settings.Load

/-! What a run of the program leaves behind: its exit code and what it writes. -/

namespace ObjectQuery.CommandLine

structure Outcome where
  exitCode : Nat
  output : String
  errors : String
  deriving Repr, DecidableEq

def lines (texts : List String) : String :=
  String.join (texts.map (· ++ "\n"))

namespace Outcome

def success (output : String) (warnings : List String) : Outcome :=
  ⟨0, output, lines (warnings.map ("warning: " ++ ·))⟩

def failure (errors : String) : Outcome :=
  ⟨1, "", errors⟩

/-- What is written when compilation breaks off is none of the program's own. -/
def brokenOff : Outcome :=
  ⟨101, "", ""⟩

def misuse (error : UsageError) : Outcome :=
  ⟨2, "", lines ["error: " ++ error.message, "", "For more information, try '--help'."]⟩

end Outcome

/-- Where the reason is left out, so is the end of the line. -/
def settingsFault (error : SettingsError) : String :=
  let text := "Configuration error: " ++ error.message
  match error with
  | .fileNotFound _ | .invalid _ => lines [text]
  | .unreadable | .malformed => text

/-- The query in a file, or what is written if there is none. -/
def queryIn (read : FileReader) (file : String) : Except String Query :=
  match read file with
  | .error fault => .error (lines ["Error reading file '" ++ file ++ "': " ++ fault.message])
  | .ok text =>
    match Document.ofText Document.query text with
    | .error _ => .error ("Error parsing query '" ++ file ++ "'")
    | .ok q => .ok q

/-- The statement and, behind a blank line, a line for each argument. -/
def compiledText (c : Compiled) : String :=
  let arguments := c.parameters.sorted.map fun (name, a) => "  :" ++ name ++ " = " ++ a.text
  lines (c.text :: if arguments.isEmpty then [] else "" :: "Parameters:" :: arguments)

/-- Warnings stand within the JSON output, and beside the text. -/
def Outcome.ofCompiled (format : OutputFormat) (c : Compiled) : Outcome :=
  match format with
  | .text => .success (compiledText c) (c.diagnostics.map Diagnostic.message)
  | .json => .success (lines [c.toJson.pretty]) []

/-- The query is read before the settings. -/
def compile (s : Surroundings) (file : String) (count : Bool) (settings : Option String)
    (format : OutputFormat) : Outcome :=
  match queryIn s.read file with
  | .error errors => .failure errors
  | .ok q =>
    match Settings.load s settings with
    | .error e => .failure (settingsFault e)
    | .ok settings =>
      let compiler := Compiler.ofConventions settings.names
      match if count then compiler.compileCount q else compiler.compile q with
      | .error e =>
        if e.breaksOff then .brokenOff else .failure (lines ["Compilation error: " ++ e.message])
      | .ok c => .ofCompiled format c

def validate (s : Surroundings) (file : String) : Outcome :=
  match queryIn s.read file with
  | .error errors => .failure errors
  | .ok q =>
    match q.validate with
    | .error e => .failure (lines ["Validation error: " ++ e.message])
    | .ok () =>
      .success (lines ["OK: " ++ file ++ " is valid"])
        ((q.filter.elim [] Restriction.gaps).map
          ("null restriction at " ++ Restriction.locationText ·))

/-- The files that a run may read, that of the user's settings apart. -/
def files (settingsVariable : Option String) (arguments : List String) : List String :=
  match Request.ofArguments arguments with
  | .ok (.run (.compile file _ settings _)) =>
    file :: Settings.localFile :: settings.toList ++ settingsVariable.toList
  | .ok (.run (.validate file)) => [file]
  | _ => []

/-- Runs the program. -/
def run (s : Surroundings) (arguments : List String) : Outcome :=
  match Request.ofArguments arguments with
  | .error error => .misuse error
  | .ok (.help topic) => .success (lines [topic.text]) []
  | .ok .version => .success (lines [versionText]) []
  | .ok (.run (.compile file count settings format)) => compile s file count settings format
  | .ok (.run (.validate file)) => validate s file

end ObjectQuery.CommandLine
