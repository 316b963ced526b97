/-! What the program is asked to do. Arguments are taken from left to right, and the first that
settles the request, or is at fault, settles it. -/

namespace ObjectQuery.CommandLine

inductive OutputFormat where
  | text
  | json
  deriving Repr, DecidableEq

def OutputFormat.named? : String → Option OutputFormat
  | "text" => some .text
  | "json" => some .json
  | _ => none

/-- The settings of a compilation are looked for if no file of them is given. -/
inductive Command where
  | compile (file : String) (count : Bool) (settings : Option String) (format : OutputFormat)
  | validate (file : String)
  deriving Repr, DecidableEq

/-- A subject of help; that on compilation comes as a summary and in detail. -/
inductive Topic where
  | program
  | compile (detailed : Bool)
  | validate
  | help
  deriving Repr, DecidableEq

inductive Request where
  | run (command : Command)
  | help (topic : Topic)
  | version
  deriving Repr, DecidableEq

inductive UsageError where
  | missingCommand
  | missingFile
  | missingValue (option : String)
  | unknownCommand (name : String)
  | unknownOption (text : String)
  | unexpectedArgument (text : String)
  | unexpectedValue (option value : String)
  | invalidFormat (value : String)
  | repeated (option : String)
  deriving Repr, DecidableEq

def UsageError.message : UsageError → String
  | .missingCommand => "a command is required"
  | .missingFile => "a query file is required"
  | .missingValue option => "a value is required for '" ++ option ++ "'"
  | .unknownCommand name => "unrecognized command '" ++ name ++ "'"
  | .unknownOption text => "unexpected option '" ++ text ++ "'"
  | .unexpectedArgument text => "unexpected argument '" ++ text ++ "'"
  | .unexpectedValue option value => "unexpected value '" ++ value ++ "' for '" ++ option ++ "'"
  | .invalidFormat value => "invalid format '" ++ value ++ "', expected 'text' or 'json'"
  | .repeated option => "'" ++ option ++ "' cannot be used more than once"

/-- How an argument is written. -/
inductive Spelling where
  | operand
  /-- All arguments behind it are operands. -/
  | separator
  | long (name : String) (value : Option String)
  | short (letter : Char) (attached : List Char)

/-- A single dash is an operand. -/
def Spelling.of (argument : String) : Spelling :=
  match argument.toList with
  | ['-', '-'] => .separator
  | '-' :: '-' :: cs =>
    let name := String.ofList (cs.takeWhile (· ≠ '='))
    match cs.dropWhile (· ≠ '=') with
    | [] => .long name none
    | _ :: value => .long name (some (String.ofList value))
  | '-' :: letter :: attached => .short letter attached
  | _ => .operand

/-- The value written behind a letter, with or without an equals sign. -/
def attachedValue? : List Char → Option String
  | [] => none
  | '=' :: value => some (String.ofList value)
  | value => some (String.ofList value)

inductive Switch where
  | count
  | settings
  | format
  | help (detailed : Bool)
  deriving Repr, DecidableEq

namespace Switch

def name : Switch → String
  | .count => "--count"
  | .settings => "--config"
  | .format => "--format"
  | .help _ => "--help"

def takesValue : Switch → Bool
  | .settings | .format => true
  | .count | .help _ => false

end Switch

/-- The arguments of a command found so far. -/
structure Draft where
  file : Option String := none
  count : Bool := false
  settings : Option String := none
  format : Option OutputFormat := none

namespace Draft

def withFile (d : Draft) (file : String) : Except UsageError Draft :=
  if d.file.isSome then .error (.unexpectedArgument file)
  else if file.isEmpty then .error .missingFile
  else .ok { d with file := file }

def withCount (d : Draft) : Except UsageError Draft :=
  if d.count then .error (.repeated Switch.count.name) else .ok { d with count := true }

def withSettings (d : Draft) (path : String) : Except UsageError Draft :=
  if path.isEmpty then .error (.missingValue Switch.settings.name)
  else if d.settings.isSome then .error (.repeated Switch.settings.name)
  else .ok { d with settings := path }

def withFormat (d : Draft) (value : String) : Except UsageError Draft :=
  match OutputFormat.named? value with
  | none => .error (.invalidFormat value)
  | some format =>
    if d.format.isSome then .error (.repeated Switch.format.name)
    else .ok { d with format := format }

def withValue (d : Draft) (option : Switch) (value : String) : Except UsageError Draft :=
  match option with
  | .settings => d.withSettings value
  | .format => d.withFormat value
  | option => .error (.unexpectedValue option.name value)

end Draft

/-- What follows the name of a command: its options, its help, and what it makes of a file. -/
structure Form where
  long? : String → Option Switch
  short? : Char → Option Switch
  topic : Bool → Topic
  command : Draft → String → Command

namespace Form

def compile : Form where
  long?
    | "count" => some .count
    | "config" => some .settings
    | "format" => some .format
    | "help" => some (.help true)
    | _ => none
  short?
    | 'c' => some .settings
    | 'f' => some .format
    | 'h' => some (.help false)
    | _ => none
  topic := .compile
  command d file := .compile file d.count d.settings (d.format.getD .text)

def validate : Form where
  long?
    | "help" => some (.help true)
    | _ => none
  short?
    | 'h' => some (.help false)
    | _ => none
  topic _ := .validate
  command _ file := .validate file

def finish (f : Form) (d : Draft) : Except UsageError Request :=
  match d.file with
  | some file => .ok (.run (f.command d file))
  | none => .error .missingFile

def operands (f : Form) (d : Draft) : List String → Except UsageError Request
  | [] => f.finish d
  | file :: rest => do f.operands (← d.withFile file) rest

/-- The option an argument names, if it is known, with the value it carries. -/
def option? (f : Form) : Spelling → Option (Switch × Option String)
  | .long name value => (f.long? name).map (·, value)
  | .short letter attached =>
    (f.short? letter).map fun option =>
      (option, if option.takesValue then attachedValue? attached else none)
  | .operand | .separator => none

/-- An option that carries no value takes the next argument, which must not look like an option. -/
def request (f : Form) (d : Draft) : List String → Except UsageError Request
  | [] => f.finish d
  | argument :: rest =>
    match Spelling.of argument, f.option? (.of argument) with
    | .operand, _ => do f.request (← d.withFile argument) rest
    | .separator, _ => f.operands d rest
    | _, none => .error (.unknownOption argument)
    | _, some (option, some value) => do f.request (← d.withValue option value) rest
    | _, some (.help detailed, none) => .ok (.help (f.topic detailed))
    | _, some (.count, none) => do f.request (← d.withCount) rest
    | _, some (option, none) =>
      match rest with
      | [] => .error (.missingValue option.name)
      | value :: rest =>
        match Spelling.of value with
        | .operand => do f.request (← d.withValue option value) rest
        | _ => .error (.missingValue option.name)

end Form

namespace Request

def topic? : String → Option Topic
  | "compile" => some (.compile true)
  | "validate" => some .validate
  | "help" => some .help
  | _ => none

/-- Help on the program, or on the one command that is named. -/
def ofTopics : List String → Except UsageError Request
  | [] => .ok (.help .program)
  | name :: rest =>
    match topic? name, rest with
    | none, _ => .error (.unknownCommand name)
    | some topic, [] => .ok (.help topic)
    | some _, name :: _ => .error (.unknownCommand name)

def ofArguments : List String → Except UsageError Request
  | [] => .error .missingCommand
  | argument :: rest =>
    match argument, Spelling.of argument with
    | "compile", _ => Form.compile.request {} rest
    | "validate", _ => Form.validate.request {} rest
    | "help", _ => ofTopics rest
    | _, .long "help" none | _, .short 'h' _ => .ok (.help .program)
    | _, .long "version" none | _, .short 'V' _ => .ok .version
    | _, .operand => .error (.unknownCommand argument)
    | _, _ => .error (.unknownOption argument)

end Request

end ObjectQuery.CommandLine
