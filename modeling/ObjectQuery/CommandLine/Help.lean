import ObjectQuery.CommandLine.Request

/-! The help texts of the program. -/

namespace ObjectQuery.CommandLine

def programName : String := "pathql"

def versionText : String := programName ++ " 0.1.0"

private def paragraphs (parts : List (List String)) : String :=
  "\n\n".intercalate (parts.map "\n".intercalate)

private def fileSummary : List String :=
  ["Arguments:", "  <FILE>  Path to the JSON query file"]

private def compileUsage : List String :=
  ["Usage: pathql compile [OPTIONS] <FILE>"]

def Topic.text : Topic → String
  | .program => paragraphs [
      ["pathql - Compile entity query models to parameterized object queries"],
      ["Usage: pathql <COMMAND>"],
      ["Commands:",
        "  compile   Compile a query model",
        "  validate  Validate a query model without compiling it",
        "  help      Print this message or the help of the given subcommand(s)"],
      ["Options:",
        "  -h, --help     Print help",
        "  -V, --version  Print version"]]
  | .compile false => paragraphs [
      ["Compile a query model"],
      compileUsage,
      fileSummary,
      ["Options:",
        "      --count            Compile the row-count statement instead",
        "  -c, --config <CONFIG>  Settings file (defaults to PATHQL_CONFIG, ./pathql.toml, " ++
          "then the user config dir)",
        "  -f, --format <FORMAT>  Output format [default: text] [possible values: text, json]",
        "  -h, --help             Print help (see more with '--help')"]]
  | .compile true => paragraphs [
      ["Compile a query model"],
      compileUsage,
      ["Arguments:",
        "  <FILE>",
        "          Path to the JSON query file"],
      ["Options:",
        "      --count",
        "          Compile the row-count statement instead"],
      ["  -c, --config <CONFIG>",
        "          Settings file (defaults to PATHQL_CONFIG, ./pathql.toml, then the user " ++
          "config dir)"],
      ["  -f, --format <FORMAT>",
        "          Output format"],
      ["          Possible values:",
        "          - text: Statement, then parameters and warnings",
        "          - json: A JSON object with text, parameters and diagnostics"],
      ["          [default: text]"],
      ["  -h, --help",
        "          Print help (see a summary with '-h')"]]
  | .validate => paragraphs [
      ["Validate a query model without compiling it"],
      ["Usage: pathql validate <FILE>"],
      fileSummary,
      ["Options:",
        "  -h, --help  Print help"]]
  | .help => paragraphs [
      ["Print this message or the help of the given subcommand(s)"],
      ["Usage: pathql help [COMMAND]..."],
      ["Arguments:",
        "  [COMMAND]...  Print help for the subcommand(s)"]]

end ObjectQuery.CommandLine
