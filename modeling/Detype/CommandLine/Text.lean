import Detype.CommandLine.Parse

/-
**What the command line has to say.**

* `helpText` — the long and the short help.
* `ArgumentError.text` — what is printed when a command line gives no arguments.
* `ArgumentError.exitCode` — zero when help or the version was asked for.
-/

namespace Detype.CommandLine

def programName : String := "ts-transpile"

def versionText : String := programName ++ " 0.3.0\n"

def lines (ls : List String) : String := String.join (ls.map (· ++ "\n"))

def helpHead : List String :=
  ["Transpile TypeScript files to JavaScript", "", "Usage: " ++ programName ++ " [OPTIONS] [INPUTS]...", "",
   "Arguments:"]

/-- The help. The long form gives each option a paragraph. -/
def helpText (long : Bool) : String :=
  if long then
    lines <| helpHead ++
      ["  [INPUTS]...",
       "          Files or directories to transpile (reads stdin when none are given)",
       "",
       "Options:",
       "      --out-dir <OUT_DIR>",
       "          Directory to write output files to (prints to stdout otherwise)",
       "",
       "      --module <MODULE>",
       "          Module system of the output (commonjs, amd, umd, system, esnext, ...)",
       "",
       "  -p, --project <PROJECT>",
       "          Path to tsconfig.json",
       "",
       "      --source-map",
       "          Write .js.map files next to the output (requires --out-dir)",
       "",
       "      --diagnostics",
       "          Print recoverable syntax diagnostics",
       "",
       "      --output <OUTPUT>",
       "          Diagnostics output format",
       "",
       "          Possible values:",
       "          - human:   Human-readable output (default)",
       "          - json:    JSON output",
       "          - machine: Machine-readable (one line per diagnostic)",
       "          ",
       "          [default: human]",
       "",
       "      --fail-on-diagnostics",
       "          Exit with error when any diagnostic was reported",
       "",
       "      --ignore <IGNORE>",
       "          Glob patterns to ignore when walking directories",
       "",
       "  -v, --verbose",
       "          Enable debug logging",
       "",
       "  -h, --help",
       "          Print help (see a summary with '-h')",
       "",
       "  -V, --version",
       "          Print version"]
  else
    lines <| helpHead ++
      ["  [INPUTS]...  Files or directories to transpile (reads stdin when none are given)",
       "",
       "Options:",
       "      --out-dir <OUT_DIR>    Directory to write output files to (prints to stdout otherwise)",
       "      --module <MODULE>      Module system of the output (commonjs, amd, umd, system, esnext, ...)",
       "  -p, --project <PROJECT>    Path to tsconfig.json",
       "      --source-map           Write .js.map files next to the output (requires --out-dir)",
       "      --diagnostics          Print recoverable syntax diagnostics",
       "      --output <OUTPUT>      Diagnostics output format [default: human] [possible values: human, json, machine]",
       "      --fail-on-diagnostics  Exit with error when any diagnostic was reported",
       "      --ignore <IGNORE>      Glob patterns to ignore when walking directories",
       "  -v, --verbose              Enable debug logging",
       "  -h, --help                 Print help (see more with '--help')",
       "  -V, --version              Print version"]

/-- The usage line with the options that were given. -/
def usage (used : List Flag) : String :=
  let options := if used.isEmpty then "[OPTIONS]" else String.intercalate " " (used.map Flag.shown)
  "Usage: " ++ programName ++ " " ++ options ++ " [INPUTS]..."

/-- A paragraph that suggests something. -/
def tip (text : String) : String := "\n\n  tip: " ++ text

/-- The choices for the value of an option. -/
def choices : String :=
  "\n  [possible values: " ++ String.intercalate ", " (ReportFormat.all.map ReportFormat.name) ++ "]"

end Detype.CommandLine

namespace Detype.ArgumentError

open CommandLine

/-- The first line of an error, without the word that opens it. -/
def summary : ArgumentError → String
  | help _ | version => ""
  | unknown a _ _ => "unexpected argument '" ++ a ++ "' found"
  | missingValue f => "a value is required for '" ++ f.shown ++ "' but none was supplied"
  | invalidChoice f v => "invalid value '" ++ v ++ "' for '" ++ f.shown ++ "'"
  | invalidValue f v reason => "invalid value '" ++ v ++ "' for '" ++ f.shown ++ "': " ++ reason
  | repeated f => "the argument '" ++ f.shown ++ "' cannot be used multiple times"
  | unneededValue f v _ =>
    "unexpected value '" ++ v ++ "' for '" ++ f.shown ++ "' found; no more were expected"

/-- What follows the first line of an error. -/
def details : ArgumentError → String
  | help _ | version | invalidValue .. => ""
  | unknown a similar used =>
    (match similar with
      | some f => tip ("a similar argument exists: '--" ++ f.long ++ "'")
      | none => tip ("to pass '" ++ a ++ "' as a value, use '-- " ++ a ++ "'"))
      ++ "\n\n" ++ usage used
  | missingValue f => if f == .output then choices else ""
  | invalidChoice _ v =>
    choices
      ++ match mostSimilar? v (ReportFormat.all.map ReportFormat.name) with
        | some s => tip ("a similar value exists: '" ++ s ++ "'")
        | none => ""
  | repeated _ => "\n\n" ++ usage []
  | unneededValue _ _ used => "\n\n" ++ usage used

/-- What is printed. -/
def text (e : ArgumentError) : String :=
  match e with
  | help long => helpText long
  | version => versionText
  | e => "error: " ++ e.summary ++ e.details ++ "\n\nFor more information, try '--help'.\n"

/-- The first line of what is printed. -/
def firstLine (e : ArgumentError) : String :=
  match e with
  | help _ => "Transpile TypeScript files to JavaScript"
  | version => programName ++ " 0.3.0"
  | e => String.ofList (("error: " ++ e.summary).toList.takeWhile (· != '\n'))

/-- Zero when help or the version was asked for. -/
def exitCode : ArgumentError → Nat
  | help _ | version => 0
  | _ => 2

end Detype.ArgumentError
