import Detype.CommandLine.Arguments
import Detype.CommandLine.Similar

/-
**Reading the command line.**

Options start with a dash. An option with a value takes the next argument, or what follows an equals
sign; a single letter also takes what follows it directly. After `--` everything is an input.

A value is looked at only when the next option or input begins, or at the end, so that the faults of a
command line come in that order.

* `Flag` — the options.
* `ArgumentError` — why a command line is refused; asking for help is one reason.
* `Arguments.parse` — reads a command line.
-/

namespace Detype

/-- The options of the command line. -/
inductive Flag where
  | outDir
  | module
  | project
  | sourceMap
  | diagnostics
  | output
  | failOnDiagnostics
  | ignore
  | verbose
  | help
  | version
deriving DecidableEq, Inhabited, Repr

namespace Flag

def all : List Flag :=
  [outDir, module, project, sourceMap, diagnostics, output, failOnDiagnostics, ignore, verbose, help,
   version]

/-- The name after two dashes. -/
def long : Flag → String
  | outDir => "out-dir"
  | module => "module"
  | project => "project"
  | sourceMap => "source-map"
  | diagnostics => "diagnostics"
  | output => "output"
  | failOnDiagnostics => "fail-on-diagnostics"
  | ignore => "ignore"
  | verbose => "verbose"
  | help => "help"
  | version => "version"

/-- The letter after one dash. -/
def short? : Flag → Option Char
  | project => some 'p'
  | verbose => some 'v'
  | help => some 'h'
  | version => some 'V'
  | _ => none

/-- What the value of an option is called; none if it takes no value. -/
def valueName? : Flag → Option String
  | outDir => some "OUT_DIR"
  | module => some "MODULE"
  | project => some "PROJECT"
  | output => some "OUTPUT"
  | ignore => some "IGNORE"
  | _ => none

def takesValue (f : Flag) : Bool := f.valueName?.isSome

/-- Whether an option may be given more than once. -/
def isRepeatable (f : Flag) : Bool := f == ignore

/-- The option in a message. -/
def shown (f : Flag) : String :=
  match f.valueName? with
  | some name => "--" ++ f.long ++ " <" ++ name ++ ">"
  | none => "--" ++ f.long

def ofLong? (name : String) : Option Flag := all.find? (·.long == name)

def ofShort? (c : Char) : Option Flag := all.find? (·.short? == some c)

end Flag

/-- Why a command line does not give arguments. `used` holds the options that were given before. -/
inductive ArgumentError where
  | help (long : Bool)
  | version
  | unknown (argument : String) (similar : Option Flag) (used : List Flag)
  | missingValue (flag : Flag)
  /-- A value that is none of the choices. -/
  | invalidChoice (flag : Flag) (value : String)
  /-- A value that cannot be read. -/
  | invalidValue (flag : Flag) (value reason : String)
  | repeated (flag : Flag)
  /-- A value for an option that takes none. -/
  | unneededValue (flag : Flag) (value : String) (used : List Flag)
deriving DecidableEq, Inhabited, Repr

namespace CommandLine

/-- An option that was given, whose value has not been looked at. -/
inductive Pending where
  /-- The value has to come. -/
  | waiting (flag : Flag)
  | holding (flag : Flag) (value : String)
deriving DecidableEq, Inhabited, Repr

/-- How far the reading of a command line is. -/
structure State where
  arguments : Arguments := {}
  /-- The options that were given, in order. -/
  used : List Flag := []
  pending : Option Pending := none
deriving Inhabited

/-- Marks an option as given. -/
def State.mark (s : State) (f : Flag) : State :=
  if s.used.contains f then s else { s with used := s.used ++ [f] }

/-- The arguments with the value of an option. -/
def setValue (a : Arguments) (f : Flag) (value : String) : Except ArgumentError Arguments :=
  match f with
  | .outDir => .ok { a with outDir := some value }
  | .project => .ok { a with project := some value }
  | .ignore => .ok { a with ignore := a.ignore ++ [value] }
  | .module =>
    match ModuleKind.ofConfigName? value with
    | some kind => .ok { a with module := some kind }
    | none => .error (.invalidValue f value (ModuleKind.unknownNameMessage value))
  | .output =>
    match ReportFormat.ofName? value with
    | some format => .ok { a with output := format }
    | none => if value.isEmpty then .error (.missingValue f) else .error (.invalidChoice f value)
  | _ => .ok a

/-- The arguments with an option that takes no value. -/
def setFlag (a : Arguments) (f : Flag) : Arguments :=
  match f with
  | .sourceMap => { a with sourceMap := true }
  | .diagnostics => { a with diagnostics := true }
  | .failOnDiagnostics => { a with failOnDiagnostics := true }
  | .verbose => { a with verbose := true }
  | _ => a

/-- Puts an option with its value into the arguments. The state keeps that the option was given even
when its value is refused. -/
def State.enter (s : State) (f : Flag) (value : String) : State × Except ArgumentError Unit :=
  if s.used.contains f && !f.isRepeatable then
    ({ s with used := s.used.filter (· != f), pending := none }, .error (.repeated f))
  else
    let s := { s.mark f with pending := none }
    match setValue s.arguments f value with
    | .ok arguments => ({ s with arguments }, .ok ())
    | .error e => (s, .error e)

/-- Looks at the value that was left aside. -/
def State.settle (s : State) : State × Except ArgumentError Unit :=
  match s.pending with
  | none => (s, .ok ())
  | some (.waiting f) => ({ s with pending := none }, .error (.missingValue f))
  | some (.holding f value) => s.enter f value

/-- Goes on after what was left aside is settled. -/
def State.settled (s : State) (next : State → Except ArgumentError State) : Except ArgumentError State :=
  match s.settle with
  | (s, .ok ()) => next s
  | (_, .error e) => .error e

/-- An option with a value that came along with it. -/
def State.attached (s : State) (f : Flag) (value : String) : Except ArgumentError State :=
  s.settled fun s =>
    match s.enter f value with
    | (s, .ok ()) => .ok s
    | (_, .error e) => .error e

/-- An option whose value has to come next. -/
def State.await (s : State) (f : Flag) : Except ArgumentError State :=
  s.settled fun s => .ok { s with pending := some (.waiting f) }

/-- An option without a value. -/
def State.flag (s : State) (f : Flag) (long : Bool) : Except ArgumentError State :=
  s.settled fun s =>
    match f with
    | .help => .error (.help long)
    | .version => .error .version
    | f =>
      if s.used.contains f then .error (.repeated f)
      else .ok { s.mark f with arguments := setFlag s.arguments f }

/-- An input. -/
def State.input (s : State) (value : String) : Except ArgumentError State :=
  s.settled fun s =>
    .ok { s with arguments := { s.arguments with inputs := s.arguments.inputs ++ [value] } }

/-- A text up to the first equals sign, and what follows it. -/
def splitEquals : List Char → List Char × Option (List Char)
  | [] => ([], none)
  | c :: cs =>
    if c = '=' then ([], some cs)
    else
      let (name, value) := splitEquals cs
      (c :: name, value)

/-- An argument that starts with two dashes, without them. -/
def State.long (s : State) (text : List Char) : Except ArgumentError State :=
  let (name, value) := splitEquals text
  let name := String.ofList name
  match Flag.ofLong? name with
  | some f =>
    match value with
    | some value =>
      if f.takesValue then s.attached f (String.ofList value)
      else .error (.unneededValue f (String.ofList value) s.used)
    | none => if f.takesValue then s.await f else s.flag f true
  | none =>
    let similar := (mostSimilar? name (Flag.all.map Flag.long)).bind Flag.ofLong?
    let s := s.settle.1
    let s := match similar with
      | some f => s.mark f
      | none => s
    .error (.unknown ("--" ++ name) similar s.used)

/-- Letters after one dash. -/
def State.letters (s : State) : List Char → Except ArgumentError State
  | [] => .ok s
  | c :: cs =>
    match Flag.ofShort? c with
    | none => .error (.unknown (String.ofList ['-', c]) none [])
    | some f =>
      if f.takesValue then
        match cs with
        | [] => s.await f
        | '=' :: value => s.attached f (String.ofList value)
        | value => s.attached f (String.ofList value)
      else
        match s.flag f false with
        | .ok s => s.letters cs
        | .error e => .error e

/-- An argument before `--`. -/
def State.step (s : State) (argument : String) : Except ArgumentError State :=
  match argument.toList with
  | '-' :: '-' :: text => s.long text
  | '-' :: c :: cs => s.letters (c :: cs)
  | _ =>
    match s.pending with
    | some (.waiting f) => .ok { s with pending := some (.holding f argument) }
    | _ => s.input argument

/-- Reads the arguments that are left. -/
def State.read (s : State) : List String → Except ArgumentError State
  | [] => s.settled .ok
  | "--" :: inputs =>
    match inputs.foldlM State.input s with
    | .ok s => s.settled .ok
    | .error e => .error e
  | a :: as =>
    match s.step a with
    | .ok s => s.read as
    | .error e => .error e

end CommandLine

/-- Reads a command line, without the name of the program. -/
def Arguments.parse (argv : List String) : Except ArgumentError Arguments :=
  (CommandLine.State.read {} argv).map (·.arguments)

end Detype
