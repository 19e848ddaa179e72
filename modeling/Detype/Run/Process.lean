import Detype.Compile
import Detype.Files.Operations
import Detype.Report.Finding
import Detype.Run.Inputs
import Detype.Settings

/-
**What happens to one file.**

* `FileOutcome` — how the file fared.
* `writeOutput` — puts code, and a source map if there is one, below the output directory.
* `processFile` — reads, compiles and writes a file.
* `processAll` — does so for all inputs, in any order.
-/

namespace Detype

/-- How a file fared. -/
structure FileOutcome where
  path : String
  /-- The code, if it is for standard output. -/
  code : Option String := none
  findings : List Finding := []
  diagnostics : Nat := 0
  failed : Bool := false
  log : List LogEvent := []
deriving Inhabited

/-- Where the source map beside a code file is. -/
def mapPath (destination : String) : String := destination ++ ".map"

/-- The comment that leads from code to its source map. -/
def mapComment (destination : String) : String :=
  "//# sourceMappingURL=" ++ (Path.fileName? (mapPath destination)).getD (mapPath destination) ++ "\n"

/-- Code with the comment that leads to its source map, on a line of its own. -/
def withMapComment (code destination : String) : String :=
  let ended := if code.isEmpty || code.toList.getLast? == some '\n' then code else code ++ "\n"
  ended ++ mapComment destination

/-- Puts the output of a compilation into files: the directories, then the map, then the code. -/
def writeOutput (t : FileTree) (cwd : Location) (destination : String) (output : Output) :
    FileTree × Except FileError Unit :=
  let (t, made) := match Path.parent? destination with
    | some parent => t.makeDirectories cwd parent
    | none => (t, .ok ())
  let write (t : FileTree) (path text : String) : FileTree × Except FileError Unit :=
    match t.writeFile cwd path text.toUTF8 with
    | .ok t => (t, .ok ())
    | .error e => (t, .error e)
  match made with
  | .error e => (t, .error e)
  | .ok () =>
    match output.sourceMap with
    | none => write t destination output.code
    | some map =>
      match write t (mapPath destination) map with
      | (t, .error e) => (t, .error e)
      | (t, .ok ()) => write t destination (withMapComment output.code destination)

namespace FileOutcome

/-- An event about a file. -/
def event (path message : String) : LogEvent := { level := .debug, message, fields := [("path", path)] }

/-- The outcome of a file without output. -/
def failure (path : String) (finding : Finding) (message : String) : FileOutcome :=
  { path, findings := [finding], failed := true, log := [event path "transpiling", event path message] }

/-- The events of a file that compiles. -/
def compiledLog (path : String) (output : Output) : List LogEvent :=
  let count := output.diagnostics.length
  if count == 0 then [event path "transpiling"]
  else
    [event path "transpiling",
      { level := .debug, message := "recovered from syntax errors",
        fields := [("path", path), ("count", toString count)] }]

/-- The outcome of a file that compiles, before its output goes anywhere. -/
def compiled (path : String) (output : Output) : FileOutcome :=
  { path, findings := output.diagnostics.map Finding.ofDiagnostic, diagnostics := output.diagnostics.length,
    log := compiledLog path output }

/-- The outcome of a file whose code is for standard output. -/
def printed (path : String) (output : Output) : FileOutcome := { compiled path output with code := some output.code }

/-- The outcome of a file, given how the writing of its output went. -/
def ofWriting (path destination : String) (output : Output) : Except FileError Unit → FileOutcome
  | .ok () =>
    let wrote : LogEvent :=
      { level := .info, message := "wrote output", fields := [("path", path), ("dest", destination)] }
    { compiled path output with log := compiledLog path output ++ [wrote] }
  | .error e =>
    { compiled path output with
      findings := .ofMessage e.message :: output.diagnostics.map Finding.ofDiagnostic
      failed := true
      log := compiledLog path output ++ [event path ("failed to write: " ++ e.message)] }

end FileOutcome

/-- Reads, compiles and writes a file. -/
def processFile (settings : Settings) (cwd : Location) (input : Input) (t : FileTree) : FileTree × FileOutcome :=
  let path := input.path
  match t.readText cwd path with
  | .error e =>
    (t, .failure path (.ofMessage ("failed to read file: " ++ e.message)) ("failed to read: " ++ e.message))
  | .ok source =>
    match compile source (settings.optionsFor path) with
    | .error e => (t, .failure path (.ofError e) ("transpile failed: " ++ e.message))
    | .ok output =>
      match settings.outDir with
      | none => (t, .printed path output)
      | some outDir =>
        let destination := input.destination outDir
        let (t, result) := writeOutput t cwd destination output
        (t, .ofWriting path destination output result)

/-- Processes inputs in the order of a list of their numbers. Gives the outcomes with the numbers. -/
def processSteps (settings : Settings) (cwd : Location) (inputs : List Input) :
    List Nat → FileTree → FileTree × List (Nat × FileOutcome)
  | [], t => (t, [])
  | i :: order, t =>
    match inputs[i]? with
    | none => processSteps settings cwd inputs order t
    | some input =>
      let (t, outcome) := processFile settings cwd input t
      let (t, outcomes) := processSteps settings cwd inputs order t
      (t, (i, outcome) :: outcomes)

/-- Processes all inputs in some order. The outcomes are in the order of the inputs. -/
def processAll (settings : Settings) (cwd : Location) (inputs : List Input) (order : List Nat) (t : FileTree) :
    FileTree × List FileOutcome :=
  let (t, outcomes) := processSteps settings cwd inputs order t
  (t, (List.range inputs.length).filterMap (outcomes.lookup ·))

end Detype
