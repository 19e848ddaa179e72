import Detype.Report.Format
import Detype.Report.Summary
import Detype.Run.Process

/-
**A run.**

* `World` — what a run finds: files, the working directory, standard input.
* `RunReport` — what it leaves: a summary or an error, what it printed, the log and the files.
* `runInOrder` — a run that processes its inputs in a given order; the report does not show the order.
* `run` — a run that processes them as they come.
-/

namespace Detype

/-- What a run finds. -/
structure World where
  tree : FileTree
  /-- The working directory. -/
  cwd : Location
  stdin : ByteArray := .empty
  /-- Whether nothing can be written to standard output. -/
  stdoutFull : Bool := false
deriving Inhabited

/-- What a run leaves. -/
structure RunReport where
  result : Except RunError Summary
  stdout : String := ""
  stderr : String := ""
  log : List LogEvent := []
  tree : FileTree
deriving Inhabited

namespace World

/-- The name of a project file that is looked for. -/
def projectFile : String := "./tsconfig.json"

/-- Reads a project file. -/
def loadProject (w : World) (path : String) : Except RunError Project := do
  let content ← (w.tree.readText w.cwd path).mapError (.projectRead path)
  (Project.parse content).mapError (.projectParse path)

/-- The project file of a run, with its path: the one that is named, or the one in the working
directory if there is one. -/
def findProject (w : World) (args : Arguments) : Except RunError (Option (String × Project)) :=
  match args.project with
  | some path => return some (path, ← w.loadProject path)
  | none =>
    if w.tree.exists_ w.cwd projectFile then return some (projectFile, ← w.loadProject projectFile)
    else return none

/-- A run that ends early. -/
def abort (w : World) (e : RunError) (log : List LogEvent) : RunReport :=
  { result := .error e, log, tree := w.tree }

/-! ### Standard input -/

/-- Compiles standard input to standard output. -/
def runStdin (w : World) (args : Arguments) (settings : Settings) (log : List LogEvent) : RunReport :=
  match String.fromUTF8? w.stdin with
  | none => w.abort (.stdin .notText) log
  | some source =>
    let base : Summary := { files := 1, failOnDiagnostics := args.failOnDiagnostics }
    let shown (findings : List Finding) : String :=
      if findings.isEmpty then "" else Report.format args.output findings "<stdin>"
    match compile source { settings.options with sourceMap := false } with
    | .error e =>
      { result := .ok { base with failed := 1 }, stderr := shown [.ofError e], log, tree := w.tree }
    | .ok output =>
      if w.stdoutFull && !output.code.isEmpty then w.abort (.stdout .noSpace) log
      else
        let findings := if args.diagnostics then output.diagnostics.map Finding.ofDiagnostic else []
        { result := .ok { base with diagnostics := output.diagnostics.length }
          stdout := output.code, stderr := shown findings, log, tree := w.tree }

/-! ### Files -/

/-- What was printed and counted so far. -/
structure Printed where
  stdout : String := ""
  stderr : String := ""
  /-- Findings that are reported together at the end. -/
  entries : List Json := []
  summary : Summary
deriving Inhabited

/-- What an outcome puts on standard output. -/
def outcomeText (banners : Bool) (o : FileOutcome) : String :=
  match o.code with
  | some code => (if banners then "// " ++ o.path ++ "\n" else "") ++ code
  | none => ""

/-- The findings of an outcome that are reported. -/
def reported (args : Arguments) (o : FileOutcome) : List Finding :=
  o.findings.filter fun f => args.diagnostics || f.isError

/-- Counts and prints an outcome. -/
def printOutcome (args : Arguments) (banners : Bool) (p : Printed) (o : FileOutcome) : Printed :=
  let findings := reported args o
  let summary :=
    { p.summary with
      diagnostics := p.summary.diagnostics + o.diagnostics
      failed := p.summary.failed + if o.failed then 1 else 0 }
  let p := { p with summary, stdout := p.stdout ++ outcomeText banners o }
  if args.output == .json then { p with entries := p.entries ++ Report.entriesJson findings o.path }
  else { p with stderr := p.stderr ++ Report.format args.output findings o.path }

/-- Prints outcomes in order. On a standard output that is full this ends with the first text for it. A text without a
line feed can end later: standard output keeps it back, so that only a later write or the flush at the end fails, and
the findings of its file are told before. The error is the same, the tree is complete in both cases, and of what is told
only the findings before the end are given here. -/
def printAll (args : Arguments) (banners full : Bool) : Printed → List FileOutcome → Printed × Option RunError
  | p, [] => (p, none)
  | p, o :: rest =>
    if full && !(outcomeText banners o).isEmpty then (p, some (.stdout .noSpace))
    else printAll args banners full (printOutcome args banners p o) rest

/-- The end of what goes to standard error. -/
def closing (args : Arguments) (p : Printed) : String :=
  if args.output == .json then Report.jsonText p.entries ++ "\n" else p.summary.text ++ "\n"

/-- Prints the outcomes of all inputs. -/
def report (w : World) (args : Arguments) (tree : FileTree) (outcomes : List FileOutcome)
    (log : List LogEvent) : RunReport :=
  let start : Printed :=
    { summary := { files := outcomes.length, failOnDiagnostics := args.failOnDiagnostics } }
  match printAll args (outcomes.length > 1) w.stdoutFull start outcomes with
  | (p, some e) => { result := .error e, stdout := p.stdout, stderr := p.stderr, log, tree }
  | (p, none) =>
    { result := .ok p.summary, stdout := p.stdout, stderr := p.stderr ++ closing args p, log, tree }

/-- The inputs of a run, checked for collisions, with the log of the search. -/
def plan (w : World) (args : Arguments) (settings : Settings) :
    Except RunError (List Input) × List LogEvent :=
  match ignorePatterns args.ignore with
  | .error e => (.error e, [])
  | .ok ignore =>
    let harvest := collect w.tree w.cwd ignore args.inputs
    let log : List LogEvent :=
      harvest.ignored.map fun path => { level := .debug, message := "ignored", fields := [("path", path)] }
    let inputs := do
      let inputs ← harvest.result
      match settings.outDir with
      | some outDir => checkCollisions outDir inputs
      | none => pure ()
      return inputs
    (inputs, log)

/-- Compiles the inputs of a run, in the order that `schedule` gives for their number. -/
def runFiles (w : World) (args : Arguments) (settings : Settings) (log : List LogEvent)
    (schedule : Nat → List Nat) : RunReport :=
  let log := if settings.options.sourceMap && settings.outDir.isNone then
      log ++ [{ level := .warn, message := "source maps need an output directory; skipping them" }]
    else log
  match w.plan args settings with
  | (.error e, searched) => w.abort e (log ++ searched)
  | (.ok inputs, searched) =>
    let collected : LogEvent :=
      { level := .debug, message := "collected inputs",
        fields := [("count", toString inputs.length), ("module", settings.options.module.name)] }
    let (tree, outcomes) := processAll settings w.cwd inputs (schedule inputs.length) w.tree
    w.report args tree outcomes (log ++ searched ++ [collected] ++ outcomes.flatMap FileOutcome.log)

/-- A run that processes its inputs in the order that `schedule` gives for their number. -/
def runInOrder (w : World) (args : Arguments) (schedule : Nat → List Nat) : RunReport :=
  match w.findProject args with
  | .error e => w.abort e []
  | .ok project =>
    let log : List LogEvent := match project with
      | some (path, _) => [{ level := .debug, message := "using tsconfig", fields := [("path", path)] }]
      | none => []
    match Settings.resolve args project with
    | .error e => w.abort (.projectModule ((project.map (·.1)).getD "") e) log
    | .ok settings =>
      if args.readsStdin then w.runStdin args settings log
      else w.runFiles args settings log schedule

/-- A run that processes its inputs as they come. -/
def run (w : World) (args : Arguments) : RunReport := w.runInOrder args List.range

end World

end Detype
