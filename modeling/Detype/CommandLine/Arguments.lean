import Detype.Options

/-
**What a run is told.**

* `Arguments` — the inputs and settings of a run.
* `ReportFormat` — how findings are reported.
-/

namespace Detype

/-- How findings are reported. -/
inductive ReportFormat where
  | human
  | json
  /-- One line a finding. -/
  | machine
deriving DecidableEq, Inhabited, Repr

namespace ReportFormat

def name : ReportFormat → String
  | human => "human"
  | json => "json"
  | machine => "machine"

def all : List ReportFormat := [human, json, machine]

def ofName? (s : String) : Option ReportFormat := all.find? (·.name == s)

end ReportFormat

/-- The inputs and settings of a run. -/
structure Arguments where
  /-- Files and directories. -/
  inputs : List String := []
  outDir : Option String := none
  module : Option ModuleKind := none
  /-- The path of the project file. -/
  project : Option String := none
  sourceMap : Bool := false
  /-- Whether recoverable faults are reported. -/
  diagnostics : Bool := false
  output : ReportFormat := .human
  failOnDiagnostics : Bool := false
  /-- Patterns of files that are not taken from directories. -/
  ignore : List String := []
  /-- Whether details are logged. -/
  verbose : Bool := false
deriving DecidableEq, Inhabited, Repr

/-- Without inputs the source is standard input. -/
def Arguments.readsStdin (a : Arguments) : Bool := a.inputs.isEmpty

end Detype
