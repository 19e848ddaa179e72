import Detype.CommandLine.Arguments
import Detype.Json.Render
import Detype.Report.Finding

/-
**Findings as text.**

* `Report.human` — a paragraph a finding.
* `Report.machine` — a line a finding.
* `Report.json` — an array of objects.
* `Report.format` — the text in a chosen format.
-/

namespace Detype.Report

def severityWord : Severity → String
  | .error => "Error"
  | .warning => "Warning"

def severityCode : Severity → String
  | .error => "ERROR"
  | .warning => "WARNING"

/-- The place of a finding for a reader: the path, and line and column if they are known. -/
def heading (path : String) : Option Position → String
  | some p => path ++ s!":{p.line}:{p.column}\n"
  | none => path ++ "\n"

def humanEntry (path : String) (f : Finding) : String :=
  heading path f.start ++ severityWord f.severity ++ ": " ++ f.message ++ "\n\n"

/-- A paragraph a finding. -/
def human (findings : List Finding) (path : String) : String :=
  String.join (findings.map (humanEntry path))

/-- Line and column of the start, zero when it is not known. -/
def startPlace (f : Finding) : Nat × Nat :=
  match f.start with
  | some p => (p.line, p.column)
  | none => (0, 0)

/-- Line and column of the end, those of the start when it is not known. -/
def stopPlace (f : Finding) : Nat × Nat :=
  match f.stop with
  | some p => (p.line, p.column)
  | none => startPlace f

def machineEntry (path : String) (f : Finding) : String :=
  let (line, column) := startPlace f
  let (endLine, endColumn) := stopPlace f
  severityCode f.severity ++ " " ++ path ++ s!":{line}:{column}:{endLine}:{endColumn} " ++ f.message ++ "\n"

/-- A line a finding. -/
def machine (findings : List Finding) (path : String) : String :=
  String.join (findings.map (machineEntry path))

def positionJson (p : Position) : Json :=
  .obj <|
    [("line", .int p.line), ("column", .int p.column)]
      ++ match p.offset with
        | some o => [("offset", .int o)]
        | none => []

def optionalJson : Option Position → Json
  | some p => positionJson p
  | none => .null

/-- A finding as data. -/
def entryJson (path : String) (f : Finding) : Json :=
  .obj
    [("type", .str (severityWord f.severity)), ("filename", .str path), ("start", optionalJson f.start),
     ("end", optionalJson f.stop), ("message", .str f.message)]

def entriesJson (findings : List Finding) (path : String) : List Json := findings.map (entryJson path)

/-- Entries as an array over several lines. -/
def jsonText (entries : List Json) : String := Json.pretty 0 (.arr entries)

/-- An array of objects. -/
def json (findings : List Finding) (path : String) : String := jsonText (entriesJson findings path)

/-- The findings of one file in a chosen format. -/
def format (f : ReportFormat) (findings : List Finding) (path : String) : String :=
  match f with
  | .human => human findings path
  | .json => json findings path
  | .machine => machine findings path

end Detype.Report
