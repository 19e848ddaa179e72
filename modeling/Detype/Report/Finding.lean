import Detype.Diagnostic
import Detype.Error

/-
**Findings.**

* `Finding` — a problem of one file, with its place if that is known.
* `Finding.ofDiagnostic`, `Finding.ofError`, `Finding.ofMessage` — where findings come from.
-/

namespace Detype

/-- How serious a problem is. -/
inductive Severity where
  /-- The file has no output. -/
  | error
  /-- The file has output all the same. -/
  | warning
deriving DecidableEq, Inhabited, Repr

/-- A place in a source: line and column from one, and the byte offset if it is known. -/
structure Position where
  line : Nat
  column : Nat
  offset : Option Nat := none
deriving DecidableEq, Inhabited, Repr

/-- A problem of one file. -/
structure Finding where
  severity : Severity
  message : String
  start : Option Position := none
  stop : Option Position := none
deriving DecidableEq, Inhabited, Repr

namespace Finding

def ofDiagnostic (d : Diagnostic) : Finding :=
  { severity := .warning
    message := d.message
    start := some ⟨d.line, d.column, some d.start⟩
    stop := some ⟨d.endLine, d.endColumn, some d.stop⟩ }

/-- A failure without a place. -/
def ofMessage (message : String) : Finding := { severity := .error, message }

def ofError : CompileError → Finding
  | .parse message line column => { severity := .error, message, start := some ⟨line, column, none⟩ }
  | e => ofMessage e.message

def isError (f : Finding) : Bool := f.severity == .error

end Finding

end Detype
