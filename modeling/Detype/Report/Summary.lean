/-
**The outcome of a run in numbers.**

* `Summary` — how many files, failures and diagnostics there were.
* `Summary.isFailure` — whether the run counts as failed.
-/

namespace Detype

/-- How a run went. -/
structure Summary where
  files : Nat := 0
  /-- Files without output. -/
  failed : Nat := 0
  /-- Recoverable faults. -/
  diagnostics : Nat := 0
  failOnDiagnostics : Bool := false
deriving DecidableEq, Inhabited, Repr

namespace Summary

def isFailure (s : Summary) : Bool := s.failed > 0 || (s.failOnDiagnostics && s.diagnostics > 0)

/-- A number with a noun. -/
def counted (n : Nat) (noun : String) : String := toString n ++ " " ++ noun ++ if n == 1 then "" else "s"

def text (s : Summary) : String :=
  "ts-transpile processed " ++ counted s.files "file" ++ ": " ++ toString s.failed ++ " failed, "
    ++ counted s.diagnostics "diagnostic"

end Summary

end Detype
