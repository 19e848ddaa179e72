/-
**Why a compilation fails.**

* `CompileError` — the cause.
* `CompileError.message` — its wording.
-/

namespace Detype

/-- Why a compilation fails. Only `parse` depends on the source text. -/
inductive CompileError where
  | parse (message : String) (line column : Nat)
  | emit (cause : String)
  | utf8 (cause : String)
  | sourceMap (cause : String)
deriving DecidableEq, Inhabited, Repr

namespace CompileError

def message : CompileError → String
  | parse message line column => s!"{line}:{column}: " ++ message
  | emit cause => "failed to emit code: " ++ cause
  | utf8 cause => "emitted code is not valid UTF-8: " ++ cause
  | sourceMap cause => "failed to serialize source map: " ++ cause

/-- The line and column that are at fault. -/
def location : CompileError → Option (Nat × Nat)
  | parse _ line column => some (line, column)
  | _ => none

end CompileError

end Detype
