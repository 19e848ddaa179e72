import Detype.Files.Locate
import Detype.Glob.Pattern
import Detype.Project

/-
**Why a run is given up.**

* `RunError` — the cause.
* `RunError.message` — its wording.
* `RunError.cause?` — what lies behind it, if that is an error of its own.
-/

namespace Detype

/-- Why a run is given up as a whole. -/
inductive RunError where
  | invalidGlob (pattern : String) (fault : Glob.Fault)
  | inputNotFound (path : String)
  | nonUtf8Path (shown : String)
  | duplicateOutput (output first second : String)
  | stdin (error : FileError)
  | stdout (error : FileError)
  | projectRead (path : String) (error : FileError)
  | projectParse (path message : String)
  | projectModule (path : String) (error : UnknownModuleKind)
deriving DecidableEq, Inhabited

namespace RunError

/-- What lies behind an error. -/
def cause? : RunError → Option String
  | stdin e | stdout e | projectRead _ e => some e.message
  | projectParse _ message => some message
  | projectModule _ e => some e.message
  | _ => none

def message : RunError → String
  | invalidGlob pattern fault =>
    "invalid glob pattern: error parsing glob '" ++ pattern ++ "': " ++ fault.message
  | inputNotFound path => "input not found: " ++ path
  | nonUtf8Path shown => "path is not valid UTF-8: " ++ shown
  | duplicateOutput output first second =>
    first ++ " and " ++ second ++ " would both be written to " ++ output
  | stdin e => "failed to read stdin: " ++ e.message
  | stdout e => "failed to write output: " ++ e.message
  | projectRead path e => "failed to read " ++ path ++ ": " ++ e.message
  | projectParse path message => "failed to parse " ++ path ++ ": " ++ message
  | projectModule path e => path ++ ": " ++ e.message

end RunError

end Detype
