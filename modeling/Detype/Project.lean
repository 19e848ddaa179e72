import Detype.Json.Reader
import Detype.Json.Commented
import Detype.Options

/-
**Project files.**

A project file is JSON with comments that can set some of the options for all files of a run.

* `ProjectOptions` — what a project file can set; each may be left out.
* `Project.parse` — reads a project file.
* `Project.moduleKind` — the module convention it names.
-/

namespace Detype

/-- The options that a project file can set. -/
structure ProjectOptions where
  /-- The name of a module convention, as written. -/
  module : Option String := none
  sourceMap : Option Bool := none
  /-- Where output goes, relative to the project file. -/
  outDir : Option String := none
  esModuleInterop : Option Bool := none
  experimentalDecorators : Option Bool := none
deriving DecidableEq, Inhabited, Repr

/-- A project file. -/
structure Project where
  compilerOptions : ProjectOptions := {}
deriving DecidableEq, Inhabited, Repr

/-- A name that no module convention has. -/
structure UnknownModuleKind where
  name : String
deriving DecidableEq, Inhabited, Repr

def UnknownModuleKind.message (e : UnknownModuleKind) : String := ModuleKind.unknownNameMessage e.name

namespace ProjectOptions

open Json Json.Reader

/-- The options and the names that were set so far. -/
abbrev Progress := ProjectOptions × List String

/-- Sets an option from what follows its name. A name may be used once; unknown names are skipped. -/
def readField : Progress → String → Reader Progress
  | (o, seen), name => do
    let once : Reader Unit := do
      if seen.contains name then failInObject (.shape (.duplicateField name))
      colon
    let o ← match name with
      | "module" => do once; pure { o with module := ← optional string }
      | "sourceMap" => do once; pure { o with sourceMap := ← optional boolean }
      | "outDir" => do once; pure { o with outDir := ← optional string }
      | "esModuleInterop" => do once; pure { o with esModuleInterop := ← optional boolean }
      | "experimentalDecorators" => do once; pure { o with experimentalDecorators := ← optional boolean }
      | _ => do colon; ignored; pure o
    return (o, name :: seen)

/-- An element of the options as an array; all five have to be there. -/
def readElement {α : Type} (index : Nat) (value : Reader α) : Reader (Option α) := do
  if ← nextElement (index == 0) then optional value
  else failInList (.shape (.invalidLength index "struct CompilerOptions with 5 elements"))

/-- The options as an object, or as an array of all of them in order. -/
def read : Reader ProjectOptions := do
  match ← valueStart with
  | '{' => return (← fields readField ({}, [])).1
  | '[' =>
    skip
    let module ← readElement 0 string
    let sourceMap ← readElement 1 boolean
    let outDir ← readElement 2 string
    let esModuleInterop ← readElement 3 boolean
    let experimentalDecorators ← readElement 4 boolean
    endList
    return { module, sourceMap, outDir, esModuleInterop, experimentalDecorators }
  | _ => unexpected "struct CompilerOptions"

end ProjectOptions

namespace Project

open Json Json.Reader

/-- Sets a member of a project file from what follows its name. -/
def readField : Project × Bool → String → Reader (Project × Bool)
  | (p, seen), "compilerOptions" => do
    if seen then failInObject (.shape (.duplicateField "compilerOptions"))
    colon
    return ({ p with compilerOptions := ← ProjectOptions.read }, true)
  | s, _ => do
    colon
    ignored
    return s

/-- A project file as an object, or as an array of its one member. -/
def read : Reader Project := do
  match ← valueStart with
  | '{' => return (← fields readField ({}, false)).1
  | '[' =>
    skip
    let compilerOptions ← if ← nextElement true then ProjectOptions.read else pure {}
    endList
    return { compilerOptions }
  | _ => unexpected "struct TsConfig"

/-- Reads the text of a project file. A failure has its place in the text without comments. -/
def parse (content : String) : Except String Project :=
  let plain := Commented.plain content
  (read.run plain).mapError (·.message plain)

/-- The module convention that a project file names. -/
def moduleKind (p : Project) : Except UnknownModuleKind (Option ModuleKind) :=
  match p.compilerOptions.module with
  | none => .ok none
  | some name =>
    match ModuleKind.ofConfigName? name with
    | some kind => .ok (some kind)
    | none => .error ⟨name⟩

end Project

end Detype
