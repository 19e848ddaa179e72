import Detype.CommandLine.Arguments
import Detype.Path
import Detype.Project

/-
**Settings of a run.**

What the arguments say wins over what the project file says, and that over the defaults.

* `Settings.resolve` — the settings of a run.
* `Settings.optionsFor` — the options for one file.
-/

namespace Detype

/-- What holds for all files of a run. -/
structure Settings where
  options : Options := {}
  /-- Where output files go; without it code goes to standard output. -/
  outDir : Option String := none
deriving DecidableEq, Inhabited, Repr

namespace Settings

/-- The settings that a project file asks for. -/
def ofProject (path : String) (project : Project) : Except UnknownModuleKind Settings := do
  let o := project.compilerOptions
  let kind ← project.moduleKind
  return {
    options := {
      module := kind.getD .commonJs
      sourceMap := o.sourceMap.getD false
      importInterop := if o.esModuleInterop == some false then .none else .wrapped
      experimentalDecorators := o.experimentalDecorators.getD false }
    outDir := o.outDir.map (Path.join ((Path.parent? path).getD "")) }

/-- The settings with those of the arguments put over them. -/
def override (s : Settings) (args : Arguments) : Settings :=
  { options := {
      s.options with
      module := args.module.getD s.options.module
      sourceMap := args.sourceMap || s.options.sourceMap }
    outDir := args.outDir.or s.outDir }

/-- The settings of a run with an optional project file, given with its path. -/
def resolve (args : Arguments) (project : Option (String × Project)) :
    Except UnknownModuleKind Settings := do
  let base ← match project with
    | some (path, project) => ofProject path project
    | none => pure {}
  return base.override args

/-- The options for a file. There are source maps only beside output files. -/
def optionsFor (s : Settings) (path : String) : Options :=
  let o := s.options.withFileName ((Path.fileName? path).getD path)
  if s.outDir.isSome then o else { o with sourceMap := false }

end Settings

end Detype
