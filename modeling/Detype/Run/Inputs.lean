import Detype.Files.Locate
import Detype.Glob.Match
import Detype.OutputName
import Detype.Run.Failure
import Detype.Run.Log

/-
**The inputs of a run.**

Files are taken as they are given. Of a directory, the source files below it are taken that no ignore
pattern matches; a pattern is matched against the path from that directory on.

* `isSourceFile` — whether a name is that of a source file; declaration files are none.
* `ignorePatterns` — the patterns of the arguments and the one that always holds.
* `collect` — the inputs for a list of paths.
* `checkCollisions` — refuses inputs that would be written to one file.
-/

namespace Detype

/-- A source file of a run. -/
structure Input where
  /-- The path by which the file is read. -/
  path : String
  /-- The path below the output directory, before its extension is changed. -/
  relative : String
deriving DecidableEq, Inhabited, Repr

/-- Endings of source files. -/
def sourceEndings : List String := [".ts", ".tsx", ".mts", ".cts"]

/-- Endings of files that only declare types. -/
def declarationEndings : List String := [".d.ts", ".d.mts", ".d.cts"]

/-- Whether a text ends in another. -/
def endsIn (text ending : String) : Bool := ending.toList.isSuffixOf text.toList

/-- Whether a name is that of a source file. -/
def isSourceFile (name : String) : Bool :=
  sourceEndings.any (endsIn name) && !declarationEndings.any (endsIn name)

/-- The pattern that always holds. -/
def alwaysIgnored : String := "**/node_modules/**"

/-- The patterns of files that are not taken from directories. -/
def ignorePatterns (patterns : List String) : Except RunError Glob.Patterns :=
  (patterns ++ [alwaysIgnored]).mapM fun p => (Glob.parse p).mapError (.invalidGlob p)

/-- What the paths of a run lead to: the inputs, the paths that were ignored, and why the search ended
early, if it did. -/
structure Harvest where
  inputs : List Input := []
  ignored : List String := []
  failure : Option RunError := none
deriving Inhabited

namespace Harvest

def fail (e : RunError) : Harvest := { failure := some e }

/-- The finds of one search and then those of another, which does not begin if the first failed. -/
def andThen (a b : Harvest) : Harvest :=
  if a.failure.isSome then a
  else { inputs := a.inputs ++ b.inputs, ignored := a.ignored ++ b.ignored, failure := b.failure }

def result (h : Harvest) : Except RunError (List Input) :=
  match h.failure with
  | some e => .error e
  | none => .ok h.inputs

end Harvest

/-- What a regular file below a directory contributes, given the names that lead to it. -/
def harvestFile (ignore : Glob.Patterns) (root : String) (names : Location) : Harvest :=
  match names.mapM Text.textOf? with
  | none => .fail (.nonUtf8Path ((names.map Text.utf8Lossy).foldl Path.join root))
  | some texts =>
    let path := texts.foldl Path.join root
    let relative := (Path.stripPrefix? root path).getD path
    if !isSourceFile (texts.getLast?.getD "") then {}
    else if ignore.matches relative then { ignored := [path] }
    else { inputs := [{ path, relative }] }

/-- What a path of the arguments contributes. -/
def harvestPath (t : FileTree) (cwd : Location) (ignore : Glob.Patterns) (path : String) : Harvest :=
  match t.entryAt? cwd path with
  | some (_, .file _) => { inputs := [{ path, relative := (Path.fileName? path).getD path }] }
  | some (place, .directory) =>
    (t.filesBelow place).foldl (fun h names => h.andThen (harvestFile ignore path names)) {}
  | _ => .fail (.inputNotFound path)

/-- The inputs for a list of paths, in order. -/
def collect (t : FileTree) (cwd : Location) (ignore : Glob.Patterns) (paths : List String) : Harvest :=
  paths.foldl (fun h path => h.andThen (harvestPath t cwd ignore path)) {}

/-- Where the code of an input goes. -/
def Input.destination (i : Input) (outDir : String) : String :=
  Path.join outDir (outputFileName i.relative)

/-- Refuses the first input whose code would go where that of an earlier one goes. -/
def checkCollisions (outDir : String) (inputs : List Input) : Except RunError Unit := go [] inputs
where
  go (earlier : List Input) : List Input → Except RunError Unit
    | [] => .ok ()
    | i :: rest =>
      let output := i.destination outDir
      match earlier.find? fun e => Path.components (e.destination outDir) == Path.components output with
      | some first => .error (.duplicateOutput output first.path i.path)
      | none => go (earlier ++ [i]) rest

end Detype
