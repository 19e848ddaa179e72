import Detype.Run.Invocation

/-
**The command.**

The files that a call may touch are read into a file tree, the call is carried out on the tree, and the
files that differ afterwards are written.

* `Command.snapshot` — the part of the file system that a call may touch.
* `Command.writeBack` — writes the files that a call changed.
* `main` — the command.
-/

namespace Detype.Command

/-- All that is left of a stream. -/
partial def readAll (stream : IO.FS.Stream) (acc : ByteArray) : IO ByteArray := do
  let chunk ← stream.read 65536
  if chunk.isEmpty then return acc else readAll stream (acc ++ chunk)

/-- The location of a path, no links being followed. -/
def locationOf (cwd : Location) (path : String) : Location :=
  FileTree.descend (if Path.isAbsolute path then [] else cwd) (FileTree.segments path)

/-- The path of a location from the root. -/
def pathOf (l : Location) : String := "/" ++ "/".intercalate (l.map Text.utf8Lossy)

/-- Adds a file, or a directory with all that is in it. Links in a directory are left out. -/
partial def load (t : FileTree) (here : Location) : IO FileTree := do
  let path := (← IO.currentDir) / pathOf here
  if !(← path.pathExists) then return t
  if ← path.isDir then
    let t := if here.isEmpty then t else t.put here .directory
    (← path.readDir).foldlM (fun t entry => do
      let kind := (← entry.path.symlinkMetadata).type
      if kind == .symlink then return t
      load t (here ++ [Text.bytesOf entry.fileName])) t
  else return t.put here (.file (← IO.FS.readBinFile path))

/-- Adds a path, if there is something at it: only itself, or also what is below it. -/
def loadPath (cwd : Location) (t : FileTree) (path : String) : IO FileTree := load t (locationOf cwd path)

/-- The part of the file system that a call may touch. -/
def snapshot (cwd : Location) (args : Arguments) : IO FileTree := do
  let root := if cwd.isEmpty then {} else FileTree.put {} cwd .directory
  let project := args.project.getD World.projectFile
  let t ← loadPath cwd root project
  let world : World := { tree := t, cwd }
  let outDir := match world.findProject args with
    | .ok found => (Settings.resolve args found).toOption.bind (·.outDir)
    | .error _ => none
  (args.inputs ++ outDir.toList).foldlM (loadPath cwd) t

/-- Writes the files that a call changed. -/
def writeBack (before after : FileTree) : IO Unit := do
  for (place, content) in FileTree.changedFiles before after [] do
    IO.FS.createDirAll (pathOf place.dropLast)
    IO.FS.writeBinFile (pathOf place) content

/-- What a call finds. -/
def world (argv : List String) : IO World := do
  let cwd := locationOf [] (← IO.currentDir).toString
  match Arguments.parse argv with
  | .error _ => return { tree := {}, cwd }
  | .ok args =>
    let stdin ← if args.readsStdin then readAll (← IO.getStdin) .empty else pure .empty
    return { tree := ← snapshot cwd args, cwd, stdin }

end Detype.Command

open Detype in
def main (argv : List String) : IO UInt32 := do
  let world ← Command.world argv
  let call := world.invoke argv
  Command.writeBack world.tree call.tree
  for event in call.log do IO.eprintln event.text
  IO.print call.stdout
  IO.eprint call.stderr
  return UInt32.ofNat call.exitCode
