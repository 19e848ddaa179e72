import Detype.Files.Locate

/-
**Reading and writing files.**

Each operation takes the working directory and a path. A write gives the tree after it.

* `FileTree.readText` — the text of a file.
* `FileTree.writeFile` — puts bytes into a file, which is made if it is not there.
* `FileTree.makeDirectory`, `FileTree.makeDirectories` — makes a directory, and those above it.
-/

namespace Detype.FileTree

/-- The text of a file. -/
def readText (t : FileTree) (cwd : Location) (path : String) : Except FileError String := do
  match ← t.locate cwd path with
  | .vacant .. => throw .notFound
  | .found _ .directory => throw .isDirectory
  | .found _ (.link _) => throw .tooManyLinks
  | .found _ (.file content) =>
    match String.fromUTF8? content with
    | some text => return text
    | none => throw .notText

/-- Puts bytes into a file. -/
def writeFile (t : FileTree) (cwd : Location) (path : String) (content : ByteArray) :
    Except FileError FileTree := do
  match ← t.locate cwd path with
  | .found _ .directory => throw .isDirectory
  | .found _ (.link _) => throw .tooManyLinks
  | .found place (.file _) => return t.set place (.file content)
  | .vacant place asDirectory =>
    if asDirectory then throw .isDirectory else return t.set place (.file content)

/-- Makes a directory in a directory that is there. -/
def makeDirectory (t : FileTree) (cwd : Location) (path : String) : Except FileError FileTree := do
  match ← t.locate cwd path false with
  | .found .. => throw .alreadyExists
  | .vacant place _ => return t.set place .directory

/-- Makes a directory, given with the paths above it, nearest first. It may be there already. The tree
is given also when the last step fails. -/
def makeChain (t : FileTree) (cwd : Location) : List String → FileTree × Except FileError Unit
  | [] => (t, .ok ())
  | path :: above =>
    if path.isEmpty then (t, .ok ())
    else
      match t.makeDirectory cwd path with
      | .ok t => (t, .ok ())
      | .error .notFound =>
        match t.makeChain cwd above with
        | (t, .error e) => (t, .error e)
        | (t, .ok ()) =>
          match t.makeDirectory cwd path with
          | .ok t => (t, .ok ())
          | .error e => if t.isDirectory cwd path then (t, .ok ()) else (t, .error e)
      | .error e => if t.isDirectory cwd path then (t, .ok ()) else (t, .error e)

/-- Makes a directory and those above it, as far as they are not there. -/
def makeDirectories (t : FileTree) (cwd : Location) (path : String) : FileTree × Except FileError Unit :=
  t.makeChain cwd (Path.ancestors path)

end Detype.FileTree
