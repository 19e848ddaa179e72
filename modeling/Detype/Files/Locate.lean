import Detype.Files.Tree
import Detype.Path
import Detype.Text.Utf8

/-
**Finding the place of a path.**

* `FileError` — why an operation on files fails, with its wording.
* `FileTree.locate` — the place that a path leads to from a directory. Links are followed, at most
  `linkLimit` of them.
* `Target` — what is found there: an entry, or a free place in a directory.
-/

namespace Detype

/-- Why an operation on files fails. -/
inductive FileError where
  | notFound
  | alreadyExists
  | notDirectory
  | isDirectory
  | noSpace
  | nameTooLong
  | tooManyLinks
  | nulInName
  | notText
deriving DecidableEq, Inhabited, Repr

def FileError.message : FileError → String
  | notFound => "No such file or directory (os error 2)"
  | alreadyExists => "File exists (os error 17)"
  | notDirectory => "Not a directory (os error 20)"
  | isDirectory => "Is a directory (os error 21)"
  | noSpace => "No space left on device (os error 28)"
  | nameTooLong => "File name too long (os error 36)"
  | tooManyLinks => "Too many levels of symbolic links (os error 40)"
  | nulInName => "file name contained an unexpected NUL byte"
  | notText => "stream did not contain valid UTF-8"

/-- What a path leads to. -/
inductive Target where
  | found (place : Location) (entry : Entry)
  /-- A place in a directory where nothing stands; `asDirectory` if the path ends in a slash. -/
  | vacant (place : Location) (asDirectory : Bool)
deriving Inhabited

namespace FileTree

/-- The pieces of a path between slashes, as names. -/
def segments (path : String) : List FileName :=
  (Path.pieces path.toList).map fun p => Text.bytesOf (String.ofList p)

/-- `.`, as a name. -/
def dot : FileName := [46]

/-- `..`, as a name. -/
def dotDot : FileName := [46, 46]

/-- A byte string cut at its slashes. -/
def splitSlashes : List UInt8 → List FileName
  | [] => [[]]
  | b :: bs =>
    if b = 47 then [] :: splitSlashes bs
    else
      match splitSlashes bs with
      | [] => [[b]]
      | n :: ns => (b :: n) :: ns

/-- The location below another that names lead to, no links being followed. -/
def descend (here : Location) (names : List FileName) : Location :=
  names.foldl (fun here n =>
    if n = [] ∨ n = dot then here else if n = dotDot then here.dropLast else here ++ [n]) here

/-- How many links a path may lead through. -/
def linkLimit : Nat := 40

/-- Follows names from a directory, given what follows a link. A link at the end is followed only if
`followLast` says so. -/
def followBy (t : FileTree) (followLast : Bool)
    (jump : Location → List FileName → Except FileError Target) :
    Location → List FileName → Except FileError Target
  | here, [] => .ok (.found here .directory)
  | here, n :: rest =>
    if n = [] ∨ n = dot then t.followBy followLast jump here rest
    else if n = dotDot then t.followBy followLast jump here.dropLast rest
    else if n.length > 255 then .error .nameTooLong
    else
      let there := here ++ [n]
      match t.get? there with
      | none =>
        if rest.all List.isEmpty then .ok (.vacant there (!rest.isEmpty)) else .error .notFound
      | some .directory => t.followBy followLast jump there rest
      | some (.file content) =>
        if rest.isEmpty then .ok (.found there (.file content)) else .error .notDirectory
      | some (.link target) =>
        if rest.isEmpty && !followLast then .ok (.found there (.link target))
        else jump (if Path.isAbsolute target then [] else here) (segments target ++ rest)

/-- Follows names from a directory through at most so many links. -/
def follow (t : FileTree) (followLast : Bool) :
    (links : Nat) → Location → List FileName → Except FileError Target
  | 0 => t.followBy followLast fun _ _ => .error .tooManyLinks
  | links + 1 => t.followBy followLast (t.follow followLast links)

/-- Where a path leads from a directory. -/
def locate (t : FileTree) (cwd : Location) (path : String) (followLast : Bool := true) :
    Except FileError Target :=
  if path.isEmpty then .error .notFound
  else if path.toList.contains (Char.ofNat 0) then .error .nulInName
  else if path.utf8ByteSize ≥ 4096 then .error .nameTooLong
  else t.follow followLast linkLimit (if Path.isAbsolute path then [] else cwd) (segments path)

/-- What stands at a path, links followed. -/
def entryAt? (t : FileTree) (cwd : Location) (path : String) : Option (Location × Entry) :=
  match t.locate cwd path with
  | .ok (.found place entry) => some (place, entry)
  | _ => none

def isDirectory (t : FileTree) (cwd : Location) (path : String) : Bool :=
  match t.entryAt? cwd path with
  | some (_, .directory) => true
  | _ => false

def exists_ (t : FileTree) (cwd : Location) (path : String) : Bool := (t.entryAt? cwd path).isSome

end FileTree

end Detype
