/-
**Paths as text.**

A path is a text whose names are separated by slashes. Empty names and `.` are skipped, except that a
leading `.` counts. Nothing here looks at files.

* `Path.join` — a path below another; an absolute one replaces it.
* `Path.parent?`, `Path.ancestors` — the paths above.
* `Path.fileName?` — the last name.
* `Path.components` — what two spellings of one path have in common.
* `Path.stripPrefix?` — a path behind another one that it starts with.
-/

namespace Detype.Path

/-- The pieces of a text between its slashes. -/
def pieces : List Char → List (List Char)
  | [] => [[]]
  | c :: cs =>
    if c = '/' then [] :: pieces cs
    else
      match pieces cs with
      | [] => [[c]]
      | p :: ps => (c :: p) :: ps

/-- Pieces with slashes between them. -/
def joinPieces : List (List Char) → List Char
  | [] => []
  | [p] => p
  | p :: ps => p ++ '/' :: joinPieces ps

/-- A piece that names nothing. -/
def isTrivial (p : List Char) : Bool := p.isEmpty || p == ['.']

/-- A path as what it starts from (`/`, `.` or nothing) and the pieces after that. -/
def split (path : String) : List Char × List (List Char) :=
  match pieces path.toList with
  | [] :: p :: ps => (['/'], p :: ps)
  | ['.'] :: [] => (['.'], [])
  | ['.'] :: ps => (['.'], [] :: ps)
  | ps => ([], ps)

/-- Pieces without those at the end that name nothing. -/
def trimEnd (ps : List (List Char)) : List (List Char) := (ps.reverse.dropWhile isTrivial).reverse

/-- The last name of a path; none if the path ends in `..` or has no name. -/
def fileName? (path : String) : Option String :=
  match (trimEnd (split path).2).getLast? with
  | some ['.', '.'] => none
  | some p => some (String.ofList p)
  | none => none

/-- The path without its last name. -/
def parent? (path : String) : Option String :=
  let (lead, body) := split path
  match trimEnd body with
  | [] => if lead == ['.'] then some "" else none
  | ps => some (String.ofList (lead ++ joinPieces (trimEnd ps.dropLast)))

/-- A path and the paths above it, nearest first, as far as the fuel goes. -/
def ancestorsWithin : (fuel : Nat) → String → List String
  | 0, path => [path]
  | fuel + 1, path =>
    path ::
      match parent? path with
      | some p => ancestorsWithin fuel p
      | none => []

/-- A path and the paths above it, nearest first. -/
def ancestors (path : String) : List String := ancestorsWithin path.length path

def isAbsolute (path : String) : Bool := path.toList.head? == some '/'

/-- A path below a base. -/
def join (base path : String) : String :=
  if isAbsolute path || base.isEmpty then path
  else if base.toList.getLast? == some '/' then base ++ path
  else base ++ "/" ++ path

/-- The parts of a path that matter: what it starts from and its names. -/
def components (path : String) : List Char × List (List Char) :=
  let (lead, body) := split path
  (lead, body.filter (!isTrivial ·))

/-- Pieces behind some names, if the pieces that name something start with these. -/
def behind : List (List Char) → List (List Char) → Option (List (List Char))
  | [], ps => some ps
  | n :: ns, ps =>
    match ps.dropWhile isTrivial with
    | p :: rest => if p = n then behind ns rest else none
    | [] => none

/-- What is left of a path behind a base that its components start with. -/
def stripPrefix? (base path : String) : Option String :=
  let (lead, body) := split path
  let (baseLead, baseNames) := components base
  if baseLead = lead then
    (behind baseNames body).map fun ps => String.ofList (joinPieces (trimEnd (ps.dropWhile isTrivial)))
  else if baseLead = [] ∧ baseNames = [] then some (String.ofList (lead ++ joinPieces (trimEnd body)))
  else none

end Detype.Path
