import Detype.Text.IdentChar

/-
**Names made from the paths of modules.**

* `isName` — whether a text can be used as a variable name anywhere.
* `localName` — the variable that holds a module inside the code.
* `globalName` — the global variable that a browser script leaves a module in.
* `ownGlobalName` — the same for the file that is being compiled.
-/

namespace Detype.Modules

open Text

/-- Words that cannot be names of variables in some code. -/
def reservedNames : List String :=
  ["break", "case", "catch", "class", "const", "continue", "debugger", "default", "delete", "do", "else",
   "enum", "export", "extends", "false", "finally", "for", "function", "if", "import", "in", "instanceof",
   "new", "null", "package", "return", "super", "switch", "this", "throw", "true", "try", "typeof", "var",
   "void", "while", "with", "implements", "interface", "let", "private", "protected", "public", "static",
   "yield", "await", "eval", "arguments"]

/-- Whether a text is spelled like a name, reserved or not. -/
def isPropertyName (s : String) : Bool :=
  match s.toList with
  | [] => false
  | c :: cs => isIdentStart c && cs.all isIdentPart

/-- Whether a text can be used as a variable name anywhere. -/
def isName (s : String) : Bool := isPropertyName s && !reservedNames.contains s

/-- The characters of a text that a name can have; what comes before the first letter may be a digit. -/
def nameChars (s : String) : String := String.ofList (s.toList.filter isIdentPart)

/-- A name close to a text. -/
def toName (s : String) : String :=
  if reservedNames.contains s then "_" ++ s
  else if isPropertyName s then s
  else
    let kept := nameChars s
    let kept := if kept.isEmpty then "_" else kept
    if reservedNames.contains kept then "_" ++ kept else kept

/-- A text without one ending, if it has it. -/
def withoutEnding (ending s : String) : String :=
  if s.endsWith ending then String.ofList (s.toList.take (s.length - ending.length)) else s

/-- What follows the last slash of a path. -/
def lastSegment (path : String) : String := String.ofList (path.toList.reverse.takeWhile (· != '/')).reverse

/-- The variable that holds a module inside the code. -/
def localName (path : String) : String :=
  let name := toName (withoutEnding ".mjs" (withoutEnding ".js" (lastSegment path)))
  if name.startsWith "_" then name else "_" ++ name

/-! ### Camel case -/

/-- Letters and digits. -/
def isAlphanumeric (c : Char) : Bool :=
  isIdentPart c && c != '_' && c != '$' && c.toNat != 0x200C && c.toNat != 0x200D

/-- Small letters: ASCII, Latin, Greek and Cyrillic. -/
def isSmall (c : Char) : Bool :=
  let n := c.toNat
  c.isLower || (0xDF ≤ n && n ≤ 0xFF && n != 0xF7) || (0x100 ≤ n && n ≤ 0x137 && n % 2 == 1) ||
    (0x3AC ≤ n && n ≤ 0x3CE) || (0x430 ≤ n && n ≤ 0x45F)

/-- What a text has to offer while its words are joined. -/
structure Words where
  result : List Char := []
  startsWord : Bool := false
  afterSmall : Bool := false

def Words.add (w : Words) (c : Char) : Words :=
  if !isAlphanumeric c then if w.result.isEmpty then w else { w with startsWord := true }
  else if c.isDigit then { w with result := c :: w.result, startsWord := true }
  else if w.startsWord || (w.afterSmall && c.isUpper) then
    { w with result := c.toUpper :: w.result, startsWord := false }
  else { w with result := c.toLower :: w.result, afterSmall := isSmall c }

/-- The words of a text joined, each but the first with a capital. -/
def camelCase (s : String) : String :=
  let trimmed := (s.toList.reverse.dropWhile (!isAlphanumeric ·)).reverse
  String.ofList (trimmed.foldl Words.add {}).result.reverse

/-! ### Global names -/

/-- The global variable that a browser script leaves a module in. -/
def globalName (path : String) : String := camelCase (lastSegment path)

/-- The parts of a path that are names, in order; one dot alone counts only at the start. -/
def pathParts (path : String) : List String :=
  (path.splitOn "/").zipIdx.filterMap fun (part, i) =>
    if part.isEmpty || (part == "." && i != 0) then none else some part

/-- The name of the file that a path leads to, without its extension. -/
def fileStem? (path : String) : Option String :=
  match (pathParts path).getLast? with
  | none | some "." | some ".." => none
  | some name =>
    let cs := name.toList
    let extension := cs.reverse.takeWhile (· != '.')
    let stem := cs.take (cs.length - extension.length - 1)
    if cs.contains '.' && !stem.isEmpty then some (String.ofList stem) else some name

/-- The global variable for the file that is being compiled. -/
def ownGlobalName : Option String → String
  | none => "anonymous"
  | some path => globalName ((fileStem? path).getD path)

end Detype.Modules
