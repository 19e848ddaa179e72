import Std.Data.HashMap
import Detype.Printer.Writer
import Detype.Json.Render

/-
**Source maps.**

The places of the output with the positions they come from, as the JSON text of a version 3 source map.

* `Vlq.encode` — a signed number in base 64 digits.
* `SourceMap.mappings` — the differences between neighbouring places.
* `SourceMap.json` — the whole map.
-/

namespace Detype

namespace Vlq

/-- The 64 digits. -/
def digits : Array Char := "ABCDEFGHIJKLMNOPQRSTUVWXYZabcdefghijklmnopqrstuvwxyz0123456789+/".toList.toArray

def digit (n : Nat) : Char := digits.getD n 'A'

/-- A natural number in groups of five bits, the lowest first; all but the last are marked. -/
def groups (n : Nat) : List Char :=
  if n < 32 then [digit n] else digit (n % 32 + 32) :: groups (n / 32)
termination_by n
decreasing_by omega

/-- A signed number: its sign is the lowest bit. -/
def encode (n : Int) : String :=
  String.ofList (groups (if n < 0 then 2 * n.natAbs + 1 else 2 * n.natAbs))

end Vlq

/-- A place of the output with the line and column of the source, both from zero. -/
structure MappedPlace where
  line : Nat
  column : Nat
  sourceLine : Nat
  sourceColumn : Nat
deriving DecidableEq, Inhabited

namespace SourceMap

/-- The line and column, in UTF-16 units, of every position of a source text. -/
def positions (text : String) : Std.HashMap Nat (Nat × Nat) :=
  let step := fun (table, position, line, column) (c : Char) =>
    let table : Std.HashMap Nat (Nat × Nat) := Std.HashMap.insert table position (line, column)
    let position := position + c.utf8Size
    if c == '\n' then (table, position, line + 1, 0) else (table, position, line, column + Writer.units c)
  let (table, position, line, column) := text.foldl step ({}, 1, 0, 0)
  Std.HashMap.insert table position (line, column)

/-- The places of the output whose position is one of the source. -/
def places (table : Std.HashMap Nat (Nat × Nat)) (ms : List Mapping) : List MappedPlace :=
  ms.filterMap fun m =>
    (table[m.position]?).map fun (line, column) =>
      { line := m.line, column := m.column, sourceLine := line, sourceColumn := column }

/-- The text of the places, each as the difference to the one before. -/
def mappings (ps : List MappedPlace) : String :=
  go ps 0 true { line := 0, column := 0, sourceLine := 0, sourceColumn := 0 } none ""
where
  go : List MappedPlace → Nat → Bool → MappedPlace → Option MappedPlace → String → String
    | [], _, _, _, _, acc => acc
    | p :: ps, line, isFirst, last, previous, acc =>
      if previous == some p then go ps line isFirst last previous acc
      else
        let newLines := p.line - line
        let acc := acc ++ String.ofList (List.replicate newLines ';')
        let isFirst := isFirst || newLines > 0
        let column := if newLines > 0 then 0 else last.column
        let acc := if isFirst then acc else acc ++ ","
        let acc := acc ++ Vlq.encode (p.column - column) ++ "A"
          ++ Vlq.encode ((p.sourceLine : Int) - last.sourceLine)
          ++ Vlq.encode ((p.sourceColumn : Int) - last.sourceColumn)
        go ps p.line false p (some p) acc

/-- What the map says about its files. -/
structure Header where
  /-- The name of the output. -/
  file : Option String
  source : String
  /-- The source text, for a source without a name. -/
  content : Option String

/-- The map as text. -/
def json (h : Header) (ps : List MappedPlace) : String :=
  let field (name value : String) := "," ++ Json.literal name ++ ":" ++ value
  let isEmpty := ps.isEmpty
  "\x7b\"version\":3"
    ++ (match h.file with
      | some f => field "file" (Json.literal f)
      | none => "")
    ++ field "sources" (if isEmpty then "[]" else "[" ++ Json.literal h.source ++ "]")
    ++ (match h.content with
      | some c => if isEmpty then "" else field "sourcesContent" ("[" ++ Json.literal c ++ "]")
      | none => "")
    ++ field "names" "[]" ++ field "mappings" (Json.literal (mappings ps))
    ++ (if h.content.isSome && !isEmpty then field "ignoreList" "[0]" else "") ++ "\x7d"

end SourceMap

end Detype
