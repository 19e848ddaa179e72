import Detype.Proofs.Run.JsonReport

/-
**Findings as data.**

The report of findings as data is JSON text from which they are read back: the path, how serious each of them is, what
it says, and its places, as far as they are known.

* `Json.field`, `Json.asNat`, `Json.asNullable`, `Json.asOptional` — parts of a record.
* `Report.positionOf`, `Report.findingOf`, `Report.findingsOf` — places and findings from data.
* `Report.findingOf_entryJson` — a finding is read back from its object.
* `Report.format_json_readBack` — findings are read back from their report.
-/

namespace Detype

/-! ### Records -/

namespace Json

/-- What an object has under a name. -/
def field (name : String) : Json → Except DecodeError Json
  | obj entries =>
    match entries.lookup name with
    | some j => .ok j
    | none => .error (.missingField name)
  | j => .error (.invalidType j.found "map")

def asNat : Json → Except DecodeError Nat
  | int (.ofNat n) => .ok n
  | j => .error (.invalidType j.found "a natural number")

/-- A value, or nothing for `null`. -/
def asNullable {α : Type} (value : Json → Except DecodeError α) : Json → Except DecodeError (Option α)
  | null => .ok none
  | j => (value j).map some

/-- What an object has under a name that may be missing. -/
def asOptional {α : Type} (value : Json → Except DecodeError α) (name : String) : Json → Except DecodeError (Option α)
  | obj entries =>
    match entries.lookup name with
    | some j => (value j).map some
    | none => .ok none
  | j => .error (.invalidType j.found "map")

end Json

namespace Report

/-! ### Findings from data -/

def severityOf (j : Json) : Except DecodeError Severity :=
  j.asVariant ["Error", "Warning"] fun
    | "Error" => some .error
    | "Warning" => some .warning
    | _ => none

/-- A place: its offset may be missing. -/
def positionOf (j : Json) : Except DecodeError Position := do
  let line ← (← j.field "line").asNat
  let column ← (← j.field "column").asNat
  let offset ← j.asOptional Json.asNat "offset"
  return { line, column, offset }

/-- A finding with the path of its file. -/
def findingOf (j : Json) : Except DecodeError (String × Finding) := do
  let severity ← severityOf (← j.field "type")
  let path ← (← j.field "filename").asString
  let start ← (← j.field "start").asNullable positionOf
  let stop ← (← j.field "end").asNullable positionOf
  let message ← (← j.field "message").asString
  return (path, { severity, message, start, stop })

/-- The findings of an array, each with the path of its file. -/
def findingsOf : Json → Except DecodeError (List (String × Finding))
  | .arr items => items.mapM findingOf
  | j => .error (.invalidType j.found "a sequence")

/-! ### Reading findings back -/

theorem severityOf_word (severity : Severity) : severityOf (.str (severityWord severity)) = .ok severity := by
  cases severity <;> rfl

theorem positionOf_positionJson (p : Position) : positionOf (positionJson p) = .ok p := by
  obtain ⟨line, column, offset⟩ := p
  cases offset <;> rfl

/-- A place that is not known is `null`, and no place is. -/
theorem asNullable_optionalJson (p : Option Position) : (optionalJson p).asNullable positionOf = .ok p := by
  cases p with
  | none => rfl
  | some p =>
    show (positionOf (positionJson p)).map some = .ok (some p)
    rw [positionOf_positionJson]
    rfl

/-- **A finding is read back from its object.** -/
theorem findingOf_entryJson (path : String) (f : Finding) : findingOf (entryJson path f) = .ok (path, f) := by
  show (severityOf (.str (severityWord f.severity)) >>= fun severity =>
    (optionalJson f.start).asNullable positionOf >>= fun start =>
      (optionalJson f.stop).asNullable positionOf >>= fun stop =>
        Except.ok (path, ({ severity, message := f.message, start, stop } : Finding))) = _
  rw [severityOf_word, asNullable_optionalJson, asNullable_optionalJson]
  rfl

theorem findingsOf_entriesJson (findings : List Finding) (path : String) :
    findingsOf (.arr (entriesJson findings path)) = .ok (findings.map fun f => (path, f)) := by
  show (findings.map (entryJson path)).mapM findingOf = _
  induction findings with
  | nil => rfl
  | cons f findings ih =>
    rw [List.map_cons, List.mapM_cons, findingOf_entryJson, ih]
    rfl

/-- **Findings are read back from their report as data.** The report is JSON text, and what it says is one array, from
which the findings are read: as many as there are, in their order, with their path, and each as it was. -/
theorem format_json_readBack (findings : List Finding) (path : String) :
    ∃ items, (∀ j, Json.Tells (format .json findings path) j ↔ j = .arr items) ∧
      findingsOf (.arr items) = .ok (findings.map fun f => (path, f)) := by
  have entries : entriesOf (findings.map fun f => (path, f)) = entriesJson findings path := List.map_map
  have tells := tells_jsonText (findings.map fun f => (path, f))
  rw [entries] at tells
  refine ⟨entriesJson findings path, fun j => ⟨fun other => other.unique tells, ?_⟩,
    findingsOf_entriesJson findings path⟩
  rintro rfl
  exact tells

example :
    format .json [⟨.error, "\"\x01", some ⟨1, 2, none⟩, none⟩] "a.ts" =
      "[\n  \x7b\n    \"type\": \"Error\",\n    \"filename\": \"a.ts\",\n    \"start\": \x7b\n      \"line\": 1,\n" ++
        "      \"column\": 2\n    \x7d,\n    \"end\": null,\n    \"message\": \"\\\"\\u0001\"\n  \x7d\n]" := by
  decide +kernel

end Report

end Detype
