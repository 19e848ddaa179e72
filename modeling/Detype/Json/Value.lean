/-
**JSON values.**

* `Json` — a value whose numbers are integers, or decimals kept as text.
* `DecodeError` — why a value does not have the expected shape, with its wording.
* `Json.quoted` — how a text is shown in a message.
-/

namespace Detype

/-- A JSON value. An object keeps its entries in order. -/
inductive Json where
  | null
  | bool (b : Bool)
  | int (n : Int)
  | float (text : String)
  | str (s : String)
  | arr (items : List Json)
  | obj (entries : List (String × Json))
deriving Inhabited

/-- What was found where something else was expected. -/
inductive Found where
  | null
  | bool (b : Bool)
  | int (n : Int)
  | float (text : String)
  | str (s : String)
  | sequence
  | map
deriving DecidableEq, Inhabited

/-- Why a value does not have the expected shape. -/
inductive DecodeError where
  | invalidType (found : Found) (expected : String)
  | invalidValue (found : Found) (expected : String)
  | invalidLength (length : Nat) (expected : String)
  | unknownVariant (name : String) (expected : List String)
  | missingField (name : String)
  | duplicateField (name : String)
deriving DecidableEq, Inhabited

namespace Json

def found : Json → Found
  | null => .null
  | bool b => .bool b
  | int n => .int n
  | float t => .float t
  | str s => .str s
  | arr _ => .sequence
  | obj _ => .map

/-- One character inside quotes in a message. -/
def quotedChar (c : Char) : String :=
  if c == '"' then "\\\""
  else if c == '\\' then "\\\\"
  else if c == '\n' then "\\n"
  else if c == '\r' then "\\r"
  else if c == '\t' then "\\t"
  else if c.toNat == 0 then "\\0"
  else if c.toNat < 32 || (127 ≤ c.toNat && c.toNat < 160) then
    "\\u\x7b" ++ String.ofList (Nat.toDigits 16 c.toNat) ++ "\x7d"
  else String.singleton c

/-- A text between quotes in a message. -/
def quoted (s : String) : String :=
  "\"" ++ String.join (s.toList.map quotedChar) ++ "\""

end Json

def Found.shown : Found → String
  | .null => "null"
  | .bool b => "boolean \x60" ++ (if b then "true" else "false") ++ "\x60"
  | .int n => "integer \x60" ++ toString n ++ "\x60"
  | .float t => "floating point \x60" ++ t ++ "\x60"
  | .str s => "string " ++ Json.quoted s
  | .sequence => "sequence"
  | .map => "map"

namespace DecodeError

/-- A list of choices. -/
def choices : List String → String
  | [] => "there are no variants"
  | [a] => "expected \x60" ++ a ++ "\x60"
  | [a, b] => "expected \x60" ++ a ++ "\x60 or \x60" ++ b ++ "\x60"
  | names => "expected one of " ++ String.intercalate ", " (names.map fun n => "\x60" ++ n ++ "\x60")

def message : DecodeError → String
  | invalidType found expected => "invalid type: " ++ found.shown ++ ", expected " ++ expected
  | invalidValue found expected => "invalid value: " ++ found.shown ++ ", expected " ++ expected
  | invalidLength n expected => "invalid length " ++ toString n ++ ", expected " ++ expected
  | unknownVariant name names => "unknown variant \x60" ++ name ++ "\x60, " ++ choices names
  | missingField name => "missing field \x60" ++ name ++ "\x60"
  | duplicateField name => "duplicate field \x60" ++ name ++ "\x60"

end DecodeError

namespace Json

def asBool : Json → Except DecodeError Bool
  | bool b => .ok b
  | j => .error (.invalidType j.found "a boolean")

def asString : Json → Except DecodeError String
  | str s => .ok s
  | j => .error (.invalidType j.found "a string")

/-- A text, or nothing for `null`. -/
def asOptionalString : Json → Except DecodeError (Option String)
  | null => .ok none
  | j => (asString j).map some

/-- One of a list of names, as a text or as an object that maps the name to `null`. -/
def asVariant {α : Type} (names : List String) (parse : String → Option α) (j : Json) :
    Except DecodeError α :=
  let named (name : String) : Except DecodeError α :=
    match parse name with
    | some a => .ok a
    | none => .error (.unknownVariant name names)
  match j with
  | str s => named s
  | obj [(name, content)] => do
    let a ← named name
    match content with
    | null => return a
    | c => .error (.invalidType c.found "unit")
  | obj _ => .error (.invalidValue .map "map with a single key")
  | j => .error (.invalidType j.found "string or map")

end Json

end Detype
