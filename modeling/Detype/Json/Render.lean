import Detype.Json.Value

/-
**JSON as text.**

* `Json.literal` — a text as a JSON string.
* `Json.compact` — a value on one line.
* `Json.pretty` — a value over several lines, two spaces a level.
-/

namespace Detype.Json

def hexDigit (n : Nat) : Char := if n < 10 then Char.ofNat (48 + n) else Char.ofNat (87 + n)

/-- A character of a JSON string. -/
def literalChar (c : Char) : String :=
  if c == '"' then "\\\""
  else if c == '\\' then "\\\\"
  else if c == '\n' then "\\n"
  else if c == '\r' then "\\r"
  else if c == '\t' then "\\t"
  else if c.toNat == 8 then "\\b"
  else if c.toNat == 12 then "\\f"
  else if c.toNat < 32 then
    "\\u00" ++ String.ofList [hexDigit (c.toNat / 16), hexDigit (c.toNat % 16)]
  else String.singleton c

/-- A text as a JSON string. -/
def literal (s : String) : String := "\"" ++ String.join (s.toList.map literalChar) ++ "\""

mutual

/-- A value on one line. -/
def compact : Json → String
  | null => "null"
  | bool b => if b then "true" else "false"
  | int n => toString n
  | float t => t
  | str s => literal s
  | arr items => "[" ++ String.intercalate "," (compactItems items) ++ "]"
  | obj entries => "\x7b" ++ String.intercalate "," (compactEntries entries) ++ "\x7d"

def compactItems : List Json → List String
  | [] => []
  | j :: js => compact j :: compactItems js

def compactEntries : List (String × Json) → List String
  | [] => []
  | (k, v) :: es => (literal k ++ ":" ++ compact v) :: compactEntries es

end

def indentation (n : Nat) : String := String.ofList (List.replicate (2 * n) ' ')

/-- Items between brackets, each on a line of its own. -/
def bracketed (left right : String) (level : Nat) (items : List String) : String :=
  match items with
  | [] => left ++ right
  | items =>
    left ++ "\n" ++ String.intercalate ",\n" (items.map (indentation (level + 1) ++ ·)) ++ "\n"
      ++ indentation level ++ right

mutual

/-- A value over several lines at a level of indentation. -/
def pretty (level : Nat) : Json → String
  | null => "null"
  | bool b => if b then "true" else "false"
  | int n => toString n
  | float t => t
  | str s => literal s
  | arr items => bracketed "[" "]" level (prettyItems (level + 1) items)
  | obj entries => bracketed "\x7b" "\x7d" level (prettyEntries (level + 1) entries)

def prettyItems (level : Nat) : List Json → List String
  | [] => []
  | j :: js => pretty level j :: prettyItems level js

def prettyEntries (level : Nat) : List (String × Json) → List String
  | [] => []
  | (k, v) :: es => (literal k ++ ": " ++ pretty level v) :: prettyEntries level es

end

end Detype.Json
