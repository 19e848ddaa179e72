/-
**Where a line of text may be broken.**

The rules of Unicode line breaking, for the classes that texts of messages have.

* `BreakClass` — how a character behaves at the end of a line.
* `breaksAtSpace`, `breaksDirectly` — whether a line may end between two characters.
* `breakPieces` — a text cut at all places where a line may end.
-/

namespace Detype.Terminal

/-- How a character behaves at the end of a line. -/
inductive BreakClass where
  | alphabetic
  | numeric
  | space
  | opening
  | closing
  | closingParenthesis
  | quotation
  | exclamation
  | separator
  | solidus
  | hyphen
  | breakAfter
  | numberBefore
  | numberAfter
  | ideograph
  | glue
deriving DecidableEq, Inhabited, Repr

def breakClass (c : Char) : BreakClass :=
  let n := c.toNat
  if c == ' ' then .space
  else if '0' ≤ c && c ≤ '9' then .numeric
  else if c == '!' || c == '?' then .exclamation
  else if c == '"' || c == '\'' then .quotation
  else if c == '$' || c == '+' || c == '\\' then .numberBefore
  else if c == '%' then .numberAfter
  else if c == '(' || c == '[' || c == '{' then .opening
  else if c == ')' || c == ']' then .closingParenthesis
  else if c == '}' then .closing
  else if c == ',' || c == '.' || c == ':' || c == ';' then .separator
  else if c == '/' then .solidus
  else if c == '-' then .hyphen
  else if c == '|' || n == 9 then .breakAfter
  else if n == 0xA0 || n == 0x202F then .glue
  else if (0x2E80 ≤ n && n ≤ 0xA4CF) || (0xAC00 ≤ n && n ≤ 0xD7A3) || (0xF900 ≤ n && n ≤ 0xFAFF)
      || (0xFF00 ≤ n && n ≤ 0xFF60) || (0x1F000 ≤ n && n ≤ 0x1FAFF) || (0x20000 ≤ n && n ≤ 0x3FFFD) then
    .ideograph
  else .alphabetic

/-- Whether a line may end between two characters with spaces between them. -/
def breaksAtSpace (a b : BreakClass) : Bool :=
  match b with
  | .closing | .closingParenthesis | .exclamation | .separator | .solidus => false
  | .opening => a != .opening && a != .quotation
  | _ => a != .opening

/-- Whether a line may end between two characters that follow each other. -/
def breaksDirectly (a b : BreakClass) : Bool :=
  match a, b with
  | _, .space => false
  | .glue, _ => false
  | .hyphen, .glue | .breakAfter, .glue => true
  | _, .glue => false
  | _, .closing | _, .closingParenthesis | _, .exclamation | _, .separator | _, .solidus => false
  | .opening, _ => false
  | _, .quotation | .quotation, _ => false
  | _, .breakAfter | _, .hyphen => false
  | .alphabetic, .numeric | .numeric, .alphabetic => false
  | .numberBefore, .ideograph | .ideograph, .numberAfter => false
  | .numberBefore, .alphabetic | .numberAfter, .alphabetic => false
  | .alphabetic, .numberBefore | .alphabetic, .numberAfter => false
  | .closing, .numberAfter | .closingParenthesis, .numberAfter | .closing, .numberBefore
  | .closingParenthesis, .numberBefore | .numeric, .numberAfter | .numeric, .numberBefore
  | .numberAfter, .opening | .numberAfter, .numeric | .numberBefore, .opening | .numberBefore, .numeric
  | .hyphen, .numeric | .separator, .numeric | .numeric, .numeric | .solidus, .numeric => false
  | .alphabetic, .alphabetic => false
  | .separator, .alphabetic => false
  | .alphabetic, .opening | .numeric, .opening => false
  | .closingParenthesis, .alphabetic | .closingParenthesis, .numeric => false
  | _, _ => true

/-- Cuts a text at all places where a line may end, except after a hyphen. `before` is the last
character that is not a space, `spaced` tells whether spaces follow it, and `piece` is what was read
since the last cut, in reverse. -/
def breakPieces (before : Option Char) (spaced : Bool) (piece : List Char) : List Char → List (List Char)
  | [] => if piece.isEmpty then [] else [piece.reverse]
  | c :: cs =>
    if c == ' ' then breakPieces before true (c :: piece) cs
    else
      let cut := match before with
        | none => spaced
        | some b =>
          if spaced then breaksAtSpace (breakClass b) (breakClass c)
          else b != '-' && breaksDirectly (breakClass b) (breakClass c)
      if cut && !piece.isEmpty then piece.reverse :: breakPieces (some c) false [c] cs
      else breakPieces (some c) false (c :: piece) cs

end Detype.Terminal
