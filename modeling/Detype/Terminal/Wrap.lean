import Detype.Terminal.LineBreak

/-
**Text in lines of limited width.**

* `Chunk` — a part of a line that is not broken.
* `chunks` — the parts of a text; parts that are wider than a line are cut.
* `fill` — a text in lines, each as full as it can be.
-/

namespace Detype.Terminal

-- Sums are those of the natural numbers themselves, whatever else is in scope.
attribute [local instance (high)] Zero.ofOfNat0

/-- The columns that a character takes. -/
def charWidth (c : Char) : Nat :=
  if c.toNat < 32 || (127 ≤ c.toNat && c.toNat < 160) then 0
  else if breakClass c == .ideograph then 2
  else 1

def width (cs : List Char) : Nat := (cs.map charWidth).sum

/-- A part of a line that is not broken, and the spaces after it. -/
structure Chunk where
  text : List Char
  spaces : Nat := 0
deriving Inhabited

/-- A piece of text without the spaces at its end, and their number. -/
def Chunk.ofPiece (piece : List Char) : Chunk :=
  let text := (piece.reverse.dropWhile (· == ' ')).reverse
  { text, spaces := piece.length - text.length }

def isWordChar (c : Char) : Bool := c.isAlphanum || c.toNat ≥ 160

/-- Cuts a word after each hyphen between two letters or digits. `before` is the character before the
rest, and `part` what was read since the last cut, in reverse. -/
def splitHyphens (before : Option Char) (part : List Char) : List Char → List (List Char)
  | [] => [part.reverse]
  | c :: cs =>
    if c == '-' && before.any isWordChar && cs.head?.any isWordChar then
      (c :: part).reverse :: splitHyphens (some c) [] cs
    else splitHyphens (some c) (c :: part) cs

/-- Cuts a text into parts of at most `limit` columns; `part` was read since the last cut, in reverse. -/
def cutAt (limit : Nat) (part : List Char) : List Char → List (List Char)
  | [] => [part.reverse]
  | c :: cs =>
    if !part.isEmpty && width part + charWidth c > limit then part.reverse :: cutAt limit [c] cs
    else cutAt limit (c :: part) cs

/-- Gives the spaces after a word to the last of its parts. -/
def withSpaces (spaces : Nat) : List (List Char) → List Chunk
  | [] => []
  | [part] => [{ text := part, spaces }]
  | part :: parts => { text := part } :: withSpaces spaces parts

/-- The parts of a line of text, none wider than `limit`. -/
def chunks (limit : Nat) (line : List Char) : List Chunk :=
  (breakPieces none false [] line).flatMap fun piece =>
    let chunk := Chunk.ofPiece piece
    let parts := (splitHyphens none [] chunk.text).flatMap fun part =>
      if width part ≤ limit then [part] else cutAt limit [] part
    withSpaces chunk.spaces parts

/-- The text of a line of chunks, without the spaces at its end. -/
def lineText : List Chunk → List Char
  | [] => []
  | [c] => c.text
  | c :: cs => c.text ++ List.replicate c.spaces ' ' ++ lineText cs

/-- Puts chunks into lines, each as full as it can be. `limits` are the widths of the first line and of
all others; `line` and `used` are the line that is being filled, in reverse, and its width. -/
def fillLines (limits : Nat × Nat) (first : Bool) (line : List Chunk) (used : Nat) :
    List Chunk → List (List Char)
  | [] => [lineText line.reverse]
  | c :: cs =>
    let limit := if first then limits.1 else limits.2
    if used + width c.text > limit && !line.isEmpty then
      lineText line.reverse :: fillLines limits false [c] (width c.text + c.spaces) cs
    else fillLines limits first (c :: line) (used + width c.text + c.spaces) cs

/-- The lines of a text. -/
def splitLines : List Char → List (List Char)
  | [] => [[]]
  | c :: cs =>
    if c = '\n' then [] :: splitLines cs
    else
      match splitLines cs with
      | [] => [[c]]
      | l :: ls => (c :: l) :: ls

/-- A text in lines of at most `columns` columns. The first starts with `head`, the others with
`indent`. -/
def fill (columns : Nat) (head indent text : String) : String :=
  let limits := (columns - width head.toList, columns - width indent.toList)
  let lines := (splitLines text.toList).flatMap fun line =>
    fillLines limits true [{ text := [] }] 0 (chunks limits.2 line)
  match lines with
  | [] => head
  | l :: ls =>
    String.intercalate "\n"
      ((head ++ String.ofList l) :: ls.map fun l => indent ++ String.ofList l)

end Detype.Terminal
