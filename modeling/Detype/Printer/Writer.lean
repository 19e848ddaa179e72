import Std.Data.HashMap
import Std.Data.HashSet
import Detype.Lexer.Token

/-
**The writer.**

Output text with indentation, the places of the source that its columns come from, and the comments
that wait to be written.

* `Writer` — the text so far and where it stands.
* `Print` — an action on a writer.
* `Print.lead`, `Print.trail` — the comments before and after a place, each written once.
-/

namespace Detype

/-- A place of the output and the position of the source that it comes from. Columns count UTF-16
units. -/
structure Mapping where
  line : Nat
  column : Nat
  position : Nat
deriving DecidableEq, Inhabited, Repr

structure Writer where
  text : String := ""
  indent : Nat := 0
  /-- Whether nothing stands on the current line. -/
  lineStart : Bool := true
  line : Nat := 0
  column : Nat := 0
  /-- A position that waits for the next text of the line. -/
  pending : Option Nat := none
  /-- Whether it is noted where the columns come from. -/
  recording : Bool := true
  mappings : Array Mapping := #[]
  leading : Std.HashMap Nat (List Comment) := {}
  trailing : Std.HashMap Nat (List Comment) := {}
  /-- The positions of the commas of the source. -/
  commas : Std.HashSet Nat := {}
deriving Inhabited

abbrev Print := StateM Writer Unit

namespace Writer

/-- The number of UTF-16 units of a character. -/
def units (c : Char) : Nat := if c.toNat > 0xFFFF then 2 else 1

/-- The line and column after a text. -/
def advance (line column : Nat) (text : String) : Nat × Nat :=
  text.foldl (fun (l, c) ch => if ch == '\n' then (l + 1, 0) else (l, c + units ch)) (line, column)

/-- Whether a place of the output is already said to come from a position. -/
def isMapped (w : Writer) (position : Nat) : Bool :=
  go w.mappings.size
where
  go : Nat → Bool
    | 0 => false
    | n + 1 =>
      match w.mappings[n]? with
      | some m =>
        if m.line == w.line && m.column == w.column then m.position == position || go n else false
      | none => false

/-- Notes that the current place comes from a position. -/
def mapTo (w : Writer) (position : Nat) : Writer :=
  if !w.recording || position == 0 || position == Span.pureMark || w.isMapped position then w
  else { w with mappings := w.mappings.push ⟨w.line, w.column, position⟩ }

/-- Writes the indentation if nothing stands on the line yet. -/
def beginLine (w : Writer) : Writer :=
  if w.lineStart then
    let width := 4 * w.indent
    let waiting := w.pending
    let w := { w with
      text := w.text ++ String.ofList (List.replicate width ' '), column := w.column + width
      lineStart := false, pending := none }
    match waiting with
    | some p => w.mapTo p
    | none => w
  else w

/-- Writes a text, after the indentation if it is the first of its line. -/
def write (w : Writer) (text : String) : Writer :=
  if text.isEmpty then w
  else
    let w := w.beginLine
    let (line, column) := advance w.line w.column text
    { w with text := w.text ++ text, line, column }

def newline (w : Writer) : Writer :=
  if w.lineStart then { w with pending := none }
  else { w with text := w.text ++ "\n", line := w.line + 1, column := 0, lineStart := true, pending := none }

/-- Notes a position for the current place, or for the next text at the start of a line. -/
def mark (w : Writer) (position : Nat) : Writer :=
  if position == 0 || position == Span.pureMark then w
  else if w.lineStart then { w with pending := some position }
  else w.mapTo position

end Writer

namespace Print

def text (s : String) : Print := modify (·.write s)

def space : Print := text " "

def newline : Print := modify Writer.newline

/-- Notes a position of the source for the current place. -/
def mark (position : Nat) : Print := modify (·.mark position)

/-- Notes the start of a span. -/
def markLo (s : Span) : Print := mark s.lo

/-- Notes the end of a span. -/
def markHi (s : Span) : Print := mark s.hi

/-- Notes the last sign of a span, its closing bracket. -/
def markClose (s : Span) : Print := if s.isSynthesized then pure () else mark (s.hi - 1)

/-- A word whose both ends are noted. -/
def markedText (s : Span) (t : String) : Print :=
  modify fun w => ((w.beginLine.mapTo s.lo).write t).mapTo s.hi

/-- A literal whose both ends are noted. Its start is noted before the indentation of its line. -/
def markedLiteral (s : Span) (t : String) : Print :=
  modify fun w => ((w.mapTo s.lo).write t).mapTo s.hi

def indented (p : Print) : Print := do
  modify fun w => { w with indent := w.indent + 1 }
  p
  modify fun w => { w with indent := w.indent - 1 }

/-- One comment with its places: its start, and its closing sign or its end. A line comment ends its line. -/
def comment (c : Comment) : Print := do
  markLo c.span
  if c.isBlock then
    text ("/*" ++ c.text)
    mark (c.span.hi - 2)
    text "*/ "
  else
    text ("//" ++ c.text)
    markHi c.span
    newline

/-- The comments that stand before a position. -/
def leadAt (position : Nat) : Print := do
  let w ← get
  match w.leading[position]? with
  | none => pure ()
  | some cs =>
    set { w with leading := w.leading.erase position }
    for c in cs do comment c

/-- The comments that stand before a span. -/
def lead (s : Span) : Print :=
  if s.isSynthesized then pure ()
  else if s.lo == Span.pureMark then text "/*#__PURE__*/ "
  else leadAt s.lo

/-- The comments that stand after a position. -/
def trailAt (position : Nat) : Print := do
  let w ← get
  match w.trailing[position]? with
  | none => pure ()
  | some cs =>
    set { w with trailing := w.trailing.erase position }
    for c in cs do
      space
      comment c

/-- The comments that stand after a span. -/
def trail (s : Span) : Print := if s.hi == 0 then pure () else trailAt s.hi

/-- The comments that stand after a span, with no space before them. -/
def trailTight (s : Span) : Print := do
  let w ← get
  match w.trailing[s.hi]? with
  | none => pure ()
  | some cs =>
    set { w with trailing := w.trailing.erase s.hi }
    for c in cs do comment c

/-- Whether a comment waits before the closing bracket of a span. -/
def waitsAtClose (s : Span) : StateM Writer Bool :=
  return !s.isSynthesized && (← get).leading.contains (s.hi - 1)

end Print

end Detype
