import Detype.Syntax.Fault

/-
**Diagnostics.**

What the compiler has to say about a place of the text that the caller gave. Lines end at line feeds
only, columns count characters, offsets count bytes.

* `lineColumn` — the line and column of a byte offset.
* `Diagnostic.at_` — a message at a span, clamped to the text.
* `Diagnostic.arrange` — the order in which diagnostics are reported, each run of equal ones once.
-/

namespace Detype

/-- The line and column, from one, of a byte offset: those of the end of the shortest prefix of whole
characters that reaches it. -/
def lineColumn (text : List Char) (offset : Nat) : Nat × Nat := go text 0 1 1
where
  go : List Char → Nat → Nat → Nat → Nat × Nat
    | [], _, line, column => (line, column)
    | c :: cs, read, line, column =>
      if offset ≤ read then (line, column)
      else if c = '\n' then go cs (read + c.utf8Size) (line + 1) 1
      else go cs (read + c.utf8Size) line (column + 1)

/-- The offsets of a span in a text of the given length; positions count from one. -/
def Span.offsets (s : Span) (length : Nat) : Nat × Nat :=
  let start := min (s.lo - 1) length
  (start, max (min (s.hi - 1) length) start)

structure Diagnostic where
  message : String
  line : Nat
  column : Nat
  endLine : Nat
  endColumn : Nat
  start : Nat
  stop : Nat
deriving DecidableEq, Inhabited, Repr

namespace Diagnostic

/-- A message about a span of a text. -/
def at_ (message : String) (span : Span) (text : String) : Diagnostic :=
  let (start, stop) := span.offsets text.utf8ByteSize
  let (line, column) := lineColumn text.toList start
  let (endLine, endColumn) := lineColumn text.toList stop
  { message, line, column, endLine, endColumn, start, stop }

/-- The diagnostic as one line of text. -/
def display (d : Diagnostic) : String := s!"{d.line}:{d.column}: " ++ d.message

/-- Whether a diagnostic may stand before another: by where it starts, then by where it ends. -/
def precedes (a b : Diagnostic) : Bool := a.start < b.start || (a.start == b.start && a.stop ≤ b.stop)

/-- A list without repetitions next to each other. -/
def dedup : List Diagnostic → List Diagnostic
  | [] => []
  | [d] => [d]
  | a :: b :: ds => if a = b then dedup (b :: ds) else a :: dedup (b :: ds)

/-- Diagnostics in the order of their places, each run of equal ones once. -/
def arrange (ds : List Diagnostic) : List Diagnostic := dedup (ds.mergeSort precedes)

/-- What is said about an `await` that cannot suspend. -/
def awaitMessage : String :=
  "Top-level 'await' is only supported when the module kind is 'system' or 'esmodule'"

end Diagnostic

end Detype
