/-
**Positions in the source text.**

A position counts bytes of the UTF-8 text and starts at one, so that zero is free for code that the
compiler itself writes.

* `Span` — a half-open range of positions.
* `Ident` — a name with its place and its scope.
* `Binding` — the part of an `Ident` that tells two variables apart.
-/

namespace Detype

/-- A half-open range of positions. Both ends are zero for synthesized code. -/
structure Span where
  lo : Nat := 0
  hi : Nat := 0
deriving DecidableEq, Inhabited, Repr

namespace Span

def isSynthesized (s : Span) : Bool := s.lo == 0

/-- The start of a call that is known to have no effect. No source text is long enough to reach it. -/
def pureMark : Nat := 1 <<< 48

/-- The span of a synthesized call that is announced to have no effect. -/
def pureCall : Span := ⟨pureMark, 0⟩

end Span

/-- The scope mark of a name that was never looked up. -/
def unmarked : Nat := 0

/-- The scope mark of a name that no declaration of the program binds. -/
def globalMark : Nat := 1

/-- The scope mark of a name declared at the top level of the program. -/
def topLevelMark : Nat := 2

/-- The scope mark of a function that the compiler adds. -/
def preludeMark : Nat := 3

/-- The first mark that no scope has yet. -/
def firstFreeMark : Nat := 4

/-- A name at a place. Two names denote one variable when text and `mark` agree. -/
structure Ident where
  name : String
  span : Span := {}
  mark : Nat := unmarked
deriving Inhabited, Repr

/-- A variable: a name in a scope. -/
structure Binding where
  name : String
  mark : Nat
deriving DecidableEq, Hashable, Inhabited, Repr

def Ident.binding (id : Ident) : Binding := ⟨id.name, id.mark⟩

/-- The same variable at no place. -/
def Ident.unplaced (id : Ident) : Ident := { id with span := {} }

def Binding.ident (b : Binding) (span : Span := {}) : Ident := ⟨b.name, span, b.mark⟩

end Detype
