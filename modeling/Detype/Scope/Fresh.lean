import Detype.Syntax.Span

/-
**New variables.**

A variable that the compiler adds gets a mark of its own, so that no name of the source can mean it and
`Program.respell` keeps them apart.

* `Fresh` — computations that take marks in order.
* `Fresh.ident` — a variable that nothing else means.
-/

namespace Detype

/-- Computations that take marks in order; the state is the first free one. -/
abbrev Fresh := StateM Nat

namespace Fresh

/-- A variable that nothing else means. -/
def ident (name : String) (span : Span := {}) : Fresh Ident := do
  let mark ← get
  set (mark + 1)
  return ⟨name, span, mark⟩

end Fresh

end Detype
