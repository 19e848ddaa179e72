import Detype.Syntax.Walk

/-
**Default values outside patterns.**

`{ a = 1 }` can only be a pattern. The parser reads it as an object first, since it may turn out to be
one, and an expression that stayed an expression is searched for what is left of this kind. Functions
are passed over: their statements have been searched on their own.

* `Expr.strayDefaults` — the places of the default values that no pattern took up.
-/

namespace Detype

namespace StrayDefaults

/-- The places found so far. -/
abbrev Search := StateM (Array Span)

def expr (w : Walker Search) : Expr → Search Expr
  | .func id f => return .func id f
  | .arrow s isAsync ps body types => return .arrow s isAsync ps body types
  | .propDefault s id v => do
    modify (·.push s)
    return .propDefault s id v
  | e => w.onExpr e

def walker (w : Walker Search) : Walker Search := { w.through with expr := expr w }

end StrayDefaults

/-- The places of the default values in object literals of an expression, to a bounded depth. -/
def Expr.strayDefaults (depth : Nat) (e : Expr) : List Span :=
  (((Walker.fix StrayDefaults.walker depth).expr e).run #[]).2.toList

end Detype
