import Detype.Parser.Program
import Detype.Scope.Resolve
import Detype.Prelude.Text

/-
**The functions that compiled code calls.**

A compiled program declares those of these functions that it needs. They are read from their text like
any source, except that they stand at no place.

* `PreludeFunction` — which functions there are, in the order in which they are declared.
* `PreludeFunction.ident` — the name under which compiled code calls one.
* `PreludeFunction.declarations` — the declarations of some of them.
-/

namespace Detype

/-- A text whose characters stand at no place. -/
def Source.unplaced (text : String) : Source := { chars := text.toList.toArray, positions := #[0] }

/-- A function that compiled code may call. -/
inductive PreludeFunction where
  | exportStar | requireDefault | requireWildcard | decorate | decorateParam | applyDecorators | identity
deriving DecidableEq, Repr

namespace PreludeFunction

/-- All functions, in the order in which they are declared. -/
def all : List PreludeFunction :=
  [exportStar, requireDefault, requireWildcard, decorate, decorateParam, applyDecorators, identity]

def name : PreludeFunction → String
  | exportStar => "_export_star"
  | requireDefault => "_interop_require_default"
  | requireWildcard => "_interop_require_wildcard"
  | decorate => "_ts_decorate"
  | decorateParam => "_ts_param"
  | identity => "_identity"
  | applyDecorators => "_apply_decs_2203_r"

def lines : PreludeFunction → List String
  | exportStar => Prelude.exportStarLines
  | requireDefault => Prelude.requireDefaultLines
  | requireWildcard => Prelude.requireWildcardLines
  | decorate => Prelude.decorateLines
  | decorateParam => Prelude.decorateParamLines
  | identity => Prelude.identityLines
  | applyDecorators => Prelude.applyDecoratorsLines

/-- The name under which compiled code calls a function. -/
def ident (f : PreludeFunction) : Ident := ⟨f.name, {}, preludeMark⟩

end PreludeFunction

namespace Prelude

/-- The statements that some lines spell, with inner scopes marked from `next` on. -/
def read (lines : List String) (next : Nat) : List Stmt × Nat :=
  let source := Source.unplaced ("\n".intercalate lines)
  match source.parse false with
  | .error _ => ([], next)
  | .ok parsed =>
    let (p, next) := parsed.program.resolveFrom preludeMark next (Parser.depthFor source)
    (p.body, next)

/-- The declarations of the functions that are needed. -/
def declarations (needed : List PreludeFunction) (next : Nat) : List Stmt × Nat :=
  (PreludeFunction.all.filter needed.contains).foldl
    (fun (body, next) f =>
      let (more, next) := read f.lines next
      (body ++ more, next)) ([], next)

/-- The name of the function that defines exports as getters. -/
def gettersName : Ident := ⟨"_export", {}, preludeMark⟩

end Prelude

end Detype
