import Detype.Modules.Links
import Detype.Modules.References

/-
**Exports as properties of an object.**

Where a module is an object, each export is a getter on it, so that it always gives the current value of
its variable.

* `markCompiled` — the mark that tells compiled modules from others.
* `exportGetters` — the statements that define the getters, in the order of their names.
* `Dependency.resolve` — what the imports from a dependency stand for, and what is exported from it.
* `ModuleParts.isMarked` — whether the mark of a compiled module is set.
-/

namespace Detype

def defineProperty (target : Ident) (name : Expr) (descriptor : List Expr) : Stmt :=
  let define := Expr.dot (.ident ⟨"Object", {}, unmarked⟩) "defineProperty"
  .ofExpr (.apply define [.ident target, name, .object {} descriptor])

/-- The mark of a compiled module. -/
def markCompiled (target : Ident) : Stmt :=
  defineProperty target (.text "__esModule") [.propValue (.key "value") (.bool {} true)]

/-- A getter in an object literal. -/
def ExportEntry.getter (e : ExportEntry) : Expr :=
  let key : Expr := if Modules.isPropertyName e.name then .key e.name e.nameSpan else .str (.of e.name e.nameSpan)
  .propMethod {} .getter key
    { span := {}, params := [], body := some ⟨{}, [.result e.value]⟩, types := [], isGenerator := false, isAsync := false }

/-- The getters of a module. A single one is defined in place. -/
def exportGetters (target : Ident) (entries : List ExportEntry) : Fresh (List Stmt) := do
  match entries.mergeSort fun a b => !(b.name < a.name) with
  | [] => return []
  | [e] =>
    return [defineProperty target (.str (.of e.name e.nameSpan))
      [.propValue (.key "enumerable") (.bool {} true),
       .propValue (.key "get") (.lambda [] [.result e.value])]]
  | entries =>
    let (define, next) := Prelude.read Prelude.gettersLines (← get)
    set next
    return define ++
      [.ofExpr (.apply (.ident Prelude.gettersName) [.ident target, .object {} (entries.map ExportEntry.getter)])]

/-! ### Imports -/

/-- What the imports from a dependency stand for and what is exported from it. `held` is the variable of
the module after the bridge, `raw` before it; with `plainDefault` the default export is the module. -/
def Dependency.resolve (d : Dependency) (held raw : Ident) (plainDefault : Bool) (targets : RefTargets) :
    RefTargets × List ExportEntry :=
  let default : Option String := if plainDefault then none else some "default"
  let taken (span : Span) (name : Option String) : Expr :=
    let object := Expr.ident { held with span }
    match name with
    | none => object
    | some name => object.property name span
  d.items.foldl (fun (targets, entries) item =>
    match item with
    | .importNamed imported id => (targets.insert id.binding (held, some imported), entries)
    | .importDefault id => (targets.insert id.binding (held, default), entries)
    | .importAll id => (targets.insert id.binding (held, none), entries)
    | .importWhole id => (targets.insert id.binding (raw, none), entries)
    | .exportNamed orig exported =>
      (targets, entries ++ [⟨exported.text, exported.span, taken orig.span (some orig.text)⟩])
    | .exportDefault orig exported =>
      (targets, entries ++ [⟨exported.text, exported.span, taken orig.span default⟩])
    | .exportAll exported => (targets, entries ++ [⟨exported.text, exported.span, .ident held⟩])
    | .exportStar => (targets, entries)) (targets, [])

namespace ModuleParts

/-- Whether the mark of a compiled module is set. -/
def isMarked (m : ModuleParts) (interop : Interop) : Bool :=
  m.isLinked && interop != .none && m.assigned.isNone

end ModuleParts

end Detype
