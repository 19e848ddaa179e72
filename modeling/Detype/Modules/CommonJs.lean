import Detype.Modules.Exports
import Detype.Modules.Loads

/-
**Modules that call `require`.**

* `CommonJs.requireCall` — the call that loads a dependency.
* `commonJs` — a module in this form.
-/

namespace Detype

namespace CommonJs

/-- The object of exports, which the surroundings provide. -/
def exportsObject : Ident := ⟨"exports", {}, globalMark⟩

def requireCall (source : Str) : Expr := .apply (.global "require") [.str { source with raw := none }]

/-- Imports of a whole module by name become declarations first; an exported one becomes a property. -/
def wholeImport : Stmt → RefTargets → Stmt × RefTargets
  | .importEquals s isExport _ id (.external _ source), targets =>
    if isExport then
      let place := Expr.member {} (.ident exportsObject) (.keyName { id with mark := unmarked })
      (.ofExpr (.assign s .assign (.expr place) (requireCall source)),
        targets.insert id.binding (exportsObject, some id.name))
    else (.declare .constant id (some (requireCall source)) s, targets)
  | s, targets => (s, targets)

def wholeImports : List Stmt → RefTargets → List Stmt × RefTargets
  | [], targets => ([], targets)
  | s :: ss, targets =>
    let (s, targets) := wholeImport s targets
    let (ss, targets) := wholeImports ss targets
    (s :: ss, targets)

def isWholeImport : Stmt → Bool
  | .importEquals _ _ _ _ (.external _ _) => true
  | _ => false

/-- The statement that loads a dependency, with what follows from it. -/
def dependency (interop : Interop) (d : Dependency) (targets : RefTargets) :
    Fresh (Stmt × RefTargets × List ExportEntry) := do
  let held ← Fresh.ident (Modules.localName d.source.text)
  let (targets, entries) := d.resolve held held (interop == .node && !d.hasNamed) targets
  let call := requireCall d.source
  let call := if d.hasStar then
      .apply (.ident PreludeFunction.exportStar.ident) [call, .ident exportsObject]
    else call
  let value := d.bridged interop call
  let stmt := if d.items.any LinkItem.mentionsModule then Stmt.declare .constant held (some value)
    else .ofExpr value
  return (stmt, targets, entries)

def dependencies (interop : Interop) :
    List Dependency → RefTargets → Fresh (List Stmt × RefTargets × List ExportEntry)
  | [], targets => return ([], targets, [])
  | d :: ds, targets => do
    let (stmt, targets, entries) ← dependency interop d targets
    let (stmts, targets, more) ← dependencies interop ds targets
    return (stmt :: stmts, targets, entries ++ more)

end CommonJs

open CommonJs in
/-- A module that calls `require` and fills `exports`. -/
def commonJs (interop : Interop) (depth : Nat) (body : List Stmt) : Fresh (List Stmt) := do
  let (directives, rest) := splitDirectives body
  let (rest', targets) := wholeImports rest {}
  let m ← ModuleParts.of rest'
  let m := { m with isLinked := m.isLinked || rest.any isWholeImport }
  let mark := if m.isMarked interop then [markCompiled exportsObject] else []
  let (loads, targets, entries) ← dependencies interop m.dependencies targets
  let exports ← if m.assigned.isSome then pure [] else exportGetters exportsObject (m.exports ++ entries)
  let assigned := m.assigned.toList.map fun e =>
    Stmt.ofExpr (.setTo (.dot (.global "module") "exports") e)
  let body := withStrictMode directives ++ mark ++ exports ++ loads ++ m.body ++ assigned
  return spellRefs targets depth (← (LoadForm.byRequire interop).spell depth body)

end Detype
