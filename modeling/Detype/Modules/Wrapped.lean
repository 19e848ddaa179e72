import Detype.Modules.Exports
import Detype.Modules.Loads

/-
**Modules inside a function that a loader calls.**

The loader passes the dependencies as arguments. `amd` is for one kind of loader; `umd` looks at the
surroundings to find out which kind there is, and falls back to global variables.

* `Wrapped` — the inside of the function with what it asks for.
* `wrap` — a module as the inside of a function.
* `amd`, `umd` — the two forms.
-/

namespace Detype

/-- The inside of a module function with what it asks its loader for. -/
structure Wrapped where
  body : List Stmt
  /-- The object of exports, if the module fills one. -/
  exports : Option Ident
  /-- The dependencies and the parameters that hold them. -/
  dependencies : List (Ident × Str)
  isReplaced : Bool

namespace Wrapped

/-- The statements that bridge to a dependency, with what follows from it. -/
def dependency (interop : Interop) (exports : Ident) (d : Dependency) (targets : RefTargets) :
    Fresh (Ident × List Stmt × RefTargets × List ExportEntry) := do
  let name := Modules.localName d.source.text
  let raw ← Fresh.ident name
  let isBridged := d.isBridged && interop != .none
  let needsVariable := isBridged && d.hasWhole
  let held ← if needsVariable then Fresh.ident name else pure raw
  let (targets, entries) := d.resolve held raw (interop == .node && !d.hasNamed) targets
  let value := if d.hasStar then
      .apply (.ident PreludeFunction.exportStar.ident) [.ident raw, .ident exports]
    else Expr.ident raw
  let stmts := if needsVariable then [Stmt.declare .constant held (some (d.bridged interop value))]
    else if isBridged then [.ofExpr (.setTo (.ident raw) (d.bridged interop value))]
    else if d.hasStar then [.ofExpr value]
    else []
  return (raw, stmts, targets, entries)

def dependencyList (interop : Interop) (exports : Ident) :
    List Dependency → RefTargets →
      Fresh (List (Ident × Str) × List Stmt × RefTargets × List ExportEntry)
  | [], targets => return ([], [], targets, [])
  | d :: ds, targets => do
    let (raw, stmts, targets, entries) ← dependency interop exports d targets
    let (params, moreStmts, targets, more) ← dependencyList interop exports ds targets
    return ((raw, d.source) :: params, stmts ++ moreStmts, targets, entries ++ more)

end Wrapped

/-- A module as the inside of a function. -/
def wrap (interop : Interop) (loads : Option LoadForm) (depth : Nat) (body : List Stmt) : Fresh Wrapped := do
  let (directives, rest) := splitDirectives body
  let m ← ModuleParts.of rest
  let exports ← Fresh.ident "exports"
  let mark := if m.isMarked interop then [markCompiled exports] else []
  let (params, stmts, targets, entries) ← Wrapped.dependencyList interop exports m.dependencies {}
  let getters ← if m.assigned.isSome then pure [] else exportGetters exports (m.exports ++ entries)
  let result := m.assigned.toList.map Stmt.result
  let body := withStrictMode directives ++ mark ++ getters ++ stmts ++ m.body ++ result
  let body ← match loads with
    | some form => form.spell depth body
    | none => pure body
  let isFilled := !mark.isEmpty || !getters.isEmpty || m.dependencies.any Dependency.hasStar
  return {
    body := spellRefs targets depth body
    exports := if isFilled then some exports else none
    dependencies := params
    isReplaced := m.assigned.isSome }

/-! ### The two forms -/

/-- The path of a dependency in its own spelling. -/
def Str.respelled (s : Str) : Expr := .str { s with raw := none }

/-- A module for a loader with `define`. -/
def amd (interop : Interop) (depth : Nat) (body : List Stmt) : Fresh (List Stmt) := do
  let require : Ident := ⟨"require", {}, globalMark⟩
  let self ← Fresh.ident "module"
  let asks := asksForModule body depth
  let m ← wrap interop (some (LoadForm.byDefine interop require self)) depth body
  let own := [(require, "require")] ++ m.exports.toList.map (·, "exports") ++ if asks then [(self, "module")] else []
  let paths := own.map (fun (_, s) => Expr.text s) ++ m.dependencies.map fun (_, s) => s.respelled
  let params := own.map (·.1) ++ m.dependencies.map (·.1)
  return [.ofExpr (.apply (.ident ⟨"define", {}, unmarked⟩) [.array {} paths, .lambda params m.body])]

namespace Umd

/-- A name of the surroundings. -/
def outer (name : String) : Expr := .ident ⟨name, {}, unmarked⟩

def typeIs (e : Expr) (op : BinaryOp) (type : String) : Expr :=
  .binary {} op (.unary {} .typeOf e) (.text type)

/-- The function that finds out how to call the module function. -/
def adapter (m : Wrapped) (ownName : String) : Fresh Expr := do
  let globals ← Fresh.ident "global"
  let factory ← Fresh.ident "factory"
  let ownGlobal := Expr.dot (.ident globals) ownName
  let moduleExports := Expr.dot (outer "module") "exports"
  let required := m.exports.toList.map (fun _ => outer "exports") ++
    m.dependencies.map fun (_, s) => Expr.apply (outer "require") [s.respelled]
  let paths := m.exports.toList.map (fun _ => Expr.text "exports") ++ m.dependencies.map fun (_, s) => s.respelled
  let found := m.exports.toList.map (fun _ => Expr.setTo ownGlobal (.object {} [])) ++
    m.dependencies.map fun (_, s) => (Expr.ident globals).property (Modules.globalName s.text)
  let called (args : List Expr) (place : Expr) : Expr :=
    let call := Expr.apply (.ident factory) args
    if m.isReplaced then .setTo place call else call
  let underRequire := Expr.binary {} .and (typeIs (outer "module") .eqEqEq "object")
    (typeIs moduleExports .eqEqEq "object")
  let underDefine := Expr.binary {} .and (typeIs (outer "define") .eqEqEq "function")
    (.dot (outer "define") "amd")
  let inBrowser := Expr.setTo (.ident globals)
    (.cond {} (typeIs (outer "globalThis") .notEqEq "undefined") (outer "globalThis")
      (.orElse (.ident globals) (outer "self")))
  let body : Stmt :=
    .ifStmt {} underRequire (.ofExpr (called required moduleExports)) <| some <|
    .ifStmt {} underDefine (.ofExpr (.apply (outer "define") [.array {} paths, .ident factory])) <| some <|
    .ifStmt {} inBrowser (.ofExpr (called found ownGlobal)) none
  return .lambda [globals, factory] [body]

end Umd

/-- A module for any loader. -/
def umd (interop : Interop) (fileName : Option String) (depth : Nat) (body : List Stmt) : Fresh (List Stmt) := do
  let m ← wrap interop none depth body
  let adapter ← Umd.adapter m (Modules.ownGlobalName fileName)
  let params := m.exports.toList ++ m.dependencies.map (·.1)
  return [.ofExpr (.apply adapter [.thisRef {}, .lambda params m.body])]

end Detype
