import Std.Data.HashSet
import Std.Data.HashMap
import Detype.Syntax.Walk
import Detype.Scope.Declared

/-
**Imports and exports of types.**

An import that no value expression mentions goes away, and so does an export of a name that is only a
type.

* `Usage` — the variables that stand in value expressions.
* `TopNames` — what the top level declares as values and as types.
* `Program.eraseImports` — the pass.
-/

namespace Detype

abbrev Bindings := Std.HashSet Binding

/-! ### Use as a value -/

structure Usage where
  used : Bindings := {}
  /-- For each alias `import a = b.c` the variable that it needs. -/
  aliases : List (Binding × Binding) := []

abbrev UsageM := StateM Usage

namespace Usage

def use (id : Ident) : UsageM Unit := modify fun s => { s with used := s.used.insert id.binding }

def jsxRoot : JsxName → UsageM Unit
  | .ident id => if id.name.front.isLower then pure () else use id
  | .member _ obj _ => root obj
  | .namespaced .. => pure ()
where
  root : JsxName → UsageM Unit
    | .ident id => use id
    | .member _ obj _ => root obj
    | .namespaced .. => pure ()

def expr (w : Walker UsageM) : Expr → UsageM Expr
  | .ident id => do use id; return .ident id
  | .propShorthand id => do use id; return .propShorthand id
  | .propDefault s id v => do use id; return .propDefault s id (← w.expr v)
  | .jsxElement s o name attrs types selfClosing children closing => do
    jsxRoot name
    w.onExpr (.jsxElement s o name attrs types selfClosing children closing)
  | e => w.onExpr e

/-- An alias of an alias that is used is used. -/
def settle : UsageM Unit := modify fun s => { used := go s.aliases s.aliases.length s.used, aliases := [] }
where
  go (aliases : List (Binding × Binding)) : Nat → Bindings → Bindings
    | 0, used => used
    | n + 1, used =>
      go aliases n
        (aliases.foldl (fun u (a, b) => if u.contains a then u.insert b else u) used)

def stmt (w : Walker UsageM) : Stmt → UsageM Stmt
  | .exportNamed s specifiers source typeOnly attributes => do
    if !typeOnly && source.isNone then
      specifiers.forM fun
        | .named _ (.ident id) _ false => use id
        | _ => pure ()
    return .exportNamed s specifiers source typeOnly attributes
  | .importEquals s isExport typeOnly id target => do
    unless typeOnly do
      match target with
      | .entity (root :: _) =>
        if isExport then
          use root
          use id
        else modify fun s => { s with aliases := (id.binding, root.binding) :: s.aliases }
      | _ => pure ()
    return .importEquals s isExport typeOnly id target
  | .namespaceBlock s body => do
    let outer := (← get).aliases
    modify fun s => { s with aliases := [] }
    discard (w.onStmts body)
    settle
    modify fun s => { s with aliases := outer }
    return .namespaceBlock s body
  | s => w.onStmt s

def walker (w : Walker UsageM) : Walker UsageM :=
  { w.through with expr := expr w, stmt := stmt w }

/-- The variables that some statements use as values. -/
def of (body : List Stmt) (depth : Nat) : Bindings :=
  let act : UsageM Unit := do
    discard (body.mapM (Walker.fix walker depth).stmt)
    settle
  (act.run {}).2.used

end Usage

/-! ### What the top level declares -/

mutual

/-- Whether a declaration leaves something behind when types are gone. -/
def Stmt.hasValue : Stmt → Bool
  | .interfaceDecl .. | .typeAlias .. => false
  | .namespaceDecl _ _ _ _ (some body) => body.hasValue
  | .namespaceDecl _ _ _ _ none => true
  | .namespaceBlock _ body => Stmt.anyValue body
  | .exportDecl _ d => d.hasValue
  | .importEquals _ isExport typeOnly _ _ => isExport && !typeOnly
  | _ => true

def Stmt.anyValue : List Stmt → Bool
  | [] => false
  | s :: ss => s.hasValue || Stmt.anyValue ss

end

structure TopNames where
  values : Bindings := {}
  types : Bindings := {}

namespace TopNames

def addValues (t : TopNames) (ids : List Ident) : TopNames :=
  { t with values := t.values.insertMany (ids.map Ident.binding) }

def addType (t : TopNames) (id : Ident) : TopNames := { t with types := t.types.insert id.binding }

def add (t : TopNames) : Stmt → TopNames
  | .varDecl _ _ _ ds | .usingDecl _ _ ds => t.addValues (Declarator.bound ds)
  | .funcDecl id _ _ | .classDecl id _ _ | .enumDecl _ _ _ id _ => t.addValues [id]
  | .exportDefaultClass _ (some id) _ | .exportDefaultFunc _ (some id) _ => t.addValues [id]
  | .interfaceDecl _ id _ | .typeAlias _ id _ | .exportDefaultInterface _ id _ => t.addType id
  | .namespaceDecl s isAmbient isGlobal (.ident id) body =>
    if (Stmt.namespaceDecl s isAmbient isGlobal (.ident id) body).hasValue then t.addValues [id]
    else t.addType id
  | .importEquals _ _ typeOnly id _ => if typeOnly then t.addType id else t.addValues [id]
  | .importDecl _ specifiers _ typeOnly _ _ =>
    specifiers.foldl
      (fun t spec =>
        match spec with
        | .named _ id _ own => if own || typeOnly then t.addType id else t
        | spec => if typeOnly then t.addType spec.binding else t) t
  | .exportDecl _ d => t.add d
  | _ => t

def of (body : List Stmt) : TopNames := body.foldl add {}

/-- Whether a name is a type and nothing else. -/
def isPureType (t : TopNames) (id : Ident) : Bool :=
  t.types.contains id.binding && !t.values.contains id.binding

end TopNames

/-! ### The pass -/

namespace Imports

/-- The alias declarations of a block that are needed there. -/
def keepAlias (used : Bindings) : Stmt → Bool
  | .importEquals _ isExport typeOnly id _ => !typeOnly && (isExport || used.contains id.binding)
  | _ => true

def keepSpecifier (used : Bindings) (top : TopNames) (spec : ImportSpecifier) : Bool :=
  let needed := !top.values.contains spec.binding.binding && used.contains spec.binding.binding
  match spec with
  | .named _ _ _ typeOnly => !typeOnly && needed
  | _ => needed

def keepExport (top : TopNames) (source : Option Str) : ExportSpecifier → Bool
  | .named _ (.ident id) _ typeOnly => !typeOnly && (source.isSome || !top.isPureType id)
  | .named _ _ _ typeOnly => !typeOnly
  | .namespaceAll .. => true

/-- An item of the top level, if something of it stays. -/
def item (used : Bindings) (top : TopNames) : Stmt → Option Stmt
  | .importDecl s specifiers source typeOnly attributes phase =>
    if typeOnly then none
    else if specifiers.isEmpty then some (.importDecl s specifiers source typeOnly attributes phase)
    else
      match specifiers.filter (keepSpecifier used top) with
      | [] => none
      | kept => some (.importDecl s kept source typeOnly attributes phase)
  | .exportNamed s specifiers source typeOnly attributes =>
    if typeOnly then none
    else
      let kept := specifiers.filter (keepExport top source)
      if kept.isEmpty && (source.isNone || !specifiers.isEmpty) then none
      else some (.exportNamed s kept source typeOnly attributes)
  | .exportAll s source typeOnly attributes =>
    if typeOnly then none else some (.exportAll s source typeOnly attributes)
  | .exportDefaultInterface .. | .exportAsNamespace .. => none
  | .exportDefaultExpr s (.ident id) =>
    if top.isPureType id then none else some (.exportDefaultExpr s (.ident id))
  | s => if keepAlias used s then some s else none

/-- Inside a namespace only aliases can go. -/
def namespaceWalker (used : Bindings) (w : Walker Id) : Walker Id :=
  { w.through with
    stmt := fun
      | .namespaceBlock s body => .namespaceBlock s ((body.filter (keepAlias used)).map w.stmt)
      | s => w.onStmt s }

end Imports

/-- The program without imports and exports that only concern types. -/
def Program.eraseImports (p : Program) (depth : Nat) : Program :=
  let used := Usage.of p.body depth
  let top := TopNames.of p.body
  let body := p.body.filterMap (Imports.item used top)
  { p with body := body.map (Walker.fix (Imports.namespaceWalker used) depth).stmt }

end Detype
