import Detype.Erase.Enums
import Detype.Erase.Imports

/-
**Namespaces, enumerations and aliases.**

A namespace becomes a function that is called with its object; what it exports becomes a property of
that object, and so does every mention of an exported variable. Enumerations and `import a = b.c` go at
the same time, because inside a namespace they can be exported too.

* `Homes` — the namespaces that exported variables live in.
* `Lowering` — what the pass knows, and `Lowered` — what it has seen so far.
* `Lowering.items` — the statements of one level.
* `Program.lowerNamespaces` — the whole program.
-/

namespace Detype

/-- The namespace that each exported variable of a namespace lives in. -/
abbrev Homes := Std.HashMap Binding Ident

namespace Homes

/-- The names that a namespace holds as properties because of one of its items. -/
def exportsOf : Stmt → List Ident
  | .exportDecl _ (.varDecl _ _ _ ds) => Declarator.bound ds
  | .exportDecl _ (.enumDecl _ _ _ id _) => [id]
  | .exportDecl _ (.namespaceDecl _ _ _ (.ident id) _) => [id]
  | .importEquals _ true _ id _ => [id]
  | _ => []

def collector (w : Walker (StateM Homes)) : Walker (StateM Homes) :=
  { w.through with
    stmt := fun s => do
      match s with
      | .namespaceDecl _ _ _ (.ident home) (some (.namespaceBlock _ items)) =>
        for id in items.flatMap exportsOf do
          modify fun (h : Homes) => Std.HashMap.insert h id.binding home
      | .namespaceDecl _ _ _ (.ident home) (some (.namespaceDecl _ _ _ (.ident id) _)) =>
        modify fun (h : Homes) => Std.HashMap.insert h id.binding home
      | _ => pure ()
      w.onStmt s }

def ofProgram (body : List Stmt) (depth : Nat) : Homes :=
  ((body.mapM (Walker.fix collector depth).stmt).run {}).2

end Homes

/-- How `import x = require("m")` and `export = e` are handled. -/
inductive AssignmentForm where
  /-- They stay for the module form to deal with. -/
  | preserved
  /-- They become calls of `require` and an assignment to `module.exports`. -/
  | classic
deriving DecidableEq

structure Lowering where
  enums : EnumTable
  homes : Homes
  /-- Variables that some statement exports by name. -/
  exported : Bindings
  assignments : AssignmentForm

structure Lowered where
  /-- The declarations of functions, classes, enumerations and namespaces so far. -/
  seen : Bindings := {}
  /-- Namespaces of the current level that need a `var`. -/
  vars : List Ident := []
  exportedVars : List Ident := []
  /-- The namespace whose items come next. -/
  home : Option Ident := none
  /-- Whether an initializer of an enumeration is being read, in which accesses to members stay. -/
  inInitializer : Bool := false

abbrev Lower := StateM Lowered

namespace Lowering

def note (id : Ident) : Lower Bool := do
  let s ← get
  set { s with seen := s.seen.insert id.binding }
  return !s.seen.contains id.binding

/-- A variable that lives in a namespace, as a property of it. -/
def housed? (env : Lowering) (id : Ident) : Option Expr :=
  (env.homes[id.binding]?).map fun home => .dot (.ident home.unplaced) id.name id.span

/-! ### Expressions and patterns -/

def expr (env : Lowering) (w : Walker Lower) (e : Expr) : Lower Expr := do
  let inlined := if (← get).inInitializer then none else env.enums.inlined? e
  match inlined with
  | some v => return v
  | none =>
    match e with
    | .ident id => return (env.housed? id).getD (.ident id)
    | .propShorthand id =>
      match env.housed? id with
      | some v => return .propValue (.key id.name id.span) v
      | none => return .propShorthand id
    | .update s op before (.member t obj key) =>
      return .update s op before (.member t (← w.expr obj) (← w.expr key))
    | e => w.onExpr e

def pat (env : Lowering) (w : Walker Lower) : Pat → Lower Pat
  | .ident id =>
    match env.housed? id with
    | some e => return .expr e
    | none => return .ident id
  | .propShorthand s id d => do
    let d ← w.optExpr d
    match env.housed? id, d with
    | none, d => return .propShorthand s id d
    | some e, none => return .propValue (.key id.name id.span) (.expr e)
    | some e, some d => return .propValue (.key id.name id.span) (.assign s (.expr e) d)
  | .expr (.member s obj key) => return .expr (.member s (← w.expr obj) (← w.expr key))
  | p => w.onPat p

/-! ### Enumerations -/

/-- The statement that fills in a member. -/
def enumMember (env : Lowering) (w : Walker Lower) (id : Ident) : Stmt → Lower (List Stmt)
  | .enumMember span key _ => do
    let value ← match env.enums.value id key with
      | .computed e => do
        let outer := (← get).inInitializer
        modify ({ · with inInitializer := true })
        let e ← w.expr e
        modify ({ · with inInitializer := outer })
        pure (.computed e)
      | v => pure v
    return [EnumTable.fill id span (EnumTable.nameOf key) value]
  | _ => return []

/-- The function that fills the object of an enumeration. -/
def enumFunction (env : Lowering) (w : Walker Lower) (id : Ident) (members : List Stmt) (returns : Bool) :
    Lower Expr := do
  let body := (← members.mapM (env.enumMember w id)).flatten
  return .lambda [id] (body ++ if returns then [.result (.ident id)] else [])

/-- The object that a namespace or a further part of an enumeration works on. -/
def objectOf (id : Ident) : Option Ident → Expr
  | none => .orElse (.ident id) (.setTo (.ident id) (.object {} []))
  | some home =>
    let place := Expr.dot (.ident home.unplaced) id.name id.span
    .orElse place (.setTo place (.object {} []))

/-- An enumeration; `home` is the namespace that exports it. -/
def enumStmt (env : Lowering) (w : Walker Lower) (span : Span) (isConst isExport : Bool) (id : Ident)
    (home : Option Ident) (members : List Stmt) : Lower (Option Stmt) := do
  let removable := isConst && !isExport && home.isNone && !env.exported.contains id.binding
  let members := if removable then members.filter (!env.enums.isKnownMember id ·) else members
  if removable && members.isEmpty then return none
  let isFirst ← note id
  if home.isSome then
    return some (.expr span (.apply (← env.enumFunction w id members false) [objectOf id home]))
  else if isFirst then
    let atTop := id.mark == topLevelMark
    let start : Expr := if atTop && !isExport then .orElse (.ident id) (.object {} []) else .object {} []
    let value := Expr.applyPure (← env.enumFunction w id members true) [start]
    return some (.varDecl span (if atTop then .var else .lexical) false [⟨span, .ident id, some value, false, none⟩])
  else return some (.expr span (.apply (← env.enumFunction w id members false) [.ident id]))

/-! ### Statements -/

/-- The path that an alias stands for. -/
def entity : List Ident → Expr
  | [] => .undefinedValue
  | root :: rest =>
    rest.foldl (fun e id => .member ⟨e.span.lo, id.span.hi⟩ e (.keyName id)) (.ident root)

/-- The assignments that give an exported variable of a namespace its value. -/
def propertyValues (span : Span) (ds : List Declarator) : List Stmt :=
  let parts := ds.filterMap fun d => d.init.map fun v => Expr.assign d.span .assign d.name v
  match parts with
  | [] => []
  | parts => [.expr span (.sequence parts)]

/-- A namespace as a call; `home` is the namespace that exports it. -/
def namespaceCall (span : Span) (id : Ident) (home : Option Ident) (bodySpan : Span) (body : List Stmt) :
    Stmt :=
  .expr span (.apply (.lambda [id] body bodySpan) [objectOf id home])

/-- An item of a namespace that exports something. -/
def exportedProperty (home : Ident) (id : Ident) : Stmt :=
  .ofExpr (.setTo (.dot (.ident home.unplaced) id.name id.span) (.ident id))

/-- One statement; `home` is the namespace it stands in, if it stands directly in one. -/
def item (env : Lowering) (w : Walker Lower) (home : Option Ident) : Stmt → Lower (List Stmt)
  | .enumDecl s _ isConst id ms => return (← env.enumStmt w s isConst false id none ms).toList
  | .namespaceDecl s _ _ (.ident id) body => do
    if ← note id then modify fun st => { st with vars := st.vars ++ [id] }
    let (span, body) ← namespaceBody id body
    return [namespaceCall s id none span body]
  | .exportDecl s d =>
    match home, d with
    | none, .enumDecl t _ isConst id ms => do
      match ← env.enumStmt w t isConst true id none ms with
      | some (.varDecl t kind isAmbient ds) => return [.exportDecl s (.varDecl t kind isAmbient ds)]
      | other => return other.toList
    | some home, .enumDecl t _ isConst id ms => return (← env.enumStmt w t isConst true id (some home) ms).toList
    | none, .namespaceDecl t _ _ (.ident id) body => do
      if ← note id then modify fun st => { st with exportedVars := st.exportedVars ++ [id] }
      let (span, body) ← namespaceBody id body
      return [namespaceCall t id none span body]
    | some home, .namespaceDecl t _ _ (.ident id) body => do
      discard (note id)
      let (span, body) ← namespaceBody id body
      return [namespaceCall t id (some home) span body]
    | some _, .varDecl t _ isAmbient ds => do
      if isAmbient then return []
      let ds ← ds.mapM w.onDeclarator
      return propertyValues t ds
    | some home, .funcDecl id isAmbient f => do
      discard (note id)
      return [← w.stmt (.funcDecl id isAmbient f), exportedProperty home id]
    | some home, .classDecl id isAmbient c => do
      discard (note id)
      return [← w.stmt (.classDecl id isAmbient c), exportedProperty home id]
    | _, d => do
      match d with
      | .funcDecl id _ _ | .classDecl id _ _ => discard (note id)
      | _ => pure ()
      return [.exportDecl s (← w.stmt d)]
  | .importEquals s isExport typeOnly id target => do
    let value? : Option Expr := match target with
      | .entity names => some (entity names)
      | .external _ source =>
        if env.assignments == .classic then some (.apply (.global "require") [.str source]) else none
    match value? with
    | none => return [.importEquals s isExport typeOnly id target]
    | some v =>
      let v ← w.expr v
      match home, isExport with
      | some home, true => return [.expr s (.setTo (.dot (.ident home.unplaced) id.name id.span) v)]
      | _, isExport =>
        let d := Stmt.declare .constant id (some v) s
        return [if isExport then .exportDecl s d else d]
  | .exportAssign s e => do
    let e ← w.expr e
    if env.assignments == .classic then
      return [.expr s (.setTo (.dot (.global "module") "exports") e)]
    else return [.exportAssign s e]
  | .exportDefaultClass s id c => do
    id.forM fun id => discard (note id)
    return [← w.stmt (.exportDefaultClass s id c)]
  | .exportDefaultFunc s id f => do
    id.forM fun id => discard (note id)
    return [← w.stmt (.exportDefaultFunc s id f)]
  | .funcDecl id isAmbient f => do
    discard (note id)
    return [← w.stmt (.funcDecl id isAmbient f)]
  | .classDecl id isAmbient c => do
    discard (note id)
    return [← w.stmt (.classDecl id isAmbient c)]
  | s => return [← w.stmt s]
where
  /-- The statements of a namespace, with the variables that its own namespaces need. -/
  namespaceBody (id : Ident) : Option Stmt → Lower (Span × List Stmt)
    | some (.namespaceBlock span items) => do
      let outer := (← get).vars
      modify fun st => { st with vars := [], home := some id }
      let body ← w.stmt (.namespaceBlock span items)
      let inner := (← get).vars
      modify fun st => { st with vars := outer }
      let extra := if inner.isEmpty then [] else [Stmt.declareAll (inner.map Ident.unplaced)]
      match body with
      | .namespaceBlock span items => return (span, items ++ extra)
      | s => return (span, s :: extra)
    | some (.namespaceDecl s isAmbient isGlobal name body) => do
      modify fun st => { st with home := some id }
      match ← w.stmt (.namespaceBlock {} [.exportDecl s (.namespaceDecl s isAmbient isGlobal name body)]) with
      | .namespaceBlock _ items => return ({}, items)
      | s => return ({}, [s])
    | _ => return ({}, [])

/-- Statements of one level. -/
def items (env : Lowering) (w : Walker Lower) (ss : List Stmt) : Lower (List Stmt) := do
  return (← ss.mapM (env.item w none)).flatten

def stmt (env : Lowering) (w : Walker Lower) : Stmt → Lower Stmt
  | .namespaceBlock span body => do
    let home := (← get).home
    modify fun st => { st with home := none }
    return .namespaceBlock span (← body.mapM (env.item w home)).flatten
  | .enumDecl s isAmbient isConst id ms => do
    match ← env.item w none (.enumDecl s isAmbient isConst id ms) with
    | [s] => return s
    | _ => return .empty {}
  | s => w.onStmt s

/-- One step of the pass. -/
def walker (env : Lowering) (w : Walker Lower) : Walker Lower :=
  { expr := env.expr w, pat := env.pat w, stmt := env.stmt w, stmts := env.items w, func := w.onFunc
    cls := w.onClass }

/-- The variables that statements export by name. -/
def exportedNames (body : List Stmt) : Bindings :=
  .ofList (body.flatMap fun
    | .exportNamed _ specifiers none _ _ => specifiers.filterMap fun
      | .named _ (.ident id) _ _ => some id.binding
      | _ => none
    | .exportDefaultExpr _ (.ident id) | .exportAssign _ (.ident id) => [id.binding]
    | _ => [])

end Lowering

/-- The program without namespaces, enumerations and aliases. -/
def Program.lowerNamespaces (p : Program) (assignments : AssignmentForm) (depth : Nat) : Program :=
  let env : Lowering :=
    { enums := EnumTable.ofProgram p.body depth, homes := Homes.ofProgram p.body depth
      exported := Lowering.exportedNames p.body, assignments }
  let w := Walker.fix env.walker depth
  let (body, s) := (env.items w p.body).run {}
  let vars := if s.vars.isEmpty then [] else [Stmt.declareAll (s.vars.map Ident.unplaced)]
  let exported := if s.exportedVars.isEmpty then []
    else [Stmt.exportDecl {} (.declareAll (s.exportedVars.map Ident.unplaced))]
  { p with body := body ++ vars ++ exported }

end Detype
