import Std.Data.HashMap
import Std.Data.HashSet
import Detype.Modules.Links
import Detype.Modules.References

/-
**Modules registered with a loader that links them.**

The loader gets a function that declares the variables of the module, tells how to set them when a
dependency has run, and runs the module's own statements. A variable that is exported is announced to the
loader at every assignment.

* `SystemEnv` — the names that the loader passes and the exported variables.
* `SystemEnv.walker` — one step of the pass that announces assignments.
* `SystemModule.add` — takes one item in.
* `SystemModule.hoist` — makes a top-level variable one of the outer function.
* `systemModule`, `systemScript` — a module and a script in this form.
-/

namespace Detype

/-- The names under which each variable is exported, in order. -/
abbrev ExportNames := Std.HashMap Binding (List String)

structure SystemEnv where
  /-- The function that announces a value. -/
  announce : Ident
  /-- The object that stands for the module. -/
  context : Ident
  names : ExportNames

namespace SystemEnv

/-- A value announced under one name. -/
def announced (env : SystemEnv) (name : String) (e : Expr) (span : Span := {}) : Expr :=
  .call span (.ident env.announce) [.text name, e] []

/-- A value announced under all names of a variable. -/
def announcedAll (env : SystemEnv) (names : List String) (e : Expr) : Expr :=
  names.foldl (fun e name => env.announced name e) e

def namesOf (env : SystemEnv) (id : Ident) : List String := env.names.getD id.binding []

/-- An assignment, announced where its target is exported. -/
def assignment (env : SystemEnv) (s : Span) (op : AssignOp) (target : Pat) (value : Expr) : Expr :=
  let e := Expr.assign s op target value
  match target with
  | .ident id => env.announcedAll (env.namesOf id) e
  | .array .. | .object .. =>
    let calls := target.bound.flatMap fun id =>
      (env.namesOf id).map fun name => env.announced name (.ident id.unplaced)
    if calls.isEmpty then e else .seq {} (e :: calls)
  | _ => e

/-- A step up or down, announced where its variable is exported; before a step that gives the old value
the new one is computed apart. -/
def step (env : SystemEnv) (s : Span) (op : UpdateOp) (before : Bool) (arg : Expr) : Expr :=
  let e := Expr.update s op before arg
  match arg with
  | .ident id =>
    match env.namesOf id with
    | [] => e
    | names =>
      if before then env.announcedAll names e
      else
        let new := Expr.binary {} .add (.unary {} .plus (.ident id)) (.ofNat 1)
        .seq {} [env.announcedAll names new, e]
  | _ => e

def mention (env : SystemEnv) (id : Ident) : Expr :=
  if id.name == "__moduleName" && id.mark == globalMark then .dot (.ident env.context) "id" else .ident id

def expr (env : SystemEnv) (w : Walker Id) (e : Expr) : Expr :=
  match w.onExpr e with
  | .ident id => env.mention id
  | .propShorthand id => .propValue (.keyName { id with mark := unmarked }) (env.mention id)
  | .assign s op target value => env.assignment s op target value
  | .update s op before arg => env.step s op before arg
  | .call s (.importRef _ _) args types => .call s (.dot (.ident env.context) "import") args types
  | .metaProp _ .importMeta => .dot (.ident env.context) "meta"
  | e => e

/-- One step of the pass. -/
def walker (env : SystemEnv) (w : Walker Id) : Walker Id := { w.through with expr := env.expr w }

def announcing (env : SystemEnv) (depth : Nat) : Walker Id := Walker.fix env.walker depth

/-- The statement that announces several values at once. -/
def announcement (env : SystemEnv) : List (String × Expr) → List Stmt
  | [] => []
  | [(name, e)] => [.ofExpr (env.announced name e)]
  | entries =>
    let props := entries.map fun (name, e) =>
      .propValue (if Modules.isName name then .key name else .text name) e
    [.ofExpr (.apply (.ident env.announce) [.object {} props])]

end SystemEnv

/-! ### Dependencies -/

/-- A dependency: what is done with it once it has run. -/
structure SystemDependency where
  source : Str
  setters : List Stmt := []
  reexports : List (String × Expr) := []
  hasStar : Bool := false

namespace SystemDependency

/-- The variable that holds the dependency while its values are taken. -/
def param (source : Str) : Ident := ⟨Modules.localName source.text, {}, unmarked⟩

/-- Adds to a dependency; sources keep the order of their first mention. -/
def add (ds : List SystemDependency) (d : SystemDependency) : List SystemDependency :=
  if ds.any (·.source.value == d.source.value) then
    ds.map fun e =>
      if e.source.value == d.source.value then
        { e with
          setters := e.setters ++ d.setters, reexports := e.reexports ++ d.reexports
          hasStar := e.hasStar || d.hasStar }
      else e
  else ds ++ [d]

def taken (source : Str) : Expr := .ident (param source)

/-- The assignment that sets an imported variable. -/
def setter (source : Str) : ImportSpecifier → Stmt
  | .default s id => .ofExpr (.assign s .assign (.ident id) (.dot (taken source) "default"))
  | .namespaceAll s id => .ofExpr (.assign s .assign (.ident id) (taken source))
  | .named s id imported _ =>
    let key : Expr := match imported with
      | some (.ident name) => .key name.name name.span
      | some (.str v) => .keyComputed {} (.str { v with raw := none })
      | none => .key id.name id.span
    .ofExpr (.assign s .assign (.ident id) (.member {} (taken source) key))

def reexport (source : Str) : ExportSpecifier → String × Expr
  | .namespaceAll _ name => (name.text, taken source)
  | .named _ orig exported _ =>
    let key : Expr := match orig with
      | .ident name => .key name.name name.span
      | .str v => .keyComputed {} (.str { v with raw := none })
    ((exported.getD orig).text, .member {} (taken source) key)

/-- The statements that export again all of a dependency but its default. -/
def starStmts (env : SystemEnv) (d : SystemDependency) : List Stmt :=
  let object : Ident := ⟨"exportObj", {}, unmarked⟩
  let key : Ident := ⟨"key", {}, unmarked⟩
  let differs (name : String) : Expr := .binary {} .notEqEq (.ident key) (.text name)
  let copy := Stmt.ofExpr (.setTo (.index (.ident object) (.ident key)) (.index (taken d.source) (.ident key)))
  [.declare .var object (some (.object {} [])),
   .forIn {} (.declare .var key none) (taken d.source)
     (.block ⟨{}, [.ifStmt {} (.binary {} .and (differs "default") (differs "__esModule"))
       (.block ⟨{}, [copy]⟩) none]⟩)] ++
  d.reexports.map (fun (name, e) => .ofExpr (.setTo ((Expr.ident object).property name) e)) ++
  [.ofExpr (.apply (.ident env.announce) [.ident object])]

/-- The function that the loader calls once the dependency has run. -/
def setterFunction (env : SystemEnv) (d : SystemDependency) : Expr :=
  .lambda [param d.source]
    (d.setters ++ if d.hasStar then d.starStmts env else env.announcement d.reexports)

end SystemDependency

/-! ### Items -/

/-- A module taken apart for the loader. -/
structure SystemModule where
  vars : List Ident := []
  dependencies : List SystemDependency := []
  /-- Values that are announced before the module runs. -/
  early : List (String × Expr) := []
  functions : List Stmt := []
  execute : List Stmt := []
  names : ExportNames := {}
  imported : Std.HashSet Binding := {}

namespace SystemModule

def addName (m : SystemModule) (id : Ident) (name : String) : SystemModule :=
  { m with names := m.names.insert id.binding (m.names.getD id.binding [] ++ [name]) }

def addNames (m : SystemModule) (ids : List Ident) : SystemModule :=
  ids.foldl (fun m id => m.addName id id.name) m

def run (m : SystemModule) (s : Stmt) : SystemModule := { m with execute := m.execute ++ [s] }

def announceEarly (m : SystemModule) (name : String) (e : Expr) : SystemModule :=
  { m with early := m.early ++ [(name, e)] }

def depend (m : SystemModule) (d : SystemDependency) : SystemModule :=
  { m with dependencies := SystemDependency.add m.dependencies d }

/-- A class as the value of a variable. -/
def declareClass (m : SystemModule) (id : Ident) (c : Class) : SystemModule :=
  { m with vars := m.vars ++ [id] }.run (.ofExpr (.setTo (.ident id) (.classExpr (some id) c)))

def declareFunction (m : SystemModule) (id : Ident) (f : Func) : SystemModule :=
  { m with functions := m.functions ++ [.funcDecl id false f] }

/-- An export of a variable by name: a function is announced early, an import while running. -/
def exportLocal (functions : Std.HashSet Binding) (m : SystemModule) (announce : Ident) :
    ExportSpecifier → SystemModule
  | .named _ (.ident id) exported _ =>
    let name := (exported.getD (.ident id)).text
    let m := m.addName id name
    let m := if functions.contains id.binding then m.announceEarly name (.ident id) else m
    if m.imported.contains id.binding then
      m.run (.ofExpr (.apply (.ident announce) [.text name, .ident id]))
    else m
  | _ => m

/-- Takes one item in. -/
def add (functions : Std.HashSet Binding) (announce : Ident) (m : SystemModule) : Stmt → SystemModule
  | .importDecl _ specifiers source _ _ _ =>
    let ids := specifiers.map ImportSpecifier.binding
    let m := { m with vars := m.vars ++ ids, imported := m.imported.insertMany (ids.map Ident.binding) }
    m.depend { source, setters := specifiers.map (SystemDependency.setter source) }
  | .exportNamed _ specifiers (some source) _ _ =>
    m.depend { source, reexports := specifiers.map (SystemDependency.reexport source) }
  | .exportNamed _ specifiers none _ _ =>
    specifiers.foldl (fun m spec => exportLocal functions m announce spec) m
  | .exportAll _ source _ _ => m.depend { source, hasStar := true }
  | .exportDecl _ (.classDecl id _ c) =>
    ((m.announceEarly id.name .undefinedValue).declareClass id c).addName id id.name
  | .exportDecl _ (.funcDecl id _ f) =>
    ((m.announceEarly id.name (.ident id)).declareFunction id f).addName id id.name
  | .exportDecl _ d => (m.addNames (ModuleParts.declared d)).run d
  | .exportDefaultClass _ (some id) c =>
    ((m.announceEarly "default" .undefinedValue).declareClass id c).addName id "default"
  | .exportDefaultClass _ none c => m.announceEarly "default" (.classExpr none c)
  | .exportDefaultFunc _ (some id) f =>
    ((m.announceEarly "default" (.ident id)).declareFunction id f).addName id "default"
  | .exportDefaultFunc _ none f => m.announceEarly "default" (.func none f)
  | .exportDefaultExpr s e => m.run (.ofExpr (.call s (.ident announce) [.text "default", e] []))
  | .classDecl id _ c => m.declareClass id c
  | .funcDecl id _ f => m.declareFunction id f
  | .importEquals .. | .exportAssign .. | .exportAsNamespace .. => m
  | s => m.run s

/-- The functions that the top level declares. -/
def topFunctions (body : List Stmt) : Std.HashSet Binding :=
  .ofList (body.filterMap fun
    | .funcDecl id _ _ | .exportDecl _ (.funcDecl id _ _) | .exportDefaultFunc _ (some id) _ => some id.binding
    | _ => none)

/-! ### Variables -/

/-- Declares the variables of a declarator in the outer function; what has no value yet is announced so. -/
def declareVars (env : SystemEnv) (m : SystemModule) (d : Declarator) : SystemModule :=
  d.name.bound.foldl (fun m id =>
    let m := if d.init.isSome then m
      else (env.namesOf id).foldl (fun m name => m.announceEarly name .undefinedValue) m
    { m with vars := m.vars ++ [id.unplaced] }) m

/-- The assignments that remain of a declaration. -/
def assignments (env : SystemEnv) (depth : Nat) (ds : List Declarator) : Option Expr :=
  let parts := ds.filterMap fun d =>
    d.init.map fun v => (env.announcing depth).expr (.assign {} .assign d.name v)
  match parts with
  | [] => none
  | parts => some (.sequence parts)

/-- Makes the variables of a top-level statement variables of the outer function. -/
def hoist (env : SystemEnv) (depth : Nat) (m : SystemModule) : Stmt → SystemModule × Option Stmt
  | .varDecl _ _ _ ds => (ds.foldl (declareVars env) m, (assignments env depth ds).map (Stmt.ofExpr ·))
  | .forLoop s (some (.varDecl t kind isAmbient ds)) test update body =>
    if kind == .var then
      let init := (assignments env depth ds).map fun e => Stmt.expr {} e
      (ds.foldl (declareVars env) m, some (.forLoop s init test update body))
    else (m, some (.forLoop s (some (.varDecl t kind isAmbient ds)) test update body))
  | .forIn s (.varDecl t kind isAmbient ds) right body =>
    match kind, ds with
    | .var, d :: _ => (declareVars env m d, some (.forIn s (.forTarget d.name) right body))
    | _, ds => (m, some (.forIn s (.varDecl t kind isAmbient ds) right body))
  | .forOf s isAwait (.varDecl t kind isAmbient ds) right body =>
    match kind, ds with
    | .var, d :: _ => (declareVars env m d, some (.forOf s isAwait (.forTarget d.name) right body))
    | _, ds => (m, some (.forOf s isAwait (.varDecl t kind isAmbient ds) right body))
  | s => (m, some s)

end SystemModule

/-! ### Waiting -/

/-- A walk that notes what waits outside functions and methods. -/
def waitFinder (w : Walker (StateM Bool)) : Walker (StateM Bool) :=
  { w.through with
    expr := fun
      | .await s e => do set true; w.onExpr (.await s e)
      | e => w.onExpr e
    stmt := fun
      | .forOf s true l r body => do set true; w.onStmt (.forOf s true l r body)
      | s => w.onStmt s
    func := pure }

/-- Whether some statements wait while the module runs. -/
def waits (body : List Stmt) (depth : Nat) : Bool :=
  ((body.mapM (Walker.fix waitFinder depth).stmt).run false).2

/-! ### The form -/

/-- A module for a loader that links. -/
def systemModule (depth : Nat) (body : List Stmt) : Fresh (List Stmt) := do
  let announce ← Fresh.ident "_export"
  let context ← Fresh.ident "_context"
  let body := spellRefs {} depth body
  let m := body.foldl (SystemModule.add (SystemModule.topFunctions body) announce) {}
  let env : SystemEnv := { announce, context, names := m.names }
  let announcing := env.announcing depth
  let functions : List Stmt := m.functions.map announcing.stmt
  let (m, execute) := m.execute.foldl (fun (m, done) s =>
    let (m, s) := m.hoist env depth (announcing.stmt s)
    (m, done ++ s.toList)) (m, [])
  let run := Expr.func none
    { span := {}, params := [], body := some ⟨{}, execute⟩, types := [], isGenerator := false, isAsync := waits execute depth }
  let parts := Expr.object {}
    [.propValue (.key "setters") (.array {} (m.dependencies.map (·.setterFunction env))),
     .propValue (.key "execute") run]
  let vars := if m.vars.isEmpty then [] else [Stmt.declareAll m.vars]
  let inside := [Stmt.strictMode] ++ vars ++ functions ++ env.announcement m.early ++ [Stmt.result parts]
  let paths := m.dependencies.map fun d => Expr.str { value := d.source.value }
  let register := Expr.dot (.ident ⟨"System", {}, unmarked⟩) "register"
  return [.ofExpr (.apply register [.array {} paths, .lambda [announce, context] inside])]

/-- A script for the same loader: nothing is exported. -/
def systemScript (depth : Nat) (body : List Stmt) : Fresh (List Stmt) := do
  let announce ← Fresh.ident "_export"
  let context ← Fresh.ident "_context"
  let env : SystemEnv := { announce, context, names := {} }
  return body.map (env.announcing depth).stmt

end Detype
