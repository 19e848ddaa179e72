import Detype.Syntax.Walk
import Detype.Syntax.Build
import Detype.Scope.Declared
import Detype.Scope.Fresh
import Detype.Prelude.Functions
import Detype.Options

/-
**What a module takes and gives.**

The imports and exports of a module, gathered from its items. An item that declares something leaves its
declaration behind; the others leave nothing.

* `LinkItem` — one thing that is taken from another module.
* `Dependency` — another module with all that is taken from it.
* `ExportEntry` — a name of this module and what it stands for.
* `ModuleParts.of` — a module taken apart.
* `Dependency.needs` — the added functions that the bridge to a dependency takes.
-/

namespace Detype

/-- One thing that is taken from another module. -/
inductive LinkItem where
  | importNamed (imported : String) (binding : Ident)
  | importDefault (binding : Ident)
  | importAll (binding : Ident)
  /-- The module itself, under a name. -/
  | importWhole (binding : Ident)
  | exportNamed (orig exported : ExportName)
  | exportDefault (orig exported : ExportName)
  | exportAll (exported : ExportName)
  | exportStar

/-- Another module with all that is taken from it. -/
structure Dependency where
  source : Str
  items : List LinkItem := []

namespace LinkItem

def ofImport : ImportSpecifier → LinkItem
  | .default _ id => importDefault id
  | .namespaceAll _ id => importAll id
  | .named _ id imported _ =>
    match (imported.map ExportName.text).getD id.name with
    | "default" => importDefault id
    | name => importNamed name id

def ofExport : ExportSpecifier → LinkItem
  | .namespaceAll _ name => exportAll name
  | .named _ orig exported _ =>
    let exported := exported.getD orig
    if orig.text == "default" then exportDefault orig exported else exportNamed orig exported

def isNamed : LinkItem → Bool
  | importNamed .. | exportNamed .. => true
  | _ => false

def isDefault : LinkItem → Bool
  | importDefault .. | exportDefault .. => true
  | _ => false

def isAll : LinkItem → Bool
  | importAll .. | exportAll .. => true
  | _ => false

def isWhole : LinkItem → Bool
  | importWhole .. => true
  | _ => false

def isStar : LinkItem → Bool
  | exportStar => true
  | _ => false

/-- Whether the item mentions the variable that holds the module. -/
def mentionsModule : LinkItem → Bool
  | exportStar => false
  | _ => true

end LinkItem

namespace Dependency

def hasNamed (d : Dependency) : Bool := d.items.any LinkItem.isNamed
def hasStar (d : Dependency) : Bool := d.items.any LinkItem.isStar
def hasWhole (d : Dependency) : Bool := d.items.any LinkItem.isWhole

/-- Whether the default export or all exports are asked for. -/
def isBridged (d : Dependency) : Bool := d.items.any fun i => i.isDefault || i.isAll

/-- Whether the bridge has to give all exports. -/
def wantsAll (d : Dependency) : Bool :=
  d.items.any LinkItem.isAll || (d.hasNamed && d.items.any LinkItem.isDefault)

/-- The function that bridges to what `require` gives, if there is one. -/
def bridge? (d : Dependency) : Interop → Option PreludeFunction
  | .wrapped =>
    if !d.isBridged then none else if d.wantsAll then some .requireWildcard else some .requireDefault
  | .node => if d.wantsAll then some .requireWildcard else none
  | .none => none

/-- The added functions that a dependency takes. -/
def needs (d : Dependency) (interop : Interop) : List PreludeFunction :=
  (d.bridge? interop).toList ++ if d.hasStar then [.exportStar] else []

/-- What `require` gave, after the bridge. -/
def bridged (d : Dependency) (interop : Interop) (e : Expr) : Expr :=
  match d.bridge? interop with
  | none => e
  | some f => .applyPure (.ident f.ident) (e :: if interop == .node then [.bool {} true] else [])

/-- Adds what one item takes from a source; sources keep the order of their first mention. -/
def add (ds : List Dependency) (source : Str) (items : List LinkItem) : List Dependency :=
  if ds.any (·.source.value == source.value) then
    ds.map fun d => if d.source.value == source.value then { d with items := d.items ++ items } else d
  else ds ++ [⟨source, items⟩]

end Dependency

/-- A name that this module exports and the expression that it stands for. -/
structure ExportEntry where
  name : String
  nameSpan : Span
  value : Expr

/-- A name given twice means what it was given last. -/
def ExportEntry.add (es : List ExportEntry) (e : ExportEntry) : List ExportEntry :=
  es.filter (·.name != e.name) ++ [e]

/-- A module taken apart. -/
structure ModuleParts where
  /-- Statements, with exported declarations among them. -/
  body : List Stmt := []
  dependencies : List Dependency := []
  exports : List ExportEntry := []
  /-- The value that the module is replaced by. -/
  assigned : Option Expr := none
  /-- Whether the module had an item that links it to others. -/
  isLinked : Bool := false

namespace ModuleParts

def link (m : ModuleParts) (source : Str) (items : List LinkItem) : ModuleParts :=
  { m with dependencies := Dependency.add m.dependencies source items, isLinked := true }

def give (m : ModuleParts) (name : String) (nameSpan : Span) (id : Ident) : ModuleParts :=
  { m with exports := ExportEntry.add m.exports ⟨name, nameSpan, .ident id⟩, isLinked := true }

def keep (m : ModuleParts) (s : Stmt) : ModuleParts := { m with body := m.body ++ [s] }

/-- The names that a declaration declares. -/
def declared : Stmt → List Ident
  | .varDecl _ _ _ ds | .usingDecl _ _ ds => Declarator.bound ds
  | .classDecl id _ _ | .funcDecl id _ _ => [id]
  | _ => []

def giveSpecifier (m : ModuleParts) : ExportSpecifier → ModuleParts
  | .named _ (.ident id) exported _ =>
    let name := exported.getD (.ident id)
    m.give name.text name.span id
  | _ => m

/-- Takes one item in. -/
def add (m : ModuleParts) : Stmt → Fresh ModuleParts
  | .importDecl _ specifiers source _ _ _ => return m.link source (specifiers.map .ofImport)
  | .exportNamed _ specifiers (some source) _ _ => return m.link source (specifiers.map .ofExport)
  | .exportNamed _ specifiers none _ _ =>
    return specifiers.foldl giveSpecifier { m with isLinked := true }
  | .exportAll _ source _ _ => return m.link source [.exportStar]
  | .exportDecl _ d =>
    let given := (declared d).foldl (fun (m : ModuleParts) id => m.give id.name id.span id) m
    return { given with isLinked := true }.keep d
  | .exportDefaultClass s id c => do
    let id ← id.elim (Fresh.ident "_default" s) pure
    return (m.give "default" s id).keep (.classDecl id false c)
  | .exportDefaultFunc s id f => do
    let id ← id.elim (Fresh.ident "_default" s) pure
    return (m.give "default" s id).keep (.funcDecl id false f)
  | .exportDefaultExpr s e => do
    let id ← Fresh.ident "_default" s
    return (m.give "default" s id).keep (.declare .constant id (some e))
  | .importEquals _ isExport _ id (.external _ source) =>
    let m := m.link source [.importWhole id]
    return if isExport then m.give id.name id.span id else m
  | .exportAssign _ e => return { m with assigned := m.assigned <|> some e, isLinked := true }
  | .empty _ => return m
  | s => return m.keep s

/-- A module taken apart. -/
def of (body : List Stmt) : Fresh ModuleParts := body.foldlM add {}

end ModuleParts

/-- The directives with the one that makes the code strict. -/
def withStrictMode (directives : List Stmt) : List Stmt :=
  let isStrict : Stmt → Bool
    | .expr _ (.str s) => s.text == "use strict"
    | _ => false
  if directives.any isStrict then directives else directives ++ [.strictMode]

end Detype
