import Detype.Syntax.AfterSuper
import Detype.Scope.Rename
import Detype.Decorators.Members

/-
**Decorators of the language.**

The entries of a class are applied in a static block at its start. What the decorators of a class itself
give is a variable of its own, which every mention of the class outside means from then on. Static fields
of such a class have to be made on what the decorators gave, so they move to a class around it.

* `Decorated` — the variables of a class with decorators.
* `Standard.closed` — a class with the application of its entries.
* `Standard.decorated` — a class with decorators of its own.
* `Program.applyDecorators` — the pass.
-/

namespace Detype

/-- The variables of a class with decorators of its own. -/
structure Decorated where
  /-- What the decorators give. -/
  result : Ident
  /-- The function that finishes the class. -/
  ready : Ident
  decorators : List Expr
  /-- The variable that holds the parent. -/
  parent : Option Ident := none

namespace Standard

/-- The class without members in front of one that makes its instances ready. -/
def constructorFor (c : Class) : Member :=
  let args : Ident := ⟨"args", {}, unmarked⟩
  let (params, body) := match c.superClass with
    | none => ([], [])
    | some _ =>
      let call := Expr.call ⟨c.span.lo, c.span.lo⟩ (.superRef {}) [.spread {} (.ident args)] []
      ([Pat.param {} [] false (.rest {} {} (.ident args))], [Stmt.ofExpr call])
  .ctor {} (.key "constructor") params (some ⟨{}, body⟩)

/-- Runs an expression in the constructor, which is added if there is none. -/
def inConstructor (e : Expr) (depth : Nat) (c : Class) : Class :=
  let isWhole : Member → Bool
    | .ctor _ _ _ (some _) => true
    | _ => false
  let isHead : Member → Bool
    | .ctor .. => true
    | _ => false
  let members := if c.members.any isWhole then c.members
    else
      let position := (c.members.length - 1) - c.members.reverse.findIdx isHead
      let position := if c.members.any isHead then position else 0
      c.members.take position ++ [constructorFor c] ++ c.members.drop position
  let first := members.findIdx isWhole
  { c with members := members.mapIdx fun i m =>
      match m with
      | .ctor s key params (some b) =>
        if i == first then .ctor s key params (some (b.afterSuper [e] depth)) else m
      | m => m }

/-- Whether a member is a field of instances with a value. -/
def isMade : Member → Bool
  | .field f => !f.isStatic && f.value.isSome
  | _ => false

/-- Runs an expression before anything else in each instance. -/
def atStart (e : Expr) (depth : Nat) (c : Class) : Class :=
  match c.members.findIdx? isMade with
  | none => inConstructor e depth c
  | some i =>
    { c with members := c.members.mapIdx fun j m =>
        match m with
        | .field f => if i == j then .field { f with value := f.value.map fun v => .seq {} [e, v] } else m
        | m => m }

/-- The variables that an application fills, as one part of a pattern. -/
def filled (name : String) (ids : List Ident) : List Pat :=
  if ids.isEmpty then [] else [.propValue (.key name) (.array {} (ids.map .ident))]

/-- The static block that applies the entries of a class. -/
def application (t : EntryTable) (d : Option Decorated) : Hoist (List Member) := do
  let starts := t.instances.start.toList ++ t.statics.start.toList
  let entries := t.statics.entries ++ t.instances.entries
  let classDecorators := match d with
    | some d => d.decorators
    | none => []
  if entries.isEmpty && starts.isEmpty && classDecorators.isEmpty then return []
  starts.forM fun id => Hoist.declare id
  let made := match d with
    | some d => [d.result, d.ready]
    | none => []
  let given := t.statics.given ++ t.instances.given ++ starts
  let args := [Expr.thisRef {}, .array {} entries, .array {} classDecorators]
    ++ (d.bind (·.parent)).toList.map Expr.ident
  let call := Expr.apply (← Hoist.call .applyDecorators) args
  let apply := Stmt.ofExpr (.assign {} .assign (.object {} (filled "e" given ++ filled "c" made)) call)
  let start := t.statics.start.toList.map fun id => Stmt.ofExpr (.apply (.ident id) [.thisRef {}])
  return [.staticBlock {} ⟨{}, apply :: start⟩]

/-- A class with the application of its entries. -/
def closed (depth : Nat) (c : Class) (t : EntryTable) (d : Option Decorated) : Hoist Class := do
  let c := match t.instances.start with
    | some id => atStart (.apply (.ident id) [.thisRef {}]) depth c
    | none => c
  return { c with members := (← application t d) ++ c.members }

/-- A class without decorators of its own. -/
def plain (depth : Nat) (w : Walker Hoist) (c : Class) : Hoist Class := do
  let members ← c.members.mapM Hoist.member
  let (members, table) ← (Entries.members w members).run {}
  let superClass ← w.optExpr c.superClass
  closed depth { c with members, superClass } table none

/-! ### Classes with decorators of their own -/

/-- A name for the variable that holds the value of an expression. -/
def aliasFor : Expr → Option String
  | .ident id => some ("_" ++ id.name)
  | .member _ obj (.keyName id) => (aliasFor obj).map (· ++ "_" ++ id.name)
  | .member _ obj _ => aliasFor obj
  | .call _ f _ _ => aliasFor f
  | .paren _ e | .typed _ _ e _ => aliasFor e
  | _ => none

/-- The class with its parent kept in a variable. -/
def keepParent (c : Class) : Hoist (Class × Option Ident) := do
  match c.superClass with
  | none => return (c, none)
  | some parent =>
    let id ← Hoist.fresh ((aliasFor parent).getD "_super") parent.span
    Hoist.declare id
    return ({ c with superClass := some (.setTo (.ident id) parent) }, some id)

def isStaticMember : Member → Bool
  | .method m => m.isStatic
  | .field f | .accessor f => f.isStatic
  | .staticBlock .. => true
  | _ => false

def isConstructor : Member → Bool
  | .ctor .. => true
  | _ => false

/-- `(() => { … })()` -/
def runNow (body : List Stmt) : Expr := .apply (.arrow {} false [] (.block ⟨{}, body⟩) []) []

/-- The members without static blocks: a block runs before the value of the next static field, the last
ones are left over. -/
def foldBlocks : List Member → List Stmt → List Member × List Stmt
  | [], waiting => ([], waiting)
  | .staticBlock _ b :: ms, waiting => foldBlocks ms (waiting ++ b.stmts)
  | .empty _ :: ms, waiting => foldBlocks ms waiting
  | .field f :: ms, waiting =>
    if f.isStatic && f.value.isSome && !waiting.isEmpty then
      let (ms, rest) := foldBlocks ms []
      (.field { f with value := f.value.map fun v => .seq {} [runNow waiting, v] } :: ms, rest)
    else
      let (ms, rest) := foldBlocks ms waiting
      (.field f :: ms, rest)
  | m :: ms, waiting =>
    let (ms, rest) := foldBlocks ms waiting
    (m :: ms, rest)

/-- Whether a static member is made on what the decorators of the class give. -/
def isOuter : Member → Bool
  | .field f | .accessor f => f.isStatic
  | .method { key := .keyPrivate _, isStatic, .. } => isStatic
  | _ => false

def asInstance : Member → Member
  | .field f => .field { f with isStatic := false }
  | .method m => .method { m with isStatic := false }
  | m => m

/-- A class with static members, inside one that makes them: the outer class is created from what the
decorators gave, so that its fields become static fields of that. -/
def surrounded (depth : Nat) (w : Walker Hoist) (c : Class) (self : Ident) (d : Decorated) : Hoist Expr := do
  let (members, waiting) := foldBlocks c.members []
  let (inner, table) ← (Entries.members w (members.filter (!isOuter ·))).run {}
  let (outer, table) ← (Entries.members w (members.filter isOuter)).run table
  let superClass ← w.optExpr c.superClass
  let core ← closed depth { c with members := inner, superClass } table (some d)
  let waiting ← waiting.mapM w.stmt
  let steps := [Expr.apply (.superRef {}) [.ident d.result]]
    ++ (if waiting.isEmpty then [] else [runNow waiting]) ++ [.apply (.ident d.ready) []]
  let outerClass : Class :=
    { span := {}, decorators := [], superClass := some (← Hoist.call .identity)
      members :=
        [.ctor {} (.key "constructor") [] (some ⟨{}, [.ofExpr (.seq {} steps)]⟩),
          .staticBlock {} ⟨{}, [.classDecl self false core]⟩] ++ outer.map asInstance
      types := [] }
  let toResult := fun b => if b == self.binding then some d.result.binding else none
  let fields := (outerClass.rename toResult depth).members.drop 2
  return .new {} (.classExpr none { outerClass with members := outerClass.members.take 2 ++ fields }) [] false []

/-- A class with decorators of its own and no static members. -/
def finished (depth : Nat) (w : Walker Hoist) (c : Class) (d : Decorated) : Hoist Class := do
  let members := c.members.filter isConstructor ++ c.members.filter (!isConstructor ·)
  let (members, table) ← (Entries.members w members).run {}
  let superClass ← w.optExpr c.superClass
  let c ← closed depth { c with members, superClass } table (some d)
  return { c with members := c.members ++ [.staticBlock {} ⟨{}, [.ofExpr (.apply (.ident d.ready) [])]⟩] }

/-- A class with decorators of its own that is declared under a name. -/
def declaration (depth : Nat) (w : Walker Hoist) (id : Ident) (isAmbient : Bool) (c : Class) : Hoist Stmt := do
  let self ← Hoist.fresh id.name id.span
  let result ← Hoist.fresh ("_" ++ id.name)
  modify fun h => { h with
    results := h.results ++ [result], renamed := (id.binding, result.binding) :: h.renamed }
  let c := c.rename (fun b => if b == id.binding then some self.binding else none) depth
  let decorators ← c.decorators.mapM Hoist.decorator
  let ready ← Hoist.newVar "_initClass"
  let (c, parent) ← keepParent { c with decorators := [] }
  let c := { c with members := ← c.members.mapM Hoist.member }
  let d : Decorated := { result, ready, decorators, parent }
  if c.members.any isStaticMember then return .ofExpr (← surrounded depth w c self d)
  else return .classDecl self isAmbient (← finished depth w c d)

/-- A class with decorators of its own inside an expression. -/
def expression (depth : Nat) (w : Walker Hoist) (id : Option Ident) (c : Class) : Hoist Expr := do
  let decorators ← c.decorators.mapM Hoist.decorator
  let ready ← Hoist.newVar "_initClass"
  let result ← Hoist.newVar (match id with
    | some id => "_" ++ id.name
    | none => "_class")
  let (c, parent) ← keepParent { c with decorators := [] }
  let c := { c with members := ← c.members.mapM Hoist.member }
  let d : Decorated := { result, ready, decorators, parent }
  let e ← if c.members.any isStaticMember then
      surrounded depth w c (id.getD ⟨"_class", {}, result.mark⟩) d
    else pure (.classExpr id (← finished depth w c d))
  return .seq {} [e, .ident result]

/-! ### The pass -/

def expr (depth : Nat) (w : Walker Hoist) : Expr → Hoist Expr
  | .classExpr id c => if c.decorators.isEmpty then w.onExpr (.classExpr id c) else expression depth w id c
  | e => w.onExpr e

/-- Exports a class under what its decorators give. -/
def exportAs (id : Ident) (name : Option ExportName) : Hoist Unit :=
  modify fun h => { h with exports := h.exports ++ [.named {} (.ident id) name false] }

def stmt (depth : Nat) (w : Walker Hoist) : Stmt → Hoist Stmt
  | .classDecl id isAmbient c =>
    if c.decorators.isEmpty then w.onStmt (.classDecl id isAmbient c) else declaration depth w id isAmbient c
  | .exportDecl s (.classDecl id isAmbient c) => do
    if c.decorators.isEmpty then w.onStmt (.exportDecl s (.classDecl id isAmbient c))
    else
      exportAs id none
      declaration depth w id isAmbient c
  | .exportDefaultClass s id c => do
    if c.decorators.isEmpty then w.onStmt (.exportDefaultClass s id c)
    else
      let id ← match id with
        | some id => pure id
        | none => Hoist.fresh "_default"
      exportAs id (some (.ident ⟨"default", {}, unmarked⟩))
      declaration depth w id false c
  | s => w.onStmt s

/-- One step of the pass. -/
def walker (depth : Nat) (w : Walker Hoist) : Walker Hoist :=
  { expr := expr depth w, pat := w.onPat, stmt := stmt depth w, stmts := Hoist.list w, func := w.onFunc
    cls := plain depth w }

end Standard

/-- The program without decorators, the first mark that is still free, and the added functions that it
calls. -/
def Program.applyDecorators (p : Program) (next depth : Nat) : Program × Nat × List PreludeFunction :=
  let w := Walker.fix (Standard.walker depth) depth
  let (body, h) := (w.stmts p.body).run { next }
  let new (b : Binding) : Option Binding := h.renamed.lookup b
  let body := if h.renamed.isEmpty then body else Stmt.renameAll new depth body
  ({ p with body }, h.next, h.needs)

end Detype
