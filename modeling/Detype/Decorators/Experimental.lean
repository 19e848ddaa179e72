import Detype.Syntax.Walk
import Detype.Syntax.Build
import Detype.Prelude.Functions

/-
**Experimental decorators.**

A decorated member is decorated by a call after its class, one call a member in the order of the class,
and the class itself by a last call that takes its place. The decorators of parameters are decorators of
the method, or of the class for its constructor.

* `Attached` — what stands around the statement that is being compiled.
* `Attach.memberKey` — how a call names a member.
* `Attach.cls` — a class without decorators, with its calls.
* `Program.attachDecorators` — the pass.
-/

namespace Detype

/-- What has been collected for the statement that is being compiled. -/
structure Attached where
  /-- The first mark that is still free. -/
  next : Nat
  /-- Variables declared right before the statement. -/
  vars : List Ident := []
  /-- What is evaluated right before the statement. -/
  before : List Expr := []
  /-- The calls right after the statement. -/
  after : List Expr := []
  /-- The class around, by the name under which the calls reach it. -/
  className : Option Ident := none
  /-- The added functions that the code calls. -/
  needs : List PreludeFunction := []

/-- Computations that put code around the statement they are in. -/
abbrev Attach := StateM Attached

namespace Attach

/-- A variable that nothing else means. -/
def fresh (name : String) (span : Span := {}) : Attach Ident := do
  let a ← get
  set { a with next := a.next + 1 }
  return ⟨name, span, a.next⟩

/-- The name under which the code calls an added function. -/
def call (f : PreludeFunction) : Attach Expr := do
  modify fun a => { a with needs := f :: a.needs }
  return .ident f.ident

/-- An expression that no longer stands at its place; what is inside a literal still does. -/
def unplaced : Expr → Expr
  | .ident id => .ident id.unplaced
  | .member _ obj (.keyName id) => .member {} (unplaced obj) (.keyName id)
  | .member _ obj key => .member {} (unplaced obj) key
  | .call _ f args types => .call {} (unplaced f) (unplacedAll args) types
  | .array _ es => .array {} es
  | .object _ ps => .object {} ps
  | .str s => .str { s with span := {} }
  | .num n => .num { n with span := {} }
  | .bool _ b => .bool {} b
  | .null _ => .null {}
  | .thisRef _ => .thisRef {}
  | .arrow _ isAsync ps body types => .arrow {} isAsync ps body types
  | .func id f => .func id { f with span := {} }
  | .unary _ op e => .unary {} op e
  | .binary _ op l r => .binary {} op l r
  | .cond _ t a b => .cond {} t a b
  | .new _ f args bare types => .new {} f args bare types
  | .seq _ es => .seq {} es
  | .template _ qs es => .template {} qs es
  | .tagged _ t q types => .tagged {} t q types
  | .paren _ e => .paren {} e
  | .typed _ wrap e types => .typed {} wrap e types
  | .optChain _ optional e => .optChain {} optional e
  | .assign _ op t v => .assign {} op t v
  | .await _ e => .await {} e
  | e => e
where
  unplacedAll : List Expr → List Expr
    | [] => []
    | e :: es => unplaced e :: unplacedAll es

/-- How a call names a member: by text, or by the variable that holds a computed name. -/
def memberKey : Expr → Attach (Expr × Expr)
  | .keyName id => return (.keyName id, .text id.name)
  | .keyComputed s e =>
    match e with
    | .str _ | .num _ | .bigint _ _ | .bool _ _ | .null _ | .regex _ _ _ => return (.keyComputed s e, e)
    | e => do
      let id ← fresh "_key" s
      modify fun a => { a with vars := a.vars ++ [id], before := a.before ++ [.setTo (.ident id) e] }
      return (.keyComputed s (.ident id), .ident id)
  | key => return (key, key)

/-- Adds the call that decorates a member. -/
def addCall (decorators : List Expr) (isStatic : Bool) (key description : Expr) : Attach Unit := do
  let some name := (← get).className | return
  let target := if isStatic then Expr.ident name else .dot (.ident name) "prototype"
  let decorate ← call .decorate
  let e := decorate.apply [.array {} (decorators.map unplaced), target, key, description]
  modify fun a => { a with after := a.after ++ [e] }

/-- The decorators of parameters as decorators of their function. -/
def ofParams (params : List Pat) : Attach (List Expr) := do
  let parts ← (params.zip (List.range params.length)).mapM fun (p, i) => do
    match p with
    | .param _ ds _ _ => ds.mapM fun d => return (← call .decorateParam).apply [.ofNat i, unplaced d]
    | _ => pure []
  return parts.flatten

def withoutDecorators : Pat → Pat
  | .param s _ declares p => .param s [] declares p
  | p => p

def isPrivate : Expr → Bool
  | .keyPrivate _ => true
  | _ => false

/-- A member with the decorators of its parameters as its own. -/
def gatherParams : Member → Attach Member
  | .method m => do
    if isPrivate m.key then return .method m
    let more ← ofParams m.func.params
    return .method { m with
      decorators := m.decorators ++ more
      func := { m.func with params := m.func.params.map withoutDecorators } }
  | m => return m

/-- The decorators that a class gets from its constructor. -/
def ofConstructor : Member → Attach (List Expr)
  | .ctor _ _ params _ => ofParams params
  | _ => return []

def withoutConstructorDecorators : Member → Member
  | .ctor s key params body => .ctor s key (params.map withoutDecorators) body
  | m => m

/-- A member, with the call for it. -/
def member (w : Walker Attach) (m : Member) : Attach Member := do
  match ← w.onMember m with
  | .method m =>
    if m.decorators.isEmpty || isPrivate m.key then return .method m
    let (key, name) ← memberKey m.key
    addCall m.decorators m.isStatic name (.null {})
    return .method { m with key, decorators := [] }
  | .field f =>
    if f.decorators.isEmpty || isPrivate f.key then return .field f
    let (key, name) ← memberKey f.key
    addCall f.decorators f.isStatic name .undefinedValue
    return .field { f with key, decorators := [] }
  | m => return m

/-- A class without decorators, with the calls for it. -/
def cls (w : Walker Attach) (c : Class) : Attach Class := do
  let some name := (← get).className | w.onClass c
  let fromParams ← c.members.mapM ofConstructor
  let members ← c.members.mapM gatherParams
  let decorators ← (c.decorators ++ fromParams.flatten).mapM w.expr
  let members ← (members.map withoutConstructorDecorators).mapM (member w)
  let superClass ← w.optExpr c.superClass
  unless decorators.isEmpty do
    let decorate ← call .decorate
    let e := decorate.apply [.array {} (decorators.map unplaced), .ident name]
    modify fun a => { a with after := a.after ++ [.setTo (.ident name) e] }
  return { c with decorators := [], superClass, members }

/-- Compiles a class that the calls reach by a name. -/
def named {α : Type} (id : Ident) (act : Attach α) : Attach α := do
  let outer := (← get).className
  modify fun a => { a with className := some id.unplaced }
  let r ← act
  modify fun a => { a with className := outer }
  return r

/-- A class expression is kept in a variable while the calls decorate it. -/
def expr (w : Walker Attach) : Expr → Attach Expr
  | .classExpr id c => do
    let outer := (← get).after
    modify fun a => { a with after := [] }
    let self ← match id with
      | some id => pure id
      | none => fresh "_class"
    let c ← named self (w.cls c)
    let calls := (← get).after
    modify fun a => { a with after := outer }
    if calls.isEmpty then return .classExpr id c
    let name := self.unplaced
    modify fun a => { a with vars := a.vars ++ [name] }
    return .seq {} ([Expr.setTo (.ident name) (.classExpr (some self) c)] ++ calls ++ [.ident name])
  | e => w.onExpr e

def stmt (w : Walker Attach) : Stmt → Attach Stmt
  | .classDecl id isAmbient c => return .classDecl id isAmbient (← named id (w.cls c))
  | .exportDefaultClass s id c => do
    let self ← match id with
      | some id => pure id
      | none => fresh "_class"
    return .exportDefaultClass s (some self) (← named self (w.cls c))
  | s => w.onStmt s

/-- The statements of one list, each with what stands around it. -/
def list (w : Walker Attach) (body : List Stmt) : Attach (List Stmt) := do
  let outer ← get
  set { outer with vars := [], before := [], after := [] }
  let parts ← body.mapM fun s => do
    let s ← w.stmt s
    let a ← get
    set { a with vars := [], before := [], after := [] }
    let declared := if a.vars.isEmpty then [] else [Stmt.declareAll a.vars]
    return declared ++ a.before.map (Stmt.ofExpr ·) ++ [s] ++ a.after.map (Stmt.ofExpr ·)
  let inner ← get
  set { inner with vars := outer.vars, before := outer.before, after := outer.after }
  return parts.flatten

/-- One step of the pass. -/
def walker (w : Walker Attach) : Walker Attach :=
  { expr := expr w, pat := w.onPat, stmt := stmt w, stmts := list w, func := w.onFunc, cls := cls w }

end Attach

/-- The program without decorators, the first mark that is still free, and the added functions that it
calls. -/
def Program.attachDecorators (p : Program) (next depth : Nat) : Program × Nat × List PreludeFunction :=
  let (body, a) := ((Walker.fix Attach.walker depth).stmts p.body).run { next }
  ({ p with body }, a.next, a.needs)

end Detype
