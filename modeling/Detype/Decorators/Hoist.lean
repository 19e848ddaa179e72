import Detype.Syntax.Walk
import Detype.Syntax.Build
import Detype.Prelude.Functions

/-
**What decorators leave in front of a statement.**

The decorators and the computed names of a class are evaluated before the class is, so their values go to
variables. The variables are declared at the start of the statement list, and what gives them their
values stands right before the statement with the class.

* `Prepared` — what has been collected for the statement list that is being compiled.
* `Hoist.decorator`, `Hoist.memberKey` — one expression, moved out if it has to be.
* `Hoist.list` — the statements of one list, each with what it needs before it.
-/

namespace Detype

/-- What has been collected for the statement list that is being compiled. -/
structure Prepared where
  /-- The first mark that is still free. -/
  next : Nat
  /-- Variables declared at the start of the list. -/
  vars : List Declarator := []
  /-- Variables declared right before the statement: the classes that decorators make. -/
  results : List Ident := []
  /-- What is evaluated right before the statement. -/
  setup : List Expr := []
  /-- Exports of decorated classes, for the end of the list. -/
  exports : List ExportSpecifier := []
  /-- How many fields hold the value of an accessor. -/
  storage : Nat := 0
  /-- The classes that decorators make, by the name of the class in the source. -/
  renamed : List (Binding × Binding) := []
  /-- The added functions that the code calls. -/
  needs : List PreludeFunction := []

/-- Computations that put code in front of the statement they are in. -/
abbrev Hoist := StateM Prepared

namespace Hoist

/-- A variable that nothing else means. -/
def fresh (name : String) (span : Span := {}) : Hoist Ident := do
  let h ← get
  set { h with next := h.next + 1 }
  return ⟨name, span, h.next⟩

/-- Declares a variable at the start of the list. -/
def declare (id : Ident) (span : Span := {}) : Hoist Unit :=
  modify fun h => { h with vars := h.vars ++ [⟨span, .ident id, none, false, none⟩] }

/-- A new variable, declared at the start of the list. -/
def newVar (name : String) : Hoist Ident := do
  let id ← fresh name
  declare id
  return id

/-- Evaluates an expression before the statement, and gives the variable with its value. -/
def moved (name : String) (e : Expr) : Hoist Expr := do
  let id ← newVar name
  modify fun h => { h with setup := h.setup ++ [.setTo (.ident id) e] }
  return .ident id

/-- The name under which the code calls an added function. -/
def call (f : PreludeFunction) : Hoist Expr := do
  modify fun h => { h with needs := f :: h.needs }
  return .ident f.ident

/-- Whether an expression has the same value wherever it is evaluated. -/
def isSteady : Expr → Bool
  | .ident _ | .arrow .. | .func .. => true
  | _ => false

/-- A decorator, moved out unless it is steady. -/
def decorator (e : Expr) : Hoist Expr := if isSteady e then return e else moved "_dec" e

/-- The name of a member, moved out if it has to be evaluated. -/
def memberKey : Expr → Hoist Expr
  | .keyComputed s (.ident id) => return .keyComputed s (.ident id)
  | .keyComputed _ e => return .keyComputed {} (← moved "_computedKey" e)
  | .str s => return .keyComputed {} (← moved "_computedKey" (.str s))
  | .num n => return .keyComputed {} (← moved "_computedKey" (.num n))
  | .bigint s raw => return .keyComputed {} (← moved "_computedKey" (.bigint s raw))
  | key => return key

/-- A member whose decorators and name need no evaluation any more. -/
def member : Member → Hoist Member
  | .method m => do
    if m.func.body.isNone then return .method m
    let decorators ← m.decorators.mapM decorator
    return .method { m with decorators, key := ← memberKey m.key }
  | .field f => do
    if f.isAmbient then return .field f
    let decorators ← f.decorators.mapM decorator
    return .field { f with decorators, key := ← memberKey f.key }
  | .accessor f => do
    let decorators ← f.decorators.mapM decorator
    return .accessor { f with decorators, key := ← memberKey f.key }
  | m => return m

/-- What a statement has collected for the place right before it. -/
def collected : Hoist (List Stmt) := do
  let h ← get
  set { h with results := [], setup := [] }
  let results := if h.results.isEmpty then []
    else [Stmt.varDecl {} .lexical false (h.results.map fun id => ⟨{}, .ident id, none, false, none⟩)]
  let setup := if h.setup.isEmpty then [] else [Stmt.ofExpr (.sequence h.setup)]
  return results ++ setup

/-- The statements of one list, each with what it needs before it. -/
def list (w : Walker Hoist) (body : List Stmt) : Hoist (List Stmt) := do
  let outer ← get
  set { outer with vars := [], results := [], setup := [], exports := [], storage := 0 }
  let parts ← body.mapM fun s => do
    let s ← w.stmt s
    return (← collected) ++ [s]
  let inner ← get
  set { inner with
    vars := outer.vars, results := outer.results, setup := outer.setup, exports := outer.exports
    storage := outer.storage }
  let body := parts.flatten
  let body := if inner.vars.isEmpty then body
    else afterDirectives [.varDecl {} .var false inner.vars] body
  return if inner.exports.isEmpty then body
    else body ++ [.exportNamed {} inner.exports none false none]

end Hoist

end Detype
