import Std.Data.HashMap
import Detype.Modules.Links
import Detype.Modules.Names

/-
**References to what is imported.**

An imported variable is read from the module that it comes from at every mention, so that it always has
its current value. Where such a mention is called, the call must not pass the module as `this`. Outside
every function and class `this` has no value.

* `RefTargets` — what the imported variables stand for.
* `Refs.walker` — one step of the pass.
* `spellRefs` — some statements with their references spelled out.
-/

namespace Detype

/-- The module that a variable comes from, and the property of it that the variable stands for; without
one it stands for the module itself. -/
abbrev RefTargets := Std.HashMap Binding (Ident × Option String)

/-- The property of an object with a given name, whatever the name. -/
def Expr.property (e : Expr) (name : String) (span : Span := {}) : Expr :=
  .member span e (if Modules.isPropertyName name then .key name else .keyComputed {} (.text name))

structure RefEnv where
  targets : RefTargets
  /-- Whether no function or class is around. -/
  outside : Bool := true

abbrev Refs := ReaderM RefEnv

namespace Refs

/-- What a variable stands for. -/
def target? (id : Ident) : Refs (Option Expr) := do
  match (← read).targets[id.binding]? with
  | none => return none
  | some (source, property) =>
    let object := Expr.ident { source with span := id.span }
    match property with
    | none => return some object
    | some name => return some (object.property name id.span)

/-- Whether a variable stands for a property of a module. -/
def isProperty (id : Ident) : Refs Bool := do
  match (← read).targets[id.binding]? with
  | some (_, some _) => return true
  | _ => return false

/-- Runs inside a function or a class. -/
def inside {α : Type} (act : Refs α) : Refs α := ReaderT.adapt ({ · with outside := false }) act

def jsxName : JsxName → Refs JsxName
  | .ident id => do
    match ← target? id with
    | some (.ident id) => return .ident id
    | some (.member s (.ident obj) (.keyName prop)) => return .member s (.ident obj) prop
    | _ => return .ident id
  | .member s obj prop => return .member s (← jsxName obj) prop
  | n => return n

/-- The function of a call: a property of a module is taken out of it first. -/
def callee (w : Walker Refs) (e : Expr) : Refs Expr := do
  match e with
  | .ident id =>
    let f ← w.expr e
    if ← isProperty id then return .seq {} [.ofNat 0, f] else return f
  | e => w.expr e

def expr (w : Walker Refs) : Expr → Refs Expr
  | .ident id => return (← target? id).getD (.ident id)
  | .propShorthand id => do
    match ← target? id with
    | some v => return .propValue (.key id.name id.span) v
    | none => return .propShorthand id
  | .thisRef s => return if (← read).outside then .unary s .void (.ofNat 0) else .thisRef s
  | .call s f args types => return .call s (← callee w f) (← args.mapM w.expr) types
  | .tagged s tag quasi types => return .tagged s (← callee w tag) (← w.expr quasi) types
  | .jsxElement s o name attrs types selfClosing children closing => do
    let closing ← closing.mapM fun (s, n) => return (s, ← jsxName n)
    return .jsxElement s o (← jsxName name) (← attrs.mapM w.expr) types selfClosing (← children.mapM w.expr) closing
  | e => w.onExpr e

def field (w : Walker Refs) (f : Field) : Refs Field := do
  let key ← w.expr f.key
  let value ← inside (w.optExpr f.value)
  let decorators ← f.decorators.mapM w.expr
  return { f with key, value, decorators }

def member (w : Walker Refs) : Member → Refs Member
  | .field f => return .field (← field w f)
  | .accessor f => return .accessor (← field w f)
  | .method m => return .method (← w.onMethod m)
  | m => inside (w.onMember m)

def cls (w : Walker Refs) (c : Class) : Refs Class := do
  let decorators ← c.decorators.mapM w.expr
  let superClass ← w.optExpr c.superClass
  let members ← c.members.mapM (member w)
  return { c with decorators, superClass, members }

/-- One step of the pass. -/
def walker (w : Walker Refs) : Walker Refs :=
  { w.through with expr := expr w, func := fun f => inside (w.onFunc f), cls := cls w }

end Refs

/-- Some statements with their references to imports spelled out. -/
def spellRefs (targets : RefTargets) (depth : Nat) (body : List Stmt) : List Stmt :=
  (body.mapM (Walker.fix Refs.walker depth).stmt).run { targets }

end Detype
