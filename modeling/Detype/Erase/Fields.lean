import Detype.Syntax.AfterSuper

/-
**Parameters that declare fields.**

A constructor parameter with a modifier declares a field of its class and gives it its value. The values
of the other fields then have to wait for it, so they move into the constructor too.

* `Pat.declared?` — the field that a parameter declares.
* `Fields.cls` — a class without such parameters.
* `Program.lowerFields` — the pass.
-/

namespace Detype

/-- The field that a parameter declares. -/
def Pat.declared? : Pat → Option Ident
  | .param _ _ true (.ident id) | .param _ _ true (.assign _ (.ident id) _) => some id
  | _ => none

namespace Fields

/-- The property of `this` that a member name denotes. -/
def ofThis (key : Expr) : Expr :=
  match key with
  | .keyName _ | .keyPrivate _ | .keyComputed _ _ => .member {} (.thisRef {}) key
  | e => .member {} (.thisRef {}) (.keyComputed {} e)

/-- The value of a parameter goes to its field. -/
def fromParam (id : Ident) : Expr :=
  .setTo (ofThis (.keyName { id with mark := unmarked })) (.ident id)

/-- A field that waits for the constructor. -/
def initializer? : Member → Option Expr
  | .field { isStatic := false, key, value := some v, .. } => some (.setTo (ofThis key) v)
  | _ => none

def withoutValue : Member → Member
  | .field f => if f.isStatic then .field f else .field { f with value := none }
  | m => m

/-- A declared field as a member of its own. -/
def bare (id : Ident) : Member :=
  .field
    { span := {}, key := .key id.name, value := none, type := none, decorators := [], isStatic := false
      isAbstract := false, isAmbient := false }

def plainParam : Pat → Pat
  | .param s ds _ p => .param s ds false p
  | p => p

def cls (depth : Nat) (c : Class) : Class :=
  let declared := c.members.flatMap fun
    | .ctor _ _ params (some _) => params.filterMap Pat.declared?
    | _ => []
  if declared.isEmpty then c
  else
    let inits := declared.map fromParam ++ c.members.filterMap initializer?
    let members := c.members.map fun
      | .ctor s key params (some b) =>
        .ctor s key (params.map plainParam) (some (b.afterSuper inits depth))
      | m => withoutValue m
    { c with members := declared.map bare ++ members }

def walker (depth : Nat) (w : Walker Id) : Walker Id :=
  { w.through with cls := fun c => cls depth (w.onClass c) }

end Fields

/-- The program without parameters that declare fields. -/
def Program.lowerFields (p : Program) (depth : Nat) : Program :=
  { p with body := p.body.map (Walker.fix (Fields.walker depth) depth).stmt }

end Detype
