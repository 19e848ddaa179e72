import Detype.Decorators.Hoist

/-
**Decorated members.**

A decorated member is listed in an entry: its decorators, its kind, its name, and the functions that
reach it if its name is private. The entries are applied when the class is defined; what the decorators
give for a field becomes a function that makes its value.

* `Entries` — the entries of a class and the variables that the application fills.
* `Entries.method`, `Entries.field`, `Entries.accessor` — one member, with its entry.
* `Entries.members` — all members: methods and accessors are listed before fields.
-/

namespace Detype

/-- The entries for one side of a class: its static members, or those of its instances. -/
structure EntrySide where
  entries : List Expr := []
  /-- The variables for what the decorators give. -/
  given : List Ident := []
  /-- The function that runs what decorators add for the start. -/
  start : Option Ident := none

/-- The entries of a class. -/
structure EntryTable where
  statics : EntrySide := {}
  instances : EntrySide := {}

/-- Computations that list the members of one class. -/
abbrev Entries := StateT EntryTable Hoist

namespace Entries

/-- The number of a kind of member; static members have the next five. -/
def code (kind isStatic : Nat) : Expr := .ofNat (kind + 5 * isStatic)

def methodCode : MethodKind → Nat
  | .method => 2
  | .getter => 3
  | .setter => 4

def onSide (isStatic : Bool) (f : EntrySide → EntrySide) : Entries Unit :=
  modify fun t => if isStatic then { t with statics := f t.statics } else { t with instances := f t.instances }

/-- Lists a member; `given` is filled with what its decorators give. -/
def add (isStatic : Bool) (decorators : List Expr) (kind : Nat) (name : Expr) (access : List Expr)
    (given : Option Ident) : Entries Unit := do
  let decorator := match decorators with
    | [d] => d
    | ds => .array {} ds
  let entry := Expr.array {} ([decorator, code kind isStatic.toNat, name] ++ access)
  onSide isStatic fun s => { s with entries := s.entries ++ [entry], given := s.given ++ given.toList }

/-- Makes sure that there is a function for the start. -/
def needStart (isStatic : Bool) : Entries Unit := do
  let t ← get
  let side := if isStatic then t.statics else t.instances
  if side.start.isNone then
    let id ← Hoist.fresh (if isStatic then "_initStatic" else "_initProto")
    onSide isStatic ({ · with start := some id })

/-- How an entry names its member. -/
def entryName : Expr → Expr
  | .keyName id => .str (.of id.name id.span)
  | .keyPrivate id => .text id.name
  | .keyComputed _ e => e
  | key => key

/-- The variable for what the decorators of a member give. -/
def givenName (start : String) : Expr → String × Span
  | .keyName id | .keyComputed _ (.ident id) => (start ++ id.name, id.span)
  | .keyPrivate id => (start ++ id.name, {})
  | _ => (start ++ "computedKey", {})

def given (start : String) (key : Expr) (place : Span) : Entries Ident := do
  let (name, span) := givenName start key
  let id ← Hoist.fresh name span
  Hoist.declare id place
  return id

def isPrivate : Expr → Bool
  | .keyPrivate _ => true
  | _ => false

def ofThis (key : Expr) : Expr := .member {} (.thisRef {}) key

def function (params : List Ident) (body : List Stmt) : Func :=
  { span := {}, params := params.map fun id => .param {} [] false (.ident id)
    body := some ⟨{}, body⟩, types := [], isGenerator := false, isAsync := false }

/-- What a private method does once its decorators have been applied. -/
def throughGiven (m : Method) (id : Ident) : Method :=
  match m.kind with
  | .method =>
    { m with kind := .getter, decorators := [], func := function [] [.result (.ident id)] }
  | .getter =>
    let body := [Stmt.result (.apply (.ident id) [.thisRef {}])]
    { m with decorators := [], func := function [] body }
  | .setter =>
    let args := m.func.params.filterMap fun p => match p.undecorated.untyped with
      | .ident id => some (Expr.ident id.unplaced)
      | _ => none
    let body := [Stmt.result (.apply (.ident id) (.thisRef {} :: args))]
    { m with decorators := [], func := { function [] body with params := m.func.params } }

/-- A method, with its entry. One without a body is no method at run time. -/
def method (m : Method) : Entries Method := do
  if m.decorators.isEmpty || m.func.body.isNone then return m
  if isPrivate m.key then
    let id ← given "_call_" m.key m.span
    needStart m.isStatic
    add m.isStatic m.decorators (methodCode m.kind) (entryName m.key) [.func none m.func] (some id)
    return throughGiven m id
  else
    needStart m.isStatic
    add m.isStatic m.decorators (methodCode m.kind) (entryName m.key) [] none
    return { m with decorators := [] }

/-- The value of a member, made by what its decorators gave. -/
def madeBy (id : Ident) (value : Option Expr) : Option Expr :=
  some (.apply (.ident id) (.thisRef {} :: value.toList))

/-- The functions that read and write a private field. -/
def access (key : Expr) : Entries (List Expr) := do
  if !isPrivate key then return []
  let value ← Hoist.fresh "value"
  let place := ofThis (match key with
    | .keyPrivate id => .keyPrivate id.unplaced
    | k => k)
  return [.func none (function [] [.result place]),
    .func none (function [value] [.ofExpr (.setTo place (.ident value))])]

def field (f : Field) : Entries Field := do
  if f.decorators.isEmpty then return f
  let id ← given "_init_" f.key f.span
  add f.isStatic f.decorators 0 (entryName f.key) (← access f.key) (some id)
  return { f with decorators := [], value := madeBy id f.value }

/-- An accessor as a private field with a getter and a setter. -/
def accessor (f : Field) : Entries (List Member) := do
  modifyThe Prepared fun h => { h with storage := h.storage + 1 }
  let number := (← getThe Prepared).storage
  let (name, _) := givenName "___private_" f.key
  let storage := Expr.keyPrivate ⟨name ++ "_" ++ toString number, {}, unmarked⟩
  let new ← Hoist.fresh "_v"
  let read := function [] [.result (ofThis storage)]
  let write := function [new] [.ofExpr (.setTo (ofThis storage) (.ident new))]
  let value ← if f.decorators.isEmpty then pure f.value
    else do
      let id ← given "_init_" f.key f.span
      needStart f.isStatic
      let access := if isPrivate f.key then [Expr.func none read, .func none write] else []
      add f.isStatic f.decorators 1 (entryName f.key) access (some id)
      pure (madeBy id f.value)
  let half (kind : MethodKind) (func : Func) : Member :=
    .method { span := {}, key := f.key, func, decorators := [], kind, isStatic := f.isStatic, isAbstract := false }
  return [.field { f with span := {}, key := storage, value, decorators := [] }, half .getter read,
    half .setter write]

/-- A member that is no field, walked through and listed. -/
def early (w : Walker Hoist) : Member → Entries (Option (List Member))
  | .field _ => return none
  | .method m => do
    let func ← w.func m.func
    return some [.method (← method { m with func })]
  | .accessor f => do
    if f.isAbstract || f.isAmbient then return some [.accessor f]
    let value ← w.optExpr f.value
    return some (← accessor { f with value })
  | m => do return some [← w.onMember m]

/-- A field, walked through and listed. -/
def late (w : Walker Hoist) : Member → Entries (List Member)
  | .field f => do
    let value ← w.optExpr f.value
    return [.field (← field { f with value })]
  | m => return [m]

/-- All members of a class: methods and accessors are listed before fields. -/
def members (w : Walker Hoist) (ms : List Member) : Entries (List Member) := do
  let first ← ms.mapM (early w)
  let all ← (ms.zip first).mapM fun (m, done) =>
    match done with
    | some ms => pure ms
    | none => late w m
  return all.flatten

end Entries

end Detype
