import Std.Data.HashMap
import Detype.Syntax.Walk
import Detype.Syntax.Build
import Detype.Text.Decimal

/-
**Enumerations.**

A member of an enumeration has a value that is known while compiling, or an expression. Known values
replace the accesses to the member; the enumeration itself becomes a function that fills an object.

* `EnumValue` — the value of a member.
* `EnumTable.evaluate` — the value of an initializer.
* `EnumTable.ofProgram` — all members of all enumerations of a program.
* `EnumTable.fill` — the statement that fills in a member.
-/

namespace Detype

/-- The value of an enumeration member. -/
inductive EnumValue where
  | number (n : Float)
  | text (s : String)
  /-- An expression to be evaluated at run time. -/
  | computed (e : Expr)
  /-- A member without a value, after one that is not a number. -/
  | missing
deriving Inhabited

namespace EnumValue

def isKnown : EnumValue → Bool
  | number _ | text _ => true
  | _ => false

/-- The expression that has the value. -/
def expr : EnumValue → Expr
  | number n =>
    if n.isNaN then .global "NaN"
    else if n.isInf then
      if n < 0 then .unary {} .minus (.global "Infinity") else .global "Infinity"
    else .num { value := n }
  | text s => .str (.of s)
  | computed e => e
  | missing => .undefinedValue

/-- The expression of a known value, else the one that was written. -/
def exprOr (written : Expr) (v : EnumValue) : Expr := if v.isKnown then v.expr else written

/-- The value of the next member without an initializer. -/
def next : EnumValue → EnumValue
  | number n => number (n + 1)
  | _ => missing

/-- The value as a piece of text. -/
def piece? : EnumValue → Option String
  | number n => some (Text.numberText n)
  | text s => some s
  | _ => none

end EnumValue

/-- A member: its enumeration and its name. -/
structure EnumMember where
  owner : Binding
  name : String
deriving DecidableEq, Hashable

abbrev EnumTable := Std.HashMap EnumMember EnumValue

namespace EnumTable

-- Powers are those of the natural numbers themselves, whatever else is in scope.
attribute [local instance (high)] instPowNat

def unaryValue (op : UnaryOp) (n : Float) : Option Float :=
  match op with
  | .plus => some n
  | .minus => some (-n)
  | .tilde => some (Text.signed32 (UInt32.size - 1 - Text.wrap32 n))
  | _ => none

/-- The power of two numbers. One to a power that is no finite number is no number. -/
def power (a b : Float) : Float :=
  if b.isNaN || (a.abs == 1 && b.isInf) then 0 / 0 else Float.pow a b

/-- The number that an arithmetic operator gives. -/
def binaryValue (op : BinaryOp) (a b : Float) : Option Float :=
  let shift := Text.wrap32 b % 32
  match op with
  | .add => some (a + b)
  | .sub => some (a - b)
  | .mul => some (a * b)
  | .div => some (a / b)
  | .mod => some (Text.remainder a b)
  | .exp => some (power a b)
  | .shl => some (Text.signed32 (Text.wrap32 a * 2 ^ shift % UInt32.size))
  | .ushr => some (Text.wrap32 a / 2 ^ shift).toFloat
  | .shr =>
    let word := Text.wrap32 a
    let fill := if word < UInt32.size / 2 then 0 else UInt32.size - 2 ^ (32 - shift)
    some (Text.signed32 (word / 2 ^ shift + fill))
  | .bitOr => some (Text.signed32 (Text.wrap32 a ||| Text.wrap32 b))
  | .bitAnd => some (Text.signed32 (Text.wrap32 a &&& Text.wrap32 b))
  | .bitXor => some (Text.signed32 (Text.wrap32 a ^^^ Text.wrap32 b))
  | _ => none

def isArithmetic : BinaryOp → Bool
  | .add | .sub | .mul | .div | .mod | .exp | .shl | .shr | .ushr | .bitOr | .bitAnd | .bitXor => true
  | _ => false

/-- The name that a member access asks for. -/
def memberKey? : Expr → Option String
  | .keyName id => some id.name
  | .keyComputed _ (.str s) => some s.text
  | _ => none

/-- The name that a member access outside an initializer asks for, which may also be a template. -/
def accessKey? : Expr → Option String
  | .keyComputed _ (.template _ [q] []) => q.cooked.map (·.text)
  | key => memberKey? key

mutual

/-- The value of an initializer in the enumeration `owner`. -/
def evaluate (t : EnumTable) (owner : Ident) : Expr → EnumValue
  | .str s => .text s.text
  | .num n => .number n.value
  | .ident id =>
    if id.mark == globalMark && id.name == "NaN" then .number (0 / 0)
    else if id.mark == globalMark && id.name == "Infinity" then .number (1 / 0)
    else
      match Std.HashMap.get? t ⟨owner.binding, id.name⟩ with
      | some (.number n) => .number n
      | some (.text s) => .text s
      | some _ => .computed (.dot (.ident owner.unplaced) id.name id.span)
      | none => .computed (.ident id)
  | .paren _ e => evaluate t owner e
  | .unary s op arg =>
    if op == .plus || op == .minus || op == .tilde then
      match evaluate t owner arg with
      | .number n =>
        match unaryValue op n with
        | some v => .number v
        | none => .computed (.unary s op arg)
      | v => .computed (.unary s op v.expr)
    else .computed (.unary s op arg)
  | .binary s op l r =>
    if isArithmetic op then
      match evaluate t owner l, evaluate t owner r with
      | .number a, .number b =>
        match binaryValue op a b with
        | some v => .number v
        | none => .computed (.binary s op l r)
      | a, b =>
        match op, a.piece?, b.piece? with
        | .add, some x, some y => .text (x ++ y)
        | _, _, _ => .computed (.binary s op (a.exprOr l) (b.exprOr r))
    else .computed (.binary s op l r)
  | .member s (.ident id) key =>
    match memberKey? key with
    | some name =>
      match Std.HashMap.get? t ⟨id.binding, name⟩ with
      | some (.number n) => .number n
      | some (.text v) => .text v
      | _ => .computed (.member s (.ident id) key)
    | none => .computed (.member s (.ident id) key)
  | .template s (q :: qs) es =>
    match pieces t owner qs es with
    | some rest => .text (q.raw ++ rest)
    | none => .computed (.template s (q :: qs) es)
  | e => .computed e

/-- The text of the substitutions of a template, each with the piece after it. -/
def pieces (t : EnumTable) (owner : Ident) : List Quasi → List Expr → Option String
  | q :: qs, e :: es => do
    let v ← (evaluate t owner e).piece?
    let rest ← pieces t owner qs es
    return v ++ q.raw ++ rest
  | _, _ => some ""

end

/-- Names of members inside an expression become accesses to the enumeration. -/
def qualifying (t : EnumTable) (owner : Ident) (w : Walker Id) : Walker Id :=
  { w.through with
    expr := fun
      | .ident id =>
        if Std.HashMap.contains t ⟨owner.binding, id.name⟩ then .dot (.ident owner.unplaced) id.name id.span
        else .ident id
      | e => w.onExpr e }

/-- The value of a member after its predecessor's. -/
def valueOf (t : EnumTable) (owner : Ident) (depth : Nat) (init : Option Expr) (default : EnumValue) :
    EnumValue :=
  match init with
  | none => default
  | some e =>
    match evaluate t owner e with
    | .computed e => .computed ((Walker.fix (qualifying t owner) depth).expr e)
    | v => v

/-- The name of a member. -/
def nameOf : Expr → String
  | .keyName id => id.name
  | .str s => s.text
  | .keyComputed _ (.str s) => s.text
  | .num n => Text.numberText n.value
  | _ => ""

/-- Adds the members of one enumeration. -/
def addMembers (owner : Ident) (depth : Nat) (t : EnumTable) : List Stmt → EnumValue → EnumTable
  | .enumMember _ key init :: ms, default =>
    let v := valueOf t owner depth init default
    addMembers owner depth (Std.HashMap.insert t ⟨owner.binding, nameOf key⟩ v) ms v.next
  | _ :: ms, default => addMembers owner depth t ms default
  | [], _ => t

def collector (depth : Nat) (w : Walker (StateM EnumTable)) : Walker (StateM EnumTable) :=
  { w.through with
    stmt := fun
      | .enumDecl s isAmbient isConst id ms => do
        discard (w.onStmt (.enumDecl s isAmbient isConst id ms))
        modify fun t => addMembers id depth t ms (.number 0)
        return .enumDecl s isAmbient isConst id ms
      | s => w.onStmt s }

/-- The members of all enumerations of a program. -/
def ofProgram (body : List Stmt) (depth : Nat) : EnumTable :=
  ((body.mapM (Walker.fix (collector depth) depth).stmt).run {}).2

/-- The statement that fills in one member: its value by its name and, unless the value is a text, its
name by its value. -/
def fill (owner : Ident) (span : Span) (name : String) (value : EnumValue) : Stmt :=
  let object := Expr.ident owner.unplaced
  let byName := Expr.setTo (object.index (.text name)) value.expr
  match value with
  | .text _ => .expr span byName
  | _ => .expr span (.setTo (object.index byName) (.text name))

/-- The value of a member that was collected. -/
def value (t : EnumTable) (owner : Ident) (key : Expr) : EnumValue :=
  Std.HashMap.getD t ⟨owner.binding, nameOf key⟩ .missing

/-- Whether the value of a member is known, so that nothing has to be filled in for it. -/
def isKnownMember (t : EnumTable) (owner : Ident) : Stmt → Bool
  | .enumMember _ key _ => (t.value owner key).isKnown
  | _ => false

/-- The value that an expression has because it names a known member. -/
def inlined? (t : EnumTable) : Expr → Option Expr
  | .member _ (.ident id) key => do
    let name ← accessKey? key
    match Std.HashMap.get? t ⟨id.binding, name⟩ with
    | some (.number n) => some (EnumValue.number n).expr
    | some (.text s) => some (EnumValue.text s).expr
    | _ => none
  | _ => none

end EnumTable

end Detype
