import Detype.Syntax.Tree

/-
**Code that the compiler writes.**

Short forms for expressions and statements that stand nowhere in the source.
-/

namespace Detype

/-- The name of a property. -/
def Expr.key (name : String) (span : Span := {}) : Expr := .keyName ⟨name, span, unmarked⟩

namespace Expr

def global (name : String) : Expr := .ident ⟨name, {}, globalMark⟩

def text (s : String) : Expr := .str (.of s)

def number (n : Float) : Expr := .num { value := n }

def ofNat (n : Nat) : Expr := .num { value := n.toFloat }

/-- `void 0` -/
def undefinedValue : Expr := .unary {} .void (ofNat 0)

def dot (e : Expr) (name : String) (span : Span := {}) : Expr := .member {} e (key name span)

def index (e i : Expr) : Expr := .member {} e (.keyComputed {} i)

def apply (f : Expr) (args : List Expr) : Expr := .call {} f args []

/-- A call that has no effect of its own. -/
def applyPure (f : Expr) (args : List Expr) : Expr := .call .pureCall f args []

/-- An assignment to a variable or a property. -/
def setTo : Expr → Expr → Expr
  | .ident id, v => .assign {} .assign (.ident id) v
  | e, v => .assign {} .assign (.expr e) v

def orElse (a b : Expr) : Expr := .binary {} .or a b

/-- A function expression with plain parameters. -/
def lambda (params : List Ident) (body : List Stmt) (bodySpan : Span := {}) : Expr :=
  .func none
    { span := {}, params := params.map fun id => .param {} [] false (.ident id)
      body := some ⟨bodySpan, body⟩, types := [], isGenerator := false, isAsync := false }

/-- `() => e` -/
def thunk (params : List Ident) (e : Expr) : Expr :=
  .arrow {} false (params.map fun id => .ident id) (.expr e) []

/-- The expressions one after the other. -/
def sequence : List Expr → Expr
  | [e] => e
  | es => .seq {} es

end Expr

namespace Stmt

def ofExpr (e : Expr) (span : Span := {}) : Stmt := .expr span e

def result (e : Expr) : Stmt := .returnStmt {} (some e)

def declare (kind : VarKind) (id : Ident) (value : Option Expr) (span : Span := {}) : Stmt :=
  .varDecl span kind false [⟨{}, .ident id, value, false, none⟩]

/-- `var` with several names and no values. -/
def declareAll (ids : List Ident) : Stmt :=
  .varDecl {} .var false (ids.map fun id => ⟨{}, .ident id, none, false, none⟩)

/-- `"use strict"` -/
def strictMode : Stmt := .expr {} (.str (.of "use strict"))

/-- Whether a statement is a string that stands for a directive. -/
def isDirective : Stmt → Bool
  | .expr _ (.str _) => true
  | _ => false

end Stmt

/-- The directives at the start of some statements, and the rest. -/
def splitDirectives (body : List Stmt) : List Stmt × List Stmt :=
  (body.takeWhile Stmt.isDirective, body.dropWhile Stmt.isDirective)

/-- The statements with some more after the directives. -/
def afterDirectives (more body : List Stmt) : List Stmt :=
  let (directives, rest) := splitDirectives body
  directives ++ more ++ rest

end Detype
