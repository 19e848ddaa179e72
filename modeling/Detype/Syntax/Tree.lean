import Detype.Syntax.Span

/-
**Syntax trees.**

Expressions, patterns, types and statements of a TypeScript program. Of a type the tree keeps how it is
put together and what else stands in it, such as the computed name of a member; its names and literals
say nothing to a compiler that only removes types.

* `Expr`, `Pat`, `Ty`, `Stmt` — the four large categories.
* `Func`, `Class`, `Member`, `Declarator` — what they share.
* `Program` — a script or a module.
-/

namespace Detype

/-- The value of a string literal: code points, among which a lone surrogate may stand. -/
structure StrValue where
  points : List Nat
deriving DecidableEq, Inhabited, Repr

namespace StrValue

def ofString (s : String) : StrValue := ⟨s.toList.map Char.toNat⟩

/-- The value as text, with U+FFFD for a lone surrogate. -/
def text (v : StrValue) : String :=
  String.ofList (v.points.map fun p => if 0xD800 ≤ p && p ≤ 0xDFFF then Char.ofNat 0xFFFD else Char.ofNat p)

end StrValue

/-- A string literal; `raw` is its spelling in the source. -/
structure Str where
  value : StrValue
  span : Span := {}
  raw : Option String := none
deriving Inhabited

def Str.of (s : String) (span : Span := {}) : Str := { value := .ofString s, span }

def Str.text (s : Str) : String := s.value.text

/-- A numeric literal; `raw` is its spelling in the source. -/
structure Num where
  value : Float
  span : Span := {}
  raw : Option String := none
deriving Inhabited

/-- Whether a number is written with a minus sign. -/
def Num.isNegative (n : Num) : Bool := n.value < 0 || (n.value == 0 && 1 / n.value < 0)

inductive UnaryOp where
  | minus | plus | bang | tilde | typeOf | void | delete
deriving DecidableEq, Inhabited, Repr

inductive UpdateOp where
  | increment | decrement
deriving DecidableEq, Inhabited, Repr

inductive BinaryOp where
  | eqEq | notEq | eqEqEq | notEqEq | lt | ltEq | gt | gtEq | shl | shr | ushr
  | add | sub | mul | div | mod | bitOr | bitXor | bitAnd | or | and | isIn | instanceOf | exp | nullish
deriving DecidableEq, Inhabited, Repr

/-- Assignment, plain or combined with a binary operator. -/
inductive AssignOp where
  | assign | compound (op : BinaryOp)
deriving DecidableEq, Inhabited, Repr

inductive VarKind where
  | var | lexical | constant
deriving DecidableEq, Inhabited, Repr

inductive MethodKind where
  | method | getter | setter
deriving DecidableEq, Inhabited, Repr

inductive MetaKind where
  | newTarget | importMeta
deriving DecidableEq, Inhabited, Repr

/-- The phase of an import: `import`, `import source`, `import defer`. -/
inductive ImportPhase where
  | evaluation | source | deferred
deriving DecidableEq, Inhabited, Repr

/-- The type-level wrappers around an expression. -/
inductive TypeWrap where
  | asType | asConst | nonNull | assertion | instantiation | satisfies
deriving DecidableEq, Inhabited, Repr

/-- One text piece of a template literal. `cooked` is missing if it has an invalid escape. -/
structure Quasi where
  span : Span := {}
  raw : String
  cooked : Option StrValue
deriving Inhabited

/-- The name of an import or export: an identifier or a string. -/
inductive ExportName where
  | ident (id : Ident)
  | str (s : Str)
deriving Inhabited

inductive ImportSpecifier where
  | named (span : Span) (binding : Ident) (imported : Option ExportName) (typeOnly : Bool)
  | default (span : Span) (binding : Ident)
  | namespaceAll (span : Span) (binding : Ident)
deriving Inhabited

inductive ExportSpecifier where
  | named (span : Span) (orig : ExportName) (exported : Option ExportName) (typeOnly : Bool)
  | namespaceAll (span : Span) (name : ExportName)
deriving Inhabited

/-- What the right side of `import x = …` names. -/
inductive ImportTarget where
  | external (span : Span) (source : Str)
  | entity (names : List Ident)
deriving Inhabited

/-- The name of a JSX element or attribute. -/
inductive JsxName where
  | ident (id : Ident)
  | member (span : Span) (obj : JsxName) (prop : Ident)
  | namespaced (span : Span) (ns name : Ident)
deriving Inhabited

mutual

/-- Expressions, and the parts that only stand inside one: property names, properties of an object,
spread arguments, the pieces of a JSX element. The `types` of an arrow function are its type parameters
and the type of its result; those of other expressions are arguments, or what a wrapper names. -/
inductive Expr where
  | thisRef (span : Span)
  | superRef (span : Span)
  | importRef (span : Span) (phase : ImportPhase)
  | ident (id : Ident)
  | null (span : Span)
  | bool (span : Span) (value : Bool)
  | num (n : Num)
  | str (s : Str)
  | bigint (span : Span) (raw : String)
  | regex (span : Span) (pattern flags : String)
  | array (span : Span) (elems : List Expr)
  | object (span : Span) (props : List Expr)
  | func (id : Option Ident) (f : Func)
  | arrow (span : Span) (isAsync : Bool) (params : List Pat) (body : ArrowBody) (types : List Ty)
  | classExpr (id : Option Ident) (c : Class)
  | unary (span : Span) (op : UnaryOp) (arg : Expr)
  | update (span : Span) (op : UpdateOp) (before : Bool) (arg : Expr)
  | binary (span : Span) (op : BinaryOp) (left right : Expr)
  | assign (span : Span) (op : AssignOp) (target : Pat) (value : Expr)
  | member (span : Span) (obj key : Expr)
  | cond (span : Span) (test whenTrue whenFalse : Expr)
  | call (span : Span) (callee : Expr) (args : List Expr) (types : List Ty)
  | new (span : Span) (callee : Expr) (args : List Expr) (bare : Bool) (types : List Ty)
  | seq (span : Span) (exprs : List Expr)
  | template (span : Span) (quasis : List Quasi) (exprs : List Expr)
  | tagged (span : Span) (tag template : Expr) (types : List Ty)
  | yield (span : Span) (delegate : Bool) (arg : Option Expr)
  | await (span : Span) (arg : Expr)
  | metaProp (span : Span) (kind : MetaKind)
  | paren (span : Span) (inner : Expr)
  | optChain (span : Span) (optional : Bool) (base : Expr)
  | typed (span : Span) (wrap : TypeWrap) (inner : Expr) (types : List Ty)
  | invalid (span : Span)
  /-- An element left out of an array. -/
  | hole
  | spread (dots : Span) (arg : Expr)
  | keyName (id : Ident)
  | keyPrivate (id : Ident)
  | keyComputed (span : Span) (e : Expr)
  | propShorthand (id : Ident)
  | propValue (key value : Expr)
  | propDefault (span : Span) (id : Ident) (value : Expr)
  | propMethod (span : Span) (kind : MethodKind) (key : Expr) (f : Func)
  | jsxElement (span openSpan : Span) (name : JsxName) (attrs : List Expr) (types : List Ty)
      (selfClosing : Bool) (children : List Expr) (closing : Option (Span × JsxName))
  | jsxFragment (span openSpan closeSpan : Span) (children : List Expr)
  | jsxText (span : Span) (raw : String)
  | jsxContainer (span : Span) (e : Expr)
  | jsxEmpty (span : Span)
  | jsxSpreadChild (span : Span) (e : Expr)
  | jsxAttr (span : Span) (name : JsxName) (value : Option Expr)

inductive ArrowBody where
  | block (b : Block)
  | expr (e : Expr)

/-- Patterns, with the properties of an object pattern and the parameters of a function. -/
inductive Pat where
  | ident (id : Ident)
  | array (span : Span) (elems : List Pat)
  | object (span : Span) (props : List Pat)
  | rest (span dots : Span) (arg : Pat)
  | assign (span : Span) (left : Pat) (right : Expr)
  | expr (e : Expr)
  | invalid (span : Span)
  /-- An element left out of an array pattern. -/
  | hole
  | propValue (key : Expr) (value : Pat)
  | propShorthand (span : Span) (id : Ident) (default : Option Expr)
  /-- A formal parameter; `declares` holds for one that declares a field of its class. -/
  | param (span : Span) (decorators : List Expr) (declares : Bool) (pat : Pat)
  /-- A pattern with a type after it. -/
  | typed (pat : Pat) (type : Ty)

/-- Types, and the parts that only stand inside one: type parameters, members of an object type, elements
of a tuple, entries of a heritage clause. -/
inductive Ty where
  /-- A keyword, a literal or `this`. -/
  | simple
  | named (args : List Ty)
  /-- The type of a value, which is named or comes from an import. -/
  | query (source : Option Ty) (args : List Ty)
  | imported (args : List Ty) (attributes : Option Expr)
  /-- What a function says about a parameter or `this` by its result. -/
  | predicate (type : Option Ty)
  | function (params : List Pat) (typeParams : List Ty) (result : Ty)
  | object (members : List Ty)
  | mapped (param : Ty) (name type : Option Ty)
  | array (element : Ty)
  | tuple (elements : List Ty)
  | optional (type : Ty)
  | rest (type : Ty)
  | union (types : List Ty)
  | intersection (types : List Ty)
  | conditional (checked bound whenTrue whenFalse : Ty)
  | infer (param : Ty)
  | operator (type : Ty)
  | indexed (obj index : Ty)
  | template (types : List Ty)
  | paren (inner : Ty)
  | typeParam (bound default : Option Ty)
  | tupleElement (label : Option Pat) (type : Ty)
  /-- What an interface extends or a class implements. -/
  | heritage (e : Expr) (args : List Ty)
  /-- A call or construct signature. -/
  | callSignature (params : List Pat) (result : Option Ty) (typeParams : List Ty)
  /-- A property, or a getter. -/
  | property (key : Expr) (type : Option Ty)
  | setter (key : Expr) (param : Pat)
  | method (key : Expr) (params : List Pat) (result : Option Ty) (typeParams : List Ty)
  | indexSignature (params : List Pat) (type : Option Ty)

structure Func where
  span : Span
  params : List Pat
  body : Option Block
  /-- Its type parameters, and the type of its result. -/
  types : List Ty
  isGenerator : Bool
  isAsync : Bool

structure Block where
  span : Span
  stmts : List Stmt

structure Class where
  span : Span
  decorators : List Expr
  superClass : Option Expr
  members : List Member
  /-- Its type parameters, the type arguments of what it extends, and what it implements. -/
  types : List Ty

inductive Member where
  | ctor (span : Span) (key : Expr) (params : List Pat) (body : Option Block)
  | method (m : Method)
  | field (f : Field)
  | accessor (f : Field)
  | staticBlock (span : Span) (body : Block)
  | indexSignature (span : Span) (signature : Ty)
  | empty (span : Span)

structure Method where
  span : Span
  key : Expr
  func : Func
  decorators : List Expr
  kind : MethodKind
  isStatic : Bool
  isAbstract : Bool

structure Field where
  span : Span
  key : Expr
  value : Option Expr
  type : Option Ty
  decorators : List Expr
  isStatic : Bool
  isAbstract : Bool
  isAmbient : Bool

structure Declarator where
  span : Span
  name : Pat
  init : Option Expr
  definite : Bool
  /-- The place of the name with its type, if it has one. -/
  typed : Option Span := none

/-- Statements, declarations and module items, with the clauses of `switch`, `try` and the members
of an enumeration. -/
inductive Stmt where
  | expr (span : Span) (e : Expr)
  | block (b : Block)
  | empty (span : Span)
  | debugger (span : Span)
  | withStmt (span : Span) (obj : Expr) (body : Stmt)
  | returnStmt (span : Span) (arg : Option Expr)
  | labeled (span : Span) (label : Ident) (body : Stmt)
  | breakStmt (span : Span) (label : Option Ident)
  | continueStmt (span : Span) (label : Option Ident)
  | ifStmt (span : Span) (test : Expr) (whenTrue : Stmt) (whenFalse : Option Stmt)
  | switch (span : Span) (subject : Expr) (cases : List Stmt)
  | switchCase (span : Span) (test : Option Expr) (body : List Stmt)
  | throwStmt (span : Span) (arg : Expr)
  | tryStmt (span : Span) (body : Block) (handler : Option Stmt) (finalizer : Option Block)
  | catchClause (span : Span) (param : Option Pat) (body : Block)
  | whileLoop (span : Span) (test : Expr) (body : Stmt)
  | doWhile (span : Span) (body : Stmt) (test : Expr)
  | forLoop (span : Span) (init : Option Stmt) (test update : Option Expr) (body : Stmt)
  | forIn (span : Span) (left : Stmt) (right : Expr) (body : Stmt)
  | forOf (span : Span) (isAwait : Bool) (left : Stmt) (right : Expr) (body : Stmt)
  /-- The target of a `for … in` or `for … of` loop that declares nothing. -/
  | forTarget (p : Pat)
  | classDecl (id : Ident) (isAmbient : Bool) (c : Class)
  | funcDecl (id : Ident) (isAmbient : Bool) (f : Func)
  | varDecl (span : Span) (kind : VarKind) (isAmbient : Bool) (decls : List Declarator)
  | usingDecl (span : Span) (isAwait : Bool) (decls : List Declarator)
  /-- The types of an interface are its type parameters, what it extends, and its members. -/
  | interfaceDecl (span : Span) (id : Ident) (types : List Ty)
  /-- The types of an alias are its type parameters and what it stands for. -/
  | typeAlias (span : Span) (id : Ident) (types : List Ty)
  | enumDecl (span : Span) (isAmbient isConst : Bool) (id : Ident) (members : List Stmt)
  | enumMember (span : Span) (key : Expr) (init : Option Expr)
  | namespaceDecl (span : Span) (isAmbient isGlobal : Bool) (name : ExportName) (body : Option Stmt)
  | namespaceBlock (span : Span) (stmts : List Stmt)
  | importDecl (span : Span) (specifiers : List ImportSpecifier) (source : Str) (typeOnly : Bool)
      (attributes : Option Expr) (phase : ImportPhase)
  | exportDecl (span : Span) (d : Stmt)
  | exportNamed (span : Span) (specifiers : List ExportSpecifier) (source : Option Str)
      (typeOnly : Bool) (attributes : Option Expr)
  | exportAll (span : Span) (source : Str) (typeOnly : Bool) (attributes : Option Expr)
  | exportDefaultClass (span : Span) (id : Option Ident) (c : Class)
  | exportDefaultFunc (span : Span) (id : Option Ident) (f : Func)
  | exportDefaultInterface (span : Span) (id : Ident) (types : List Ty)
  | exportDefaultExpr (span : Span) (e : Expr)
  | importEquals (span : Span) (isExport typeOnly : Bool) (id : Ident) (target : ImportTarget)
  | exportAssign (span : Span) (e : Expr)
  | exportAsNamespace (span : Span) (id : Ident)

end

instance : Inhabited Expr := ⟨.invalid {}⟩
instance : Inhabited Pat := ⟨.invalid {}⟩
instance : Inhabited Stmt := ⟨.empty {}⟩

def JsxName.span : JsxName → Span
  | .ident id => id.span
  | .member s _ _ | .namespaced s _ _ => s

def ExportName.span : ExportName → Span
  | .ident id => id.span
  | .str s => s.span

def ExportName.text : ExportName → String
  | .ident id => id.name
  | .str s => s.text

namespace Expr

/-- The place of an expression. -/
def span : Expr → Span
  | thisRef s | superRef s | importRef s _ | null s | bool s _ | bigint s _ | regex s _ _ | array s _
  | object s _ | arrow s _ _ _ _ | unary s _ _ | update s _ _ _ | binary s _ _ _ | assign s _ _ _
  | member s _ _ | cond s _ _ _ | call s _ _ _ | new s _ _ _ _ | seq s _ | template s _ _ | tagged s _ _ _
  | yield s _ _ | await s _ | metaProp s _ | paren s _ | optChain s _ _ | typed s _ _ _ | invalid s
  | keyComputed s _ | propDefault s _ _ | propMethod s _ _ _ | jsxElement s _ _ _ _ _ _ _
  | jsxFragment s _ _ _ | jsxText s _ | jsxContainer s _ | jsxEmpty s | jsxSpreadChild s _
  | jsxAttr s _ _ => s
  | ident id | keyName id | keyPrivate id | propShorthand id => id.span
  | num n => n.span
  | str s => s.span
  | func _ f => f.span
  | classExpr _ c => c.span
  | hole => {}
  | spread dots e => ⟨dots.lo, e.span.hi⟩
  | propValue k v => ⟨k.span.lo, v.span.hi⟩

end Expr

/-- The place of a pattern. -/
def Pat.span : Pat → Span
  | ident id => id.span
  | array s _ | object s _ | rest s _ _ | assign s _ _ | invalid s | propShorthand s _ _
  | param s _ _ _ => s
  | expr e => e.span
  | hole => {}
  | propValue k v => ⟨k.span.lo, v.span.hi⟩
  | typed p _ => p.span

/-- A parameter without its decorators. -/
def Pat.undecorated : Pat → Pat
  | param _ _ _ p => p
  | p => p

/-- A pattern without the type after it. -/
def Pat.untyped : Pat → Pat
  | typed p _ => p
  | p => p

def Ty.isTypeParam : Ty → Bool
  | typeParam _ _ => true
  | _ => false

/-- Of the types of a function, the type of its result. -/
def Ty.withoutParams (types : List Ty) : List Ty := types.filter (!·.isTypeParam)

/-- The place of a class member. -/
def Member.span : Member → Span
  | ctor s _ _ _ | staticBlock s _ | indexSignature s _ | empty s => s
  | method m => m.span
  | field f | accessor f => f.span

/-- The place of a statement. -/
def Stmt.span : Stmt → Span
  | expr s _ | empty s | debugger s | withStmt s _ _ | returnStmt s _ | labeled s _ _ | breakStmt s _
  | continueStmt s _ | ifStmt s _ _ _ | switch s _ _ | switchCase s _ _ | throwStmt s _
  | tryStmt s _ _ _ | catchClause s _ _ | whileLoop s _ _ | doWhile s _ _ | forLoop s _ _ _ _
  | forIn s _ _ _ | forOf s _ _ _ _ | varDecl s _ _ _ | usingDecl s _ _ | interfaceDecl s _ _
  | typeAlias s _ _ | enumDecl s _ _ _ _ | enumMember s _ _ | namespaceDecl s _ _ _ _
  | namespaceBlock s _ | importDecl s _ _ _ _ _ | exportDecl s _ | exportNamed s _ _ _ _
  | exportAll s _ _ _ | exportDefaultClass s _ _ | exportDefaultFunc s _ _
  | exportDefaultInterface s _ _ | exportDefaultExpr s _ | importEquals s _ _ _ _ | exportAssign s _
  | exportAsNamespace s _ => s
  | block b => b.span
  | forTarget p => p.span
  | classDecl _ _ c => c.span
  | funcDecl _ _ f => f.span

/-- A whole source text: its interpreter line and its statements. -/
structure Program where
  isModule : Bool
  span : Span
  shebang : Option String
  body : List Stmt

end Detype
