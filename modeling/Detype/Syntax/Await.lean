import Detype.Syntax.Tree

/-
**Top-level `await`.**

A module that is loaded by `require` runs to its end at once, so an `await` outside every function has
nothing to suspend. A search goes through the tree, types included, counts the functions around the node
that it is at, and records what waits while the count is zero. The functions that count are function
declarations and expressions, arrow functions and methods; function types and signatures do not.

* `AwaitFinder` — the state of a search, with the steps that change it.
* `Expr.visit`, `Stmt.visit`, … — the search through one node, in the order of its fields.
* `Program.topLevelAwaits` — the places of a program that wait outside every function.
-/

namespace Detype

/-- The state of a search: how many functions are around, and the places found so far. -/
structure AwaitFinder where
  functionDepth : Nat := 0
  spans : List Span := []

namespace AwaitFinder

abbrev Visit := StateM AwaitFinder Unit

/-- Records a place that waits, if no function is around it. -/
def record (span : Span) : Visit :=
  modify fun s => if s.functionDepth = 0 then { s with spans := s.spans ++ [span] } else s

/-- Goes through the parts of a function. -/
def insideFunction (parts : Visit) : Visit := do
  modify fun s => { s with functionDepth := s.functionDepth + 1 }
  parts
  modify fun s => { s with functionDepth := s.functionDepth - 1 }

end AwaitFinder

open AwaitFinder

mutual

def Expr.visit : Expr → Visit
  | .await s a => do
    record s
    a.visit
  | .func _ f => insideFunction (f.visit (pure ()))
  | .arrow _ _ params body types => insideFunction do
    Pat.visitAll params
    body.visit
    Ty.visitAll types
  | .propMethod _ .method k f => do
    k.visit
    insideFunction (f.visit (pure ()))
  -- A getter or a setter of an object has its parts as fields of its own, the type of its result before its body.
  | .propMethod _ _ k ⟨_, params, body, types, _, _⟩ => do
    k.visit
    Ty.visitAll types
    Pat.visitAll params
    Block.visitOption body
  | .array _ es | .object _ es | .seq _ es | .template _ _ es => Expr.visitAll es
  | .classExpr _ c => c.visit
  | .unary _ _ e | .update _ _ _ e | .paren _ e | .optChain _ _ e | .spread _ e
  | .keyComputed _ e | .propDefault _ _ e | .jsxContainer _ e | .jsxSpreadChild _ e => e.visit
  | .typed _ _ e types => do
    e.visit
    Ty.visitAll types
  | .binary _ _ a b | .member _ a b | .propValue a b => do
    a.visit
    b.visit
  -- Its type arguments stand between the tag and the template, and are visited there.
  | .tagged _ tag template types => do
    tag.visit
    Ty.visitAll types
    template.visit
  | .assign _ _ t v => do
    t.visit
    v.visit
  | .cond _ a b c => do
    a.visit
    b.visit
    c.visit
  | .call _ f args types | .new _ f args _ types => do
    f.visit
    Expr.visitAll args
    Ty.visitAll types
  | .yield _ _ a | .jsxAttr _ _ a => Expr.visitOption a
  | .jsxElement _ _ _ attrs types _ children _ => do
    Expr.visitAll attrs
    Ty.visitAll types
    Expr.visitAll children
  | .jsxFragment _ _ _ children => Expr.visitAll children
  | .thisRef _ | .superRef _ | .importRef _ _ | .ident _ | .null _ | .bool _ _ | .num _ | .str _
  | .bigint _ _ | .regex _ _ _ | .metaProp _ _ | .invalid _ | .hole | .keyName _ | .keyPrivate _
  | .propShorthand _ | .jsxText _ _ | .jsxEmpty _ => pure ()

def Expr.visitAll : List Expr → Visit
  | [] => pure ()
  | e :: es => do
    e.visit
    Expr.visitAll es

def Expr.visitOption : Option Expr → Visit
  | none => pure ()
  | some e => e.visit

def ArrowBody.visit : ArrowBody → Visit
  | .block b => b.visit
  | .expr e => e.visit

def Pat.visit : Pat → Visit
  | .array _ ps | .object _ ps => Pat.visitAll ps
  | .rest _ _ p => p.visit
  | .assign _ p e => do
    p.visit
    e.visit
  | .expr e => e.visit
  | .propValue k p => do
    k.visit
    p.visit
  | .propShorthand _ _ d => Expr.visitOption d
  | .param _ ds _ p => do
    Expr.visitAll ds
    p.visit
  | .typed p type => do
    p.visit
    type.visit
  | .ident _ | .invalid _ | .hole => pure ()

def Pat.visitAll : List Pat → Visit
  | [] => pure ()
  | p :: ps => do
    p.visit
    Pat.visitAll ps

def Pat.visitOption : Option Pat → Visit
  | none => pure ()
  | some p => p.visit

def Ty.visit : Ty → Visit
  | .named types | .object types | .tuple types | .union types | .intersection types | .template types =>
    Ty.visitAll types
  | .query source args => do
    Ty.visitOption source
    Ty.visitAll args
  | .imported args attributes => do
    Ty.visitAll args
    Expr.visitOption attributes
  | .predicate type => Ty.visitOption type
  | .function params typeParams result => do
    Pat.visitAll params
    Ty.visitAll typeParams
    result.visit
  | .mapped param name type => do
    param.visit
    Ty.visitOption name
    Ty.visitOption type
  | .array type | .optional type | .rest type | .infer type | .operator type | .paren type => type.visit
  | .conditional checked bound whenTrue whenFalse => do
    checked.visit
    bound.visit
    whenTrue.visit
    whenFalse.visit
  | .indexed obj index => do
    obj.visit
    index.visit
  | .typeParam bound default => do
    Ty.visitOption bound
    Ty.visitOption default
  | .tupleElement label type => do
    Pat.visitOption label
    type.visit
  | .heritage e args => do
    e.visit
    Ty.visitAll args
  | .callSignature params result typeParams => do
    Pat.visitAll params
    Ty.visitOption result
    Ty.visitAll typeParams
  | .property key type => do
    key.visit
    Ty.visitOption type
  | .setter key param => do
    key.visit
    param.visit
  | .method key params result typeParams => do
    key.visit
    Pat.visitAll params
    Ty.visitOption result
    Ty.visitAll typeParams
  | .indexSignature params type => do
    Pat.visitAll params
    Ty.visitOption type
  | .simple => pure ()

def Ty.visitAll : List Ty → Visit
  | [] => pure ()
  | t :: ts => do
    t.visit
    Ty.visitAll ts

def Ty.visitOption : Option Ty → Visit
  | none => pure ()
  | some t => t.visit

/-- Parameters, body and types, with the search through the decorators of a method after the parameters. -/
def Func.visit : Func → Visit → Visit
  | ⟨_, params, body, types, _, _⟩, decorators => do
    Pat.visitAll params
    decorators
    Block.visitOption body
    Ty.visitAll types

def Block.visit : Block → Visit
  | ⟨_, ss⟩ => Stmt.visitAll ss

def Block.visitOption : Option Block → Visit
  | none => pure ()
  | some b => b.visit

def Class.visit : Class → Visit
  | ⟨_, ds, parent, members, types⟩ => do
    Expr.visitAll ds
    Member.visitAll members
    Expr.visitOption parent
    Ty.visitAll types

def Member.visit : Member → Visit
  | .ctor _ k params body => do
    k.visit
    Pat.visitAll params
    Block.visitOption body
  | .method m => m.visit
  | .field f | .accessor f => f.visit
  | .staticBlock _ b => b.visit
  | .indexSignature _ signature => signature.visit
  | .empty _ => pure ()

def Member.visitAll : List Member → Visit
  | [] => pure ()
  | m :: ms => do
    m.visit
    Member.visitAll ms

/-- The decorators of a method belong to its function. -/
def Method.visit : Method → Visit
  | ⟨_, k, f, ds, _, _, _⟩ => do
    k.visit
    insideFunction (f.visit (Expr.visitAll ds))

def Field.visit : Field → Visit
  | ⟨_, k, v, type, ds, _, _, _⟩ => do
    k.visit
    Expr.visitOption v
    Ty.visitOption type
    Expr.visitAll ds

def Declarator.visit : Declarator → Visit
  | ⟨_, p, v, _, _⟩ => do
    p.visit
    Expr.visitOption v

def Declarator.visitAll : List Declarator → Visit
  | [] => pure ()
  | d :: ds => do
    d.visit
    Declarator.visitAll ds

def Stmt.visit : Stmt → Visit
  | .forOf s isAwait l r b => do
    if isAwait then record s
    l.visit
    r.visit
    b.visit
  | .usingDecl s isAwait ds => do
    if isAwait then record s
    Declarator.visitAll ds
  | .funcDecl _ _ f | .exportDefaultFunc _ _ f => insideFunction (f.visit (pure ()))
  | .expr _ e | .throwStmt _ e | .exportDefaultExpr _ e | .exportAssign _ e => e.visit
  | .block b => b.visit
  -- The test of a `do` loop is the field before its body too.
  | .withStmt _ e b | .whileLoop _ e b | .doWhile _ b e => do
    e.visit
    b.visit
  | .returnStmt _ e => Expr.visitOption e
  | .labeled _ _ b | .exportDecl _ b => b.visit
  | .ifStmt _ t a b => do
    t.visit
    a.visit
    Stmt.visitOption b
  | .switch _ e cs => do
    e.visit
    Stmt.visitAll cs
  | .switchCase _ t b => do
    Expr.visitOption t
    Stmt.visitAll b
  | .tryStmt _ b h f => do
    b.visit
    Stmt.visitOption h
    Block.visitOption f
  | .catchClause _ p b => do
    Pat.visitOption p
    b.visit
  | .forLoop _ i t u b => do
    Stmt.visitOption i
    Expr.visitOption t
    Expr.visitOption u
    b.visit
  | .forIn _ l r b => do
    l.visit
    r.visit
    b.visit
  | .forTarget p => p.visit
  | .classDecl _ _ c | .exportDefaultClass _ _ c => c.visit
  | .varDecl _ _ _ ds => Declarator.visitAll ds
  | .enumDecl _ _ _ _ ms => Stmt.visitAll ms
  | .enumMember _ k v => do
    k.visit
    Expr.visitOption v
  | .namespaceDecl _ _ _ _ b => Stmt.visitOption b
  | .namespaceBlock _ ss => Stmt.visitAll ss
  | .importDecl _ _ _ _ e _ | .exportNamed _ _ _ _ e | .exportAll _ _ _ e => Expr.visitOption e
  | .interfaceDecl _ _ types | .typeAlias _ _ types | .exportDefaultInterface _ _ types => Ty.visitAll types
  | .empty _ | .debugger _ | .breakStmt _ _ | .continueStmt _ _ | .importEquals _ _ _ _ _
  | .exportAsNamespace _ _ => pure ()

def Stmt.visitAll : List Stmt → Visit
  | [] => pure ()
  | s :: ss => do
    s.visit
    Stmt.visitAll ss

def Stmt.visitOption : Option Stmt → Visit
  | none => pure ()
  | some s => s.visit

end

/-- The places of a program that wait outside every function. -/
def Program.topLevelAwaits (p : Program) : List Span := ((Stmt.visitAll p.body).run {}).2.spans

end Detype
