import Std.Data.HashSet
import Std.Data.HashMap
import Detype.Syntax.Walk
import Detype.Scope.Declared

/-
**The regions of a finished program.**

A region is a part of the program with declarations of its own. The regions of a program form a tree,
which says for each region what it declares and which variables occur in it.

* `Region` — one region with those inside it.
* `Survey.walker` — one step of the pass that builds the tree.
* `Program.survey` — the tree of a program and the names that nothing in it declares.
-/

namespace Detype

/-- A part of the program with its own declarations, in order; `occurring` also counts the regions
inside. -/
inductive Region where
  | node (declared : List Binding) (occurring : Std.HashSet Binding) (inner : List Region)

/-- What a name in a pattern does. -/
inductive NameRole where
  | use | declare | declareVar
deriving DecidableEq

/-- The region that is being read. -/
structure Survey where
  isFunction : Bool := true
  declared : Array Binding := #[]
  known : Std.HashSet Binding := {}
  occurring : Std.HashSet Binding := {}
  inner : Array Region := #[]
  /-- Variables that wait for the function around this region. -/
  raised : Array Binding := #[]
  role : NameRole := .use

abbrev Surveying := StateM Survey

namespace Survey

def addUse (b : Binding) (s : Survey) : Survey :=
  if b.mark == unmarked || b.name == "arguments" then s else { s with occurring := s.occurring.insert b }

def addDeclared (b : Binding) (s : Survey) : Survey :=
  if b.name == "arguments" then s
  else if s.known.contains b then s
  else { s with declared := s.declared.push b, known := s.known.insert b, occurring := s.occurring.insert b }

def addVar (b : Binding) (s : Survey) : Survey :=
  if s.isFunction then s.addDeclared b else { s with raised := s.raised.push b, occurring := s.occurring.insert b }

def region (s : Survey) : Region := .node s.declared.toList s.occurring s.inner.toList

/-- Runs inside a new region. -/
def within {α : Type} (isFunction : Bool) (act : Surveying α) : Surveying α := do
  let outer ← get
  set { isFunction : Survey }
  let a ← act
  let done ← get
  let outer := { outer with
    inner := outer.inner.push done.region
    occurring := outer.occurring.insertMany done.occurring.toList }
  set (done.raised.foldl (fun s b => s.addVar b) outer)
  return a

def use (id : Ident) : Surveying Unit := modify (·.addUse id.binding)
def declare (id : Ident) : Surveying Unit := modify (·.addDeclared id.binding)
def declareVar (id : Ident) : Surveying Unit := modify (·.addVar id.binding)

/-- Runs with another role for the names of patterns. -/
def withRole {α : Type} (role : NameRole) (act : Surveying α) : Surveying α := do
  let old := (← get).role
  modify ({ · with role })
  let a ← act
  modify ({ · with role := old })
  return a

def named (id : Ident) : Surveying Unit := do
  match (← get).role with
  | .use => use id
  | .declare => declare id
  | .declareVar => declareVar id

def jsxRoot : JsxName → Surveying Unit
  | .ident id => use id
  | .member _ obj _ => jsxRoot obj
  | .namespaced .. => pure ()

/-- Parameters and body in the region of the function. -/
def functionParts (w : Walker Surveying) (params : List Pat) (body : Option Block) : Surveying Unit := do
  withRole .declare (params.forM fun p => discard (w.pat p))
  withRole .use (body.forM fun b => b.stmts.forM fun s => discard (w.stmt s))

def func (w : Walker Surveying) (f : Func) : Surveying Func := do
  within true (functionParts w f.params f.body)
  return f

def member (w : Walker Surveying) : Member → Surveying Unit
  | .ctor _ _ params body => within true (functionParts w params body)
  | .staticBlock _ b => within true (functionParts w [] (some b))
  | m => discard (w.onMember m)

def cls (w : Walker Surveying) (c : Class) : Surveying Class := do
  c.decorators.forM fun e => discard (w.expr e)
  discard (w.optExpr c.superClass)
  c.members.forM (member w)
  return c

def exprRule (w : Walker Surveying) : Expr → Surveying Expr
  | .ident id => do use id; return .ident id
  | .propShorthand id => do use id; return .propShorthand id
  | .propDefault s id v => do use id; discard (w.expr v); return .propDefault s id v
  | .func (some id) f => do
    within true do
      declareVar id
      discard (w.func f)
    return .func (some id) f
  | .arrow s isAsync params body types => do
    within true do
      match body with
      | .block b => functionParts w params (some b)
      | .expr e =>
        functionParts w params none
        discard (w.expr e)
    return .arrow s isAsync params body types
  | .classExpr (some id) c => do
    within false do
      declare id
      discard (w.cls c)
    return .classExpr (some id) c
  | .jsxElement s o name attrs types selfClosing children closing => do
    jsxRoot name
    w.onExpr (.jsxElement s o name attrs types selfClosing children closing)
  | e => w.onExpr e

def expr (w : Walker Surveying) (e : Expr) : Surveying Expr := withRole .use (exprRule w e)

def pat (w : Walker Surveying) : Pat → Surveying Pat
  | .ident id => do named id; return .ident id
  | .propShorthand s id d => do
    named id
    discard (w.optExpr d)
    return .propShorthand s id d
  | p => w.onPat p

/-- Statements in a region of their own. -/
def block (w : Walker Surveying) (ss : List Stmt) : Surveying (List Stmt) := do
  within false (ss.forM fun s => discard (w.stmt s))
  return ss

def stmtRule (w : Walker Surveying) : Stmt → Surveying Stmt
  | .switch s e cases => do
    discard (w.expr e)
    within false do
      for c in cases do
        match c with
        | .switchCase _ t body =>
          discard (w.optExpr t)
          body.forM fun s => discard (w.stmt s)
        | c => discard (w.stmt c)
    return .switch s e cases
  | .catchClause s p b => do
    within false do
      withRole .declare (p.forM fun p => discard (w.pat p))
      b.stmts.forM fun s => discard (w.stmt s)
    return .catchClause s p b
  | .forLoop s i t u body => within false (w.onStmt (.forLoop s i t u body))
  | .forIn s l r body => within false (w.onStmt (.forIn s l r body))
  | .forOf s isAwait l r body => within false (w.onStmt (.forOf s isAwait l r body))
  | .classDecl id isAmbient c => do
    declare id
    discard (w.cls c)
    return .classDecl id isAmbient c
  | .funcDecl id isAmbient f => do
    declareVar id
    discard (w.func f)
    return .funcDecl id isAmbient f
  | .varDecl s kind isAmbient ds => do
    let role := if kind == .var then NameRole.declareVar else .declare
    ds.forM fun d => do
      withRole role (discard (w.pat d.name))
      discard (w.optExpr d.init)
    return .varDecl s kind isAmbient ds
  | .usingDecl s isAwait ds => do
    ds.forM fun d => do
      withRole .declare (discard (w.pat d.name))
      discard (w.optExpr d.init)
    return .usingDecl s isAwait ds
  | .importDecl s specifiers source typeOnly attributes phase => do
    specifiers.forM fun spec => declareVar spec.binding
    return .importDecl s specifiers source typeOnly attributes phase
  | .exportNamed s specifiers source typeOnly attributes => do
    if source.isNone then
      specifiers.forM fun
        | .named _ (.ident id) _ _ => use id
        | _ => pure ()
    return .exportNamed s specifiers source typeOnly attributes
  | .exportDefaultClass s id c => do
    id.forM declare
    discard (w.cls c)
    return .exportDefaultClass s id c
  | .exportDefaultFunc s id f => do
    id.forM declareVar
    discard (w.func f)
    return .exportDefaultFunc s id f
  | s => w.onStmt s

def stmt (w : Walker Surveying) (s : Stmt) : Surveying Stmt := withRole .use (stmtRule w s)

/-- One step of the pass. -/
def walker (w : Walker Surveying) : Walker Surveying :=
  { expr := expr w, pat := pat w, stmt := stmt w, stmts := block w, func := func w, cls := cls w }

end Survey

mutual

/-- Every variable that some region declares. -/
def Region.allDeclared : Region → List Binding
  | .node declared _ inner => declared ++ Region.allDeclaredList inner

def Region.allDeclaredList : List Region → List Binding
  | [] => []
  | r :: rs => r.allDeclared ++ Region.allDeclaredList rs

end

/-- The regions of a program, and the names that occur in it though nothing declares them. -/
def Program.survey (p : Program) (depth : Nat) : Region × Std.HashSet String :=
  let w := Walker.fix Survey.walker depth
  let (_, s) := (p.body.mapM w.stmt).run {}
  let region := s.region
  let declared := Std.HashSet.ofList region.allDeclared
  let free := s.occurring.toList.filterMap fun b => if declared.contains b then none else some b.name
  (region, .ofList free)

end Detype
