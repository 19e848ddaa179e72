import Std.Data.HashSet
import Detype.Syntax.Walk
import Detype.Scope.Declared

/-
**Which declaration a name refers to.**

Every name of the tree gets the mark of the scope that declares it, so that from here on two variables
of one spelling differ. A name that nothing declares gets `globalMark`.

* `Scopes` — the scopes around a place, the innermost first.
* `Resolve.walker` — one step of the pass.
* `Program.resolve` — the whole program.
-/

namespace Detype

structure Scope where
  mark : Nat
  names : Std.HashSet String

structure Scopes where
  stack : List Scope := []
  /-- The mark of the next scope. -/
  next : Nat := firstFreeMark
  isModule : Bool

namespace Scopes

/-- The mark of the innermost scope that declares a name. In a script the names of the fixed global
values cannot be declared anew at the top level. -/
def mark (s : Scopes) (name : String) : Nat :=
  match s.stack.find? (·.names.contains name) with
  | none => globalMark
  | some scope =>
    if scope.mark == topLevelMark && !s.isModule && ["undefined", "NaN", "Infinity"].contains name
    then globalMark else scope.mark

end Scopes

abbrev Resolve := StateM Scopes

namespace Resolve

def names (ids : List Ident) : Std.HashSet String := .ofList (ids.map Ident.name)

/-- What a function body hands up to its own scope: every `var`, and each nested function that no
parameter or lexical declaration of that name shields. -/
def functionNames (params : List Ident) (body : List Stmt) : Std.HashSet String :=
  let shielded := names (params ++ body.flatMap Stmt.shields)
  let raised := (Stmt.hoistedAll body).filterMap fun
    | .var id => some id.name
    | .func id => if shielded.contains id.name then none else some id.name
  (names (params ++ body.flatMap Stmt.lexical)).insertMany raised

/-- Runs inside a new scope that declares the given names. -/
def within {α : Type} (names : Std.HashSet String) (act : Resolve α) : Resolve α := do
  modify fun s => { s with stack := ⟨s.next, names⟩ :: s.stack, next := s.next + 1 }
  let a ← act
  modify fun s => { s with stack := s.stack.tail }
  return a

def ident (id : Ident) : Resolve Ident := return { id with mark := (← get).mark id.name }

/-- An element name that starts with a small letter is no variable. -/
def jsxName : JsxName → Resolve JsxName
  | .ident id => if id.name.front.isLower then return .ident id else return .ident (← ident id)
  | .member s obj prop => return .member s (← jsxRoot obj) prop
  | n => return n
where
  jsxRoot : JsxName → Resolve JsxName
    | .ident id => return .ident (← ident id)
    | .member s obj prop => return .member s (← jsxRoot obj) prop
    | n => return n

def importSpecifier : ImportSpecifier → Resolve ImportSpecifier
  | .named s id imported typeOnly => return .named s (← ident id) imported typeOnly
  | .default s id => return .default s (← ident id)
  | .namespaceAll s id => return .namespaceAll s (← ident id)

def exportSpecifier : ExportSpecifier → Resolve ExportSpecifier
  | .named s (.ident id) exported typeOnly => return .named s (.ident (← ident id)) exported typeOnly
  | spec => return spec

/-- The decorators of a parameter stand outside the function. -/
def paramDecorators (w : Walker Resolve) : Pat → Resolve Pat
  | .param s ds declares p => return .param s (← ds.mapM w.expr) declares p
  | p => return p

/-- A parameter inside the function. -/
def param (w : Walker Resolve) : Pat → Resolve Pat
  | .param s ds declares p => return .param s ds declares (← w.pat p)
  | p => w.pat p

/-- The parts of a function in its own scope; a function expression declares its name there. -/
def function (w : Walker Resolve) (self : List Ident) (f : Func) : Resolve (List Ident × Func) := do
  let body := match f.body with
    | some b => b.stmts
    | none => []
  let params ← f.params.mapM (paramDecorators w)
  within (functionNames (self ++ Pat.boundAll f.params) body) do
    let self ← self.mapM ident
    let params ← params.mapM (param w)
    let body ← f.body.mapM fun b => return { b with stmts := ← b.stmts.mapM w.stmt }
    return (self, { f with params, body })

def member (w : Walker Resolve) : Member → Resolve Member
  | .ctor span key params body => do
    let stmts := match body with
      | some b => b.stmts
      | none => []
    let params ← params.mapM (paramDecorators w)
    within (functionNames (Pat.boundAll params) stmts) do
      let params ← params.mapM (param w)
      let body ← body.mapM fun b => return { b with stmts := ← b.stmts.mapM w.stmt }
      return .ctor span key params body
  | .staticBlock span b =>
    within (functionNames [] b.stmts) do
      return .staticBlock span { b with stmts := ← b.stmts.mapM w.stmt }
  | m => w.onMember m

def cls (w : Walker Resolve) (c : Class) : Resolve Class := do
  let decorators ← c.decorators.mapM w.expr
  let superClass ← w.optExpr c.superClass
  let members ← c.members.mapM (member w)
  return { c with decorators, superClass, members }

def expr (w : Walker Resolve) : Expr → Resolve Expr
  | .ident id => return .ident (← ident id)
  | .propShorthand id => return .propShorthand (← ident id)
  | .propDefault s id v => return .propDefault s (← ident id) (← w.expr v)
  | .func id f => do
    let (self, f) ← function w id.toList f
    return .func self.head? f
  | .arrow s isAsync params body types => do
    let stmts := match body with
      | .block b => b.stmts
      | .expr _ => []
    within (functionNames (Pat.boundAll params) stmts) do
      let params ← params.mapM w.pat
      match body with
      | .block b => return .arrow s isAsync params (.block { b with stmts := ← b.stmts.mapM w.stmt }) types
      | .expr e => return .arrow s isAsync params (.expr (← w.expr e)) types
  | .classExpr (some id) c =>
    within (names [id]) do
      return .classExpr (some (← ident id)) (← w.cls c)
  | .jsxElement s o name attrs types selfClosing children closing => do
    let name ← jsxName name
    let closing ← closing.mapM fun (s, n) => return (s, ← jsxName n)
    return .jsxElement s o name (← attrs.mapM w.expr) types selfClosing (← children.mapM w.expr) closing
  | e => w.onExpr e

def pat (w : Walker Resolve) : Pat → Resolve Pat
  | .ident id => return .ident (← ident id)
  | .propShorthand s id d => return .propShorthand s (← ident id) (← w.optExpr d)
  | p => w.onPat p

/-- Statements in a scope of their own. -/
def block (w : Walker Resolve) (ss : List Stmt) : Resolve (List Stmt) :=
  within (names (ss.flatMap Stmt.lexical)) (ss.mapM w.stmt)

/-- The name of an enumeration member, if it can be referred to. -/
def memberName : Stmt → Option String
  | .enumMember _ (.keyName id) _ => some id.name
  | .enumMember _ (.str s) _ => some s.text
  | _ => none

def stmt (w : Walker Resolve) : Stmt → Resolve Stmt
  | .switch s e cases => do
    let e ← w.expr e
    let bodies := cases.flatMap fun
      | .switchCase _ _ body => body
      | _ => []
    within (names (bodies.flatMap Stmt.lexical)) do
      let cases ← cases.mapM fun
        | .switchCase s t body => return .switchCase s (← w.optExpr t) (← body.mapM w.stmt)
        | c => w.stmt c
      return .switch s e cases
  | .catchClause s p b =>
    within (names ((p.map Pat.bound).getD [] ++ b.stmts.flatMap Stmt.lexical)) do
      let p ← p.mapM w.pat
      return .catchClause s p { b with stmts := ← b.stmts.mapM w.stmt }
  | .forLoop s i t u body =>
    within (names (i.toList.flatMap Stmt.lexical)) do
      w.onStmt (.forLoop s i t u body)
  | .forIn s l r body => within (names l.lexical) (w.onStmt (.forIn s l r body))
  | .forOf s isAwait l r body => within (names l.lexical) (w.onStmt (.forOf s isAwait l r body))
  | .classDecl id isAmbient c => return .classDecl (← ident id) isAmbient (← w.cls c)
  | .funcDecl id isAmbient f => return .funcDecl (← ident id) isAmbient (← w.func f)
  | .interfaceDecl s id types => return .interfaceDecl s (← ident id) types
  | .typeAlias s id types => return .typeAlias s (← ident id) types
  | .exportDefaultInterface s id types => return .exportDefaultInterface s (← ident id) types
  | .enumDecl s isAmbient isConst id members => do
    let id ← ident id
    within (.ofList (members.filterMap memberName)) do
      return .enumDecl s isAmbient isConst id (← members.mapM w.stmt)
  | .namespaceDecl s isAmbient isGlobal name body => do
    let name ← match name with
      | .ident id => pure (.ident (← ident id))
      | .str v => pure (.str v)
    let nested := match body with
      | some (.namespaceDecl _ _ _ (.ident id) _) => [id]
      | _ => []
    within (names nested) do
      return .namespaceDecl s isAmbient isGlobal name (← body.mapM w.stmt)
  | .namespaceBlock s body =>
    within (functionNames [] body) do
      return .namespaceBlock s (← body.mapM w.stmt)
  | .importDecl s specifiers source typeOnly attributes phase => do
    return .importDecl s (← specifiers.mapM importSpecifier) source typeOnly attributes phase
  | .exportNamed s specifiers none typeOnly attributes => do
    return .exportNamed s (← specifiers.mapM exportSpecifier) none typeOnly attributes
  | .exportDefaultClass s id c => return .exportDefaultClass s (← id.mapM ident) (← w.cls c)
  | .exportDefaultFunc s id f => return .exportDefaultFunc s (← id.mapM ident) (← w.func f)
  | .importEquals s isExport typeOnly id target => do
    let target ← match target with
      | .entity (root :: rest) => pure (.entity ((← ident root) :: rest))
      | t => pure t
    return .importEquals s isExport typeOnly (← ident id) target
  | s => w.onStmt s

/-- One step of the pass. -/
def walker (w : Walker Resolve) : Walker Resolve :=
  { expr := expr w, pat := pat w, stmt := stmt w, stmts := block w
    func := fun f => return (← function w [] f).2, cls := cls w }

end Resolve

/-- The program with every name marked: `top` for those of its own top level, marks from `next` on for
the scopes inside. Also tells the first mark that is still free. -/
def Program.resolveFrom (p : Program) (top next depth : Nat) : Program × Nat :=
  let scope : Scope := ⟨top, Resolve.functionNames [] p.body⟩
  let start : Scopes := { stack := [scope], next, isModule := p.isModule }
  let w := Walker.fix Resolve.walker depth
  let (body, s) := (p.body.mapM w.stmt).run start
  ({ p with body }, s.next)

/-- The program with every name marked, and the first mark that is still free. -/
def Program.resolve (p : Program) (depth : Nat) : Program × Nat :=
  p.resolveFrom topLevelMark firstFreeMark depth

end Detype
