import Detype.Syntax.Tree

/-
**Walks over syntax trees.**

A walk rebuilds a tree from the inside. Its steps are given by a `Walker`, one function a category; the
functions here apply a walker to the immediate parts of a node, so that a pass only says what it does
differently. A walk leaves types as they are: what it is for only concerns what runs.

* `Walker` — what to do with each part.
* `Walker.onExpr`, `Walker.onStmt`, … — the parts of one node.
* `Walker.fix` — a walker defined by its own steps, to a bounded depth.
-/

namespace Detype

/-- What a walk does with the parts of a node. -/
structure Walker (m : Type → Type) where
  expr : Expr → m Expr
  pat : Pat → m Pat
  stmt : Stmt → m Stmt
  /-- The statements of a block, a function or a case. -/
  stmts : List Stmt → m (List Stmt)
  func : Func → m Func
  cls : Class → m Class

namespace Walker

variable {m : Type → Type} [Monad m]

def optExpr (w : Walker m) (e : Option Expr) : m (Option Expr) := e.mapM w.expr

def block (w : Walker m) (b : Block) : m Block := return { b with stmts := ← w.stmts b.stmts }

def arrowBody (w : Walker m) : ArrowBody → m ArrowBody
  | .block b => return .block (← w.block b)
  | .expr e => return .expr (← w.expr e)

/-- The parts of a function. -/
def onFunc (w : Walker m) (f : Func) : m Func := do
  let params ← f.params.mapM w.pat
  let body ← f.body.mapM w.block
  return { f with params, body }

def onMethod (w : Walker m) (x : Method) : m Method := do
  let key ← w.expr x.key
  let decorators ← x.decorators.mapM w.expr
  let func ← w.func x.func
  return { x with key, decorators, func }

def onField (w : Walker m) (x : Field) : m Field := do
  let key ← w.expr x.key
  let value ← w.optExpr x.value
  let decorators ← x.decorators.mapM w.expr
  return { x with key, value, decorators }

/-- The parts of a class member. -/
def onMember (w : Walker m) : Member → m Member
  | .ctor span key params body => do
    let params ← params.mapM w.pat
    let body ← body.mapM w.block
    return .ctor span key params body
  | .method x => return .method (← w.onMethod x)
  | .field x => return .field (← w.onField x)
  | .accessor x => return .accessor (← w.onField x)
  | .staticBlock span b => return .staticBlock span (← w.block b)
  | .indexSignature span signature => return .indexSignature span signature
  | .empty span => return .empty span

/-- The parts of a class. -/
def onClass (w : Walker m) (c : Class) : m Class := do
  let decorators ← c.decorators.mapM w.expr
  let superClass ← w.optExpr c.superClass
  let members ← c.members.mapM w.onMember
  return { c with decorators, superClass, members }

/-- The parts of a member access or call inside an optional chain. -/
def onChainBase (w : Walker m) : Expr → m Expr
  | .member s obj key => return .member s (← w.expr obj) (← w.expr key)
  | .call s callee args types => return .call s (← w.expr callee) (← args.mapM w.expr) types
  | e => w.expr e

/-- The parts of an expression. -/
def onExpr (w : Walker m) : Expr → m Expr
  | .array s es => return .array s (← es.mapM w.expr)
  | .object s ps => return .object s (← ps.mapM w.expr)
  | .func id f => return .func id (← w.func f)
  | .arrow s isAsync ps body types => return .arrow s isAsync (← ps.mapM w.pat) (← w.arrowBody body) types
  | .classExpr id c => return .classExpr id (← w.cls c)
  | .unary s op a => return .unary s op (← w.expr a)
  | .update s op before a => return .update s op before (← w.expr a)
  | .binary s op l r => return .binary s op (← w.expr l) (← w.expr r)
  | .assign s op t v => return .assign s op (← w.pat t) (← w.expr v)
  | .member s obj key => return .member s (← w.expr obj) (← w.expr key)
  | .cond s t a b => return .cond s (← w.expr t) (← w.expr a) (← w.expr b)
  | .call s callee args types => return .call s (← w.expr callee) (← args.mapM w.expr) types
  | .new s callee args bare types => return .new s (← w.expr callee) (← args.mapM w.expr) bare types
  | .seq s es => return .seq s (← es.mapM w.expr)
  | .template s qs es => return .template s qs (← es.mapM w.expr)
  | .tagged s tag quasi types => return .tagged s (← w.expr tag) (← w.expr quasi) types
  | .yield s d a => return .yield s d (← w.optExpr a)
  | .await s a => return .await s (← w.expr a)
  | .paren s e => return .paren s (← w.expr e)
  | .optChain s o base => return .optChain s o (← w.onChainBase base)
  | .typed s wrap e types => return .typed s wrap (← w.expr e) types
  | .spread d e => return .spread d (← w.expr e)
  | .keyComputed s e => return .keyComputed s (← w.expr e)
  | .propValue k v => return .propValue (← w.expr k) (← w.expr v)
  | .propDefault s id v => return .propDefault s id (← w.expr v)
  | .propMethod s kind k f => return .propMethod s kind (← w.expr k) (← w.func f)
  | .jsxElement s o name attrs types selfClosing children closing =>
    return .jsxElement s o name (← attrs.mapM w.expr) types selfClosing (← children.mapM w.expr) closing
  | .jsxFragment s o c children => return .jsxFragment s o c (← children.mapM w.expr)
  | .jsxContainer s e => return .jsxContainer s (← w.expr e)
  | .jsxSpreadChild s e => return .jsxSpreadChild s (← w.expr e)
  | .jsxAttr s name v => return .jsxAttr s name (← w.optExpr v)
  | e => return e

/-- The parts of a pattern. -/
def onPat (w : Walker m) : Pat → m Pat
  | .array s es => return .array s (← es.mapM w.pat)
  | .object s ps => return .object s (← ps.mapM w.pat)
  | .rest s d a => return .rest s d (← w.pat a)
  | .assign s l r => return .assign s (← w.pat l) (← w.expr r)
  | .expr e => return .expr (← w.expr e)
  | .propValue k v => return .propValue (← w.expr k) (← w.pat v)
  | .propShorthand s id d => return .propShorthand s id (← w.optExpr d)
  | .param s ds declares p => return .param s (← ds.mapM w.expr) declares (← w.pat p)
  | .typed p type => return .typed (← w.pat p) type
  | p => return p

def onDeclarator (w : Walker m) (d : Declarator) : m Declarator := do
  let name ← w.pat d.name
  let init ← w.optExpr d.init
  return { d with name, init }

/-- The parts of a statement. -/
def onStmt (w : Walker m) : Stmt → m Stmt
  | .expr s e => return .expr s (← w.expr e)
  | .block b => return .block (← w.block b)
  | .withStmt s e body => return .withStmt s (← w.expr e) (← w.stmt body)
  | .returnStmt s a => return .returnStmt s (← w.optExpr a)
  | .labeled s l body => return .labeled s l (← w.stmt body)
  | .ifStmt s t a b => return .ifStmt s (← w.expr t) (← w.stmt a) (← b.mapM w.stmt)
  | .switch s e cases => return .switch s (← w.expr e) (← cases.mapM w.stmt)
  | .switchCase s t body => return .switchCase s (← w.optExpr t) (← w.stmts body)
  | .throwStmt s a => return .throwStmt s (← w.expr a)
  | .tryStmt s body handler finalizer =>
    return .tryStmt s (← w.block body) (← handler.mapM w.stmt) (← finalizer.mapM w.block)
  | .catchClause s p body => return .catchClause s (← p.mapM w.pat) (← w.block body)
  | .whileLoop s t body => return .whileLoop s (← w.expr t) (← w.stmt body)
  | .doWhile s body t => return .doWhile s (← w.stmt body) (← w.expr t)
  | .forLoop s i t u body =>
    return .forLoop s (← i.mapM w.stmt) (← w.optExpr t) (← w.optExpr u) (← w.stmt body)
  | .forIn s l r body => return .forIn s (← w.stmt l) (← w.expr r) (← w.stmt body)
  | .forOf s isAwait l r body => return .forOf s isAwait (← w.stmt l) (← w.expr r) (← w.stmt body)
  | .forTarget p => return .forTarget (← w.pat p)
  | .classDecl id isAmbient c => return .classDecl id isAmbient (← w.cls c)
  | .funcDecl id isAmbient f => return .funcDecl id isAmbient (← w.func f)
  | .varDecl s kind isAmbient ds => return .varDecl s kind isAmbient (← ds.mapM w.onDeclarator)
  | .usingDecl s isAwait ds => return .usingDecl s isAwait (← ds.mapM w.onDeclarator)
  | .enumDecl s isAmbient isConst id ms => return .enumDecl s isAmbient isConst id (← ms.mapM w.stmt)
  | .enumMember s k i => return .enumMember s k (← w.optExpr i)
  | .namespaceDecl s isAmbient isGlobal n body =>
    return .namespaceDecl s isAmbient isGlobal n (← body.mapM w.stmt)
  | .namespaceBlock s body => return .namespaceBlock s (← w.stmts body)
  | .exportDecl s d => return .exportDecl s (← w.stmt d)
  | .exportDefaultClass s id c => return .exportDefaultClass s id (← w.cls c)
  | .exportDefaultFunc s id f => return .exportDefaultFunc s id (← w.func f)
  | .exportDefaultExpr s e => return .exportDefaultExpr s (← w.expr e)
  | .exportAssign s e => return .exportAssign s (← w.expr e)
  | s => return s

def onStmts (w : Walker m) (ss : List Stmt) : m (List Stmt) := ss.mapM w.stmt

/-- A walker that only goes on to the parts. -/
def through (w : Walker m) : Walker m :=
  { expr := w.onExpr, pat := w.onPat, stmt := w.onStmt, stmts := w.onStmts, func := w.onFunc, cls := w.onClass }

/-- A walker that changes nothing. -/
def still : Walker m :=
  { expr := pure, pat := pure, stmt := pure, stmts := pure, func := pure, cls := pure }

/-- The walker whose steps call itself, to a bounded depth. -/
def fix (step : Walker m → Walker m) : Nat → Walker m
  | 0 => still
  | depth + 1 =>
    step
      { expr := fun e => (fix step depth).expr e
        pat := fun p => (fix step depth).pat p
        stmt := fun s => (fix step depth).stmt s
        stmts := fun ss => (fix step depth).stmts ss
        func := fun f => (fix step depth).func f
        cls := fun c => (fix step depth).cls c }

end Walker

end Detype
