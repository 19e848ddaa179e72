import Detype.Syntax.Walk

/-
**What disappears with the types.**

Types wherever they stand, type wrappers around expressions, parameters named `this`, members without a
body, ambient declarations and declarations of types.

* `Member.isErased`, `Stmt.isErased` — what goes away.
* `Erase.bare` — an expression without what is typed about it.
* `Program.eraseTypes` — the pass.
-/

namespace Detype

/-- Whether a class member has no meaning at run time. -/
def Member.isErased : Member → Bool
  | .indexSignature _ _ | .ctor _ _ _ none => true
  | .method m => m.isAbstract || m.func.body.isNone
  | .field { key := .keyPrivate _, isAbstract, .. } => isAbstract
  | .field f => f.isAbstract || f.isAmbient
  | .accessor f => f.isAbstract || f.isAmbient
  | _ => false

/-- Whether a parameter only gives the type of `this`. -/
def Pat.isThis : Pat → Bool
  | .ident id => id.name == "this"
  | .param _ _ _ p | .typed p _ => p.isThis
  | _ => false

namespace Erase

mutual

/-- Whether a statement has no meaning at run time. Inside a namespace an exported ambient variable is
still a member of the namespace. -/
def isErased (inNamespace : Bool) : Stmt → Bool
  | .interfaceDecl .. | .typeAlias .. | .exportDefaultInterface .. | .exportAsNamespace .. => true
  | .funcDecl _ isAmbient f => isAmbient || f.body.isNone
  | .exportDefaultFunc _ _ f => f.body.isNone
  | .classDecl _ isAmbient _ | .enumDecl _ isAmbient _ _ _ => isAmbient
  | .varDecl _ _ isAmbient _ => isAmbient
  | .namespaceDecl _ isAmbient isGlobal _ body => isAmbient || isGlobal || isErasedBody body
  | .namespaceBlock _ body => areErased true body
  | .exportDecl _ d =>
    match d with
    | .varDecl _ _ true _ => !inNamespace
    | d => isErased inNamespace d
  | _ => false

def isErasedBody : Option Stmt → Bool
  | none => true
  | some s => isErased true s

def areErased (inNamespace : Bool) : List Stmt → Bool
  | [] => true
  | s :: ss => isErased inNamespace s && areErased inNamespace ss

end

def isPlaceholder : Stmt → Bool
  | .empty s => s.isSynthesized
  | _ => false

def params (ps : List Pat) : List Pat := ps.filter (!·.isThis)

/-- An expression without type wrappers on the outside, and without types of its own. A setter of an object
has one parameter. -/
def bare : Expr → Expr
  | .typed _ _ e _ => bare e
  | .arrow s isAsync ps body _ => .arrow s isAsync (params ps) body []
  | .call s callee args _ => .call s callee args []
  | .new s callee args noArgs _ => .new s callee args noArgs []
  | .tagged s tag template _ => .tagged s tag template []
  | .jsxElement s o name attrs _ selfClosing children closing =>
    .jsxElement s o name attrs [] selfClosing children closing
  | .optChain s optional base => .optChain s optional (bare base)
  | .propMethod s .setter key f => .propMethod s .setter key { f with params := f.params.getLast?.toList }
  | e => e

def member (m : Member) : Option Member :=
  if m.isErased then none
  else
    match m with
    | .ctor s key ps body => some (.ctor s key (params ps) body)
    | .field f => some (.field { f with type := none })
    | .accessor f => some (.accessor { f with type := none })
    | m => some m

/-- An item of a namespace. -/
def namespaceItem (w : Walker Id) : Stmt → Option Stmt
  | .exportDecl s (.varDecl t kind true ds) => some (.exportDecl s (.varDecl t kind true ds))
  | s => if isErased true s then none else some (w.stmt s)

def walker (w : Walker Id) : Walker Id :=
  { expr := fun e => w.onExpr (bare e)
    pat := fun p => w.onPat p.untyped
    stmt := fun
      | .namespaceBlock s body => .namespaceBlock s (body.filterMap (namespaceItem w))
      | s => if isErased false s then .empty {} else w.onStmt s
    stmts := fun ss => (ss.map w.stmt).filter (!isPlaceholder ·)
    func := fun f => w.onFunc { f with params := params f.params, types := [] }
    cls := fun c => w.onClass { c with members := c.members.filterMap member, types := [] } }

end Erase

/-- The program without its types. -/
def Program.eraseTypes (p : Program) (depth : Nat) : Program :=
  { p with body := (p.body.filter (!Erase.isErased false ·)).map (Walker.fix Erase.walker depth).stmt }

end Detype
