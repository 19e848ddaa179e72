import Detype.Syntax.Walk

/-
**The parts of a tree, and what walks do there.**

A walk only ever goes on to the immediate parts of a node, and to no types. So two walks that treat the parts of a node alike treat
the node alike, and a tree without nodes of some sort shows a walk none of them.

* `Node.parts` — what a walk goes on to at one node.
* `Node.Lacks` — no node of some sort in a tree.
* `Stepwise` — relations between computations that follow from those between their steps.
* `Walker.Related` — two walkers that treat the same nodes alike, with one lemma for each function of `Walker`.
-/

namespace Detype

/-- A node that a walk comes to. -/
inductive Node where
  | expr (e : Expr)
  | pat (p : Pat)
  | stmt (s : Stmt)
  | func (f : Func)
  | cls (c : Class)

/-! ### Parts -/

def Block.parts (b : Block) : List Node := b.stmts.map .stmt

def ArrowBody.parts : ArrowBody → List Node
  | .block b => b.parts
  | .expr e => [.expr e]

def Func.parts (f : Func) : List Node := f.params.map .pat ++ f.body.toList.flatMap Block.parts

def Method.parts (x : Method) : List Node := .expr x.key :: x.decorators.map .expr ++ [.func x.func]

def Field.parts (x : Field) : List Node := .expr x.key :: x.value.toList.map .expr ++ x.decorators.map .expr

def Member.parts : Member → List Node
  | .ctor _ _ params body => params.map .pat ++ body.toList.flatMap Block.parts
  | .method x => x.parts
  | .field x | .accessor x => x.parts
  | .staticBlock _ b => b.parts
  | .indexSignature _ _ | .empty _ => []

def Class.parts (c : Class) : List Node :=
  c.decorators.map .expr ++ c.superClass.toList.map .expr ++ c.members.flatMap Member.parts

/-- The parts of a member access or call inside an optional chain. -/
def Expr.chainParts : Expr → List Node
  | .member _ obj key => [.expr obj, .expr key]
  | .call _ callee args _ => .expr callee :: args.map .expr
  | e => [.expr e]

def Expr.parts : Expr → List Node
  | .array _ es | .object _ es | .seq _ es | .template _ _ es | .jsxFragment _ _ _ es => es.map .expr
  | .func _ f => [.func f]
  | .arrow _ _ ps body _ => ps.map .pat ++ body.parts
  | .classExpr _ c => [.cls c]
  | .unary _ _ e | .update _ _ _ e | .await _ e | .paren _ e | .typed _ _ e _ | .spread _ e | .keyComputed _ e
  | .propDefault _ _ e | .jsxContainer _ e | .jsxSpreadChild _ e => [.expr e]
  | .binary _ _ l r | .member _ l r | .tagged _ l r _ | .propValue l r => [.expr l, .expr r]
  | .assign _ _ t v => [.pat t, .expr v]
  | .cond _ t a b => [.expr t, .expr a, .expr b]
  | .call _ callee args _ | .new _ callee args _ _ => .expr callee :: args.map .expr
  | .yield _ _ e | .jsxAttr _ _ e => e.toList.map .expr
  | .optChain _ _ base => base.chainParts
  | .propMethod _ _ k f => [.expr k, .func f]
  | .jsxElement _ _ _ attrs _ _ children _ => attrs.map .expr ++ children.map .expr
  | _ => []

def Pat.parts : Pat → List Node
  | .array _ ps | .object _ ps => ps.map .pat
  | .rest _ _ p => [.pat p]
  | .assign _ l r => [.pat l, .expr r]
  | .expr e => [.expr e]
  | .propValue k v => [.expr k, .pat v]
  | .propShorthand _ _ d => d.toList.map .expr
  | .param _ ds _ p => ds.map .expr ++ [.pat p]
  | .typed p _ => [.pat p]
  | _ => []

def Declarator.parts (d : Declarator) : List Node := .pat d.name :: d.init.toList.map .expr

def Stmt.parts : Stmt → List Node
  | .expr _ e | .throwStmt _ e | .exportDefaultExpr _ e | .exportAssign _ e => [.expr e]
  | .block b => b.parts
  | .withStmt _ e body | .whileLoop _ e body | .doWhile _ body e => [.expr e, .stmt body]
  | .returnStmt _ e => e.toList.map .expr
  | .labeled _ _ body | .exportDecl _ body => [.stmt body]
  | .ifStmt _ t a b => .expr t :: .stmt a :: b.toList.map .stmt
  | .switch _ e cases => .expr e :: cases.map .stmt
  | .switchCase _ t body => t.toList.map .expr ++ body.map .stmt
  | .tryStmt _ body handler finalizer =>
    body.parts ++ handler.toList.map .stmt ++ finalizer.toList.flatMap Block.parts
  | .catchClause _ p body => p.toList.map .pat ++ body.parts
  | .forLoop _ i t u body => i.toList.map .stmt ++ t.toList.map .expr ++ u.toList.map .expr ++ [.stmt body]
  | .forIn _ l r body | .forOf _ _ l r body => [.stmt l, .expr r, .stmt body]
  | .forTarget p => [.pat p]
  | .classDecl _ _ c | .exportDefaultClass _ _ c => [.cls c]
  | .funcDecl _ _ f | .exportDefaultFunc _ _ f => [.func f]
  | .varDecl _ _ _ ds | .usingDecl _ _ ds => ds.flatMap Declarator.parts
  | .enumDecl _ _ _ _ ss | .namespaceBlock _ ss => ss.map .stmt
  | .enumMember _ _ e => e.toList.map .expr
  | .namespaceDecl _ _ _ _ body => body.toList.map .stmt
  | _ => []

namespace Node

/-- What a walk goes on to at a node. -/
def parts : Node → List Node
  | expr e => e.parts
  | pat p => p.parts
  | stmt s => s.parts
  | func f => f.parts
  | cls c => c.parts

/-- **No node of some sort** in the tree under a node. -/
inductive Lacks (sort : Node → Bool) : Node → Prop where
  | intro {n : Node} (here : sort n = false) (below : ∀ part ∈ n.parts, Lacks sort part) : Lacks sort n

namespace Lacks

variable {sort : Node → Bool} {n : Node}

theorem other : Lacks sort n → sort n = false
  | .intro here _ => here

theorem parts : Lacks sort n → ∀ part ∈ n.parts, Lacks sort part
  | .intro _ below => below

end Lacks

end Node

/-! ### Relations between computations -/

/-- A relation between computations that follows from relations between their steps. -/
structure Stepwise (m : Type → Type) [Monad m] where
  Rel : {α : Type} → m α → m α → Prop
  pure : ∀ {α : Type} (a : α), Rel (pure a) (pure a)
  bind : ∀ {α β : Type} {x y : m α} {f g : α → m β}, Rel x y → (∀ a, Rel (f a) (g a)) → Rel (x >>= f) (y >>= g)

namespace Stepwise

/-- Computations that are the same. -/
def same (m : Type → Type) [Monad m] : Stepwise m where
  Rel x y := x = y
  pure _ := rfl
  bind first next := by rw [first, funext next]

/-- Computations that keep an invariant of their state. -/
def keeping {σ : Type} (Inv : σ → Prop) : Stepwise (StateM σ) where
  Rel x _ := ∀ s, Inv s → Inv (x.run s).2
  pure _ _ kept := kept
  bind first next s kept := next _ _ (first s kept)

variable {m : Type → Type} [Monad m] [LawfulMonad m] (R : Stepwise m) {α β : Type} {f g : α → m β}

theorem mapM {l : List α} (each : ∀ a ∈ l, R.Rel (f a) (g a)) : R.Rel (l.mapM f) (l.mapM g) := by
  induction l with
  | nil =>
    rw [List.mapM_nil, List.mapM_nil]
    exact R.pure []
  | cons a l ih =>
    rw [List.mapM_cons, List.mapM_cons]
    have rest := ih fun b member => each b (List.mem_cons_of_mem a member)
    exact R.bind (each a List.mem_cons_self) fun _ => R.bind rest fun _ => R.pure _

theorem optionMapM {o : Option α} (each : ∀ a ∈ o, R.Rel (f a) (g a)) : R.Rel (o.mapM f) (o.mapM g) := by
  cases o with
  | none => exact R.pure none
  | some a =>
    rw [Option.mapM_some, Option.mapM_some, map_eq_pure_bind, map_eq_pure_bind]
    exact R.bind (each a rfl) fun _ => R.pure _

end Stepwise

/-! ### Walkers -/

namespace Walker

variable {m : Type → Type} [Monad m]

/-- Two walkers whose steps are related on the nodes with some property. -/
structure Related (R : Stepwise m) (P : Node → Prop) (w w' : Walker m) : Prop where
  expr : ∀ e, P (.expr e) → R.Rel (w.expr e) (w'.expr e)
  pat : ∀ p, P (.pat p) → R.Rel (w.pat p) (w'.pat p)
  stmt : ∀ s, P (.stmt s) → R.Rel (w.stmt s) (w'.stmt s)
  stmts : ∀ ss : List Stmt, (∀ s ∈ ss, P (.stmt s)) → R.Rel (w.stmts ss) (w'.stmts ss)
  func : ∀ f, P (.func f) → R.Rel (w.func f) (w'.func f)
  cls : ∀ c, P (.cls c) → R.Rel (w.cls c) (w'.cls c)

namespace Related

theorem still (R : Stepwise m) (P : Node → Prop) : Related R P Walker.still Walker.still :=
  ⟨fun _ _ => R.pure _, fun _ _ => R.pure _, fun _ _ => R.pure _, fun _ _ => R.pure _, fun _ _ => R.pure _,
    fun _ _ => R.pure _⟩

/-- **Walkers that take related steps are related at every depth.** -/
theorem fix {R : Stepwise m} {P : Node → Prop} {step step' : Walker m → Walker m}
    (steps : ∀ {w w'}, Related R P w w' → Related R P (step w) (step' w')) (depth : Nat) :
    Related R P (Walker.fix step depth) (Walker.fix step' depth) := by
  induction depth with
  | zero => exact still R P
  | succ depth ih => exact steps ih

variable {R : Stepwise m} {P : Node → Prop} {w w' : Walker m}

theorem block (related : Related R P w w') {b : Block} (parts : ∀ n ∈ b.parts, P n) :
    R.Rel (w.block b) (w'.block b) := by
  simp only [Block.parts, List.forall_mem_map] at parts
  exact R.bind (related.stmts b.stmts parts) fun _ => R.pure _

theorem arrowBody (related : Related R P w w') {body : ArrowBody} (parts : ∀ n ∈ body.parts, P n) :
    R.Rel (w.arrowBody body) (w'.arrowBody body) := by
  cases body with
  | block b => exact R.bind (related.block parts) fun _ => R.pure _
  | expr e => exact R.bind (related.expr e (parts _ List.mem_cons_self)) fun _ => R.pure _

variable [LawfulMonad m]

theorem optExpr (related : Related R P w w') {o : Option Expr} (parts : ∀ e ∈ o, P (.expr e)) :
    R.Rel (w.optExpr o) (w'.optExpr o) :=
  R.optionMapM fun e member => related.expr e (parts e member)

theorem body (related : Related R P w w') {b : Option Block} (parts : ∀ n ∈ b.toList.flatMap Block.parts, P n) :
    R.Rel (b.mapM w.block) (b.mapM w'.block) :=
  R.optionMapM fun b member => related.block fun n part =>
    parts n (List.mem_flatMap.mpr ⟨b, Option.mem_toList.mpr member, part⟩)

theorem exprs (related : Related R P w w') {es : List Expr} (parts : ∀ e ∈ es, P (.expr e)) :
    R.Rel (es.mapM w.expr) (es.mapM w'.expr) :=
  R.mapM fun e member => related.expr e (parts e member)

theorem pats (related : Related R P w w') {ps : List Pat} (parts : ∀ p ∈ ps, P (.pat p)) :
    R.Rel (ps.mapM w.pat) (ps.mapM w'.pat) :=
  R.mapM fun p member => related.pat p (parts p member)

theorem onFunc (related : Related R P w w') {f : Func} (parts : ∀ n ∈ f.parts, P n) :
    R.Rel (w.onFunc f) (w'.onFunc f) := by
  simp only [Func.parts, List.forall_mem_append, List.forall_mem_map] at parts
  exact R.bind (related.pats parts.1) fun _ => R.bind (related.body parts.2) fun _ => R.pure _

theorem onMethod (related : Related R P w w') {x : Method} (parts : ∀ n ∈ x.parts, P n) :
    R.Rel (w.onMethod x) (w'.onMethod x) := by
  simp only [Method.parts, List.cons_append, List.forall_mem_cons, List.forall_mem_append, List.forall_mem_map] at parts
  obtain ⟨key, decorators, func, -⟩ := parts
  exact R.bind (related.expr x.key key) fun _ => R.bind (related.exprs decorators) fun _ =>
    R.bind (related.func x.func func) fun _ => R.pure _

theorem onField (related : Related R P w w') {x : Field} (parts : ∀ n ∈ x.parts, P n) :
    R.Rel (w.onField x) (w'.onField x) := by
  simp only [Field.parts, List.cons_append, List.forall_mem_cons, List.forall_mem_append, List.forall_mem_map,
    Option.mem_toList] at parts
  obtain ⟨key, value, decorators⟩ := parts
  exact R.bind (related.expr x.key key) fun _ => R.bind (related.optExpr value) fun _ =>
    R.bind (related.exprs decorators) fun _ => R.pure _

theorem onMember (related : Related R P w w') {x : Member} (parts : ∀ n ∈ x.parts, P n) :
    R.Rel (w.onMember x) (w'.onMember x) := by
  cases x with
  | ctor span key params body =>
    simp only [Member.parts, List.forall_mem_append, List.forall_mem_map] at parts
    exact R.bind (related.pats parts.1) fun _ => R.bind (related.body parts.2) fun _ => R.pure _
  | method x => exact R.bind (related.onMethod parts) fun _ => R.pure _
  | field x | accessor x => exact R.bind (related.onField parts) fun _ => R.pure _
  | staticBlock span b => exact R.bind (related.block parts) fun _ => R.pure _
  | indexSignature span signature | empty span => exact R.pure _

theorem onClass (related : Related R P w w') {c : Class} (parts : ∀ n ∈ c.parts, P n) :
    R.Rel (w.onClass c) (w'.onClass c) := by
  simp only [Class.parts, List.forall_mem_append, List.forall_mem_map, Option.mem_toList] at parts
  obtain ⟨⟨decorators, superClass⟩, members⟩ := parts
  have members : R.Rel (c.members.mapM w.onMember) (c.members.mapM w'.onMember) :=
    R.mapM fun x member => related.onMember fun n part => members n (List.mem_flatMap.mpr ⟨x, member, part⟩)
  exact R.bind (related.exprs decorators) fun _ => R.bind (related.optExpr superClass) fun _ =>
    R.bind members fun _ => R.pure _

theorem onChainBase (related : Related R P w w') {e : Expr} (parts : ∀ n ∈ e.chainParts, P n) :
    R.Rel (w.onChainBase e) (w'.onChainBase e) := by
  unfold Walker.onChainBase
  cases e
  case member s obj key =>
    simp only [Expr.chainParts, List.forall_mem_cons] at parts
    exact R.bind (related.expr obj parts.1) fun _ => R.bind (related.expr key parts.2.1) fun _ => R.pure _
  case call s callee args types =>
    simp only [Expr.chainParts, List.forall_mem_cons, List.forall_mem_map] at parts
    exact R.bind (related.expr callee parts.1) fun _ => R.bind (related.exprs parts.2) fun _ => R.pure _
  all_goals exact related.expr _ (parts _ List.mem_cons_self)

theorem onExpr (related : Related R P w w') {e : Expr} (parts : ∀ n ∈ e.parts, P n) :
    R.Rel (w.onExpr e) (w'.onExpr e) := by
  unfold Walker.onExpr
  cases e
  all_goals
    dsimp only
    first
    | exact R.pure _
    | skip
  all_goals
    simp only [Expr.parts, List.forall_mem_cons, List.forall_mem_append, List.forall_mem_map, Option.mem_toList] at parts
  case array | object | seq | template | jsxFragment => exact R.bind (related.exprs parts) fun _ => R.pure _
  case func => exact R.bind (related.func _ parts.1) fun _ => R.pure _
  case arrow =>
    exact R.bind (related.pats parts.1) fun _ => R.bind (related.arrowBody parts.2) fun _ => R.pure _
  case classExpr => exact R.bind (related.cls _ parts.1) fun _ => R.pure _
  case assign =>
    exact R.bind (related.pat _ parts.1) fun _ => R.bind (related.expr _ parts.2.1) fun _ => R.pure _
  case cond =>
    exact R.bind (related.expr _ parts.1) fun _ => R.bind (related.expr _ parts.2.1) fun _ =>
      R.bind (related.expr _ parts.2.2.1) fun _ => R.pure _
  case call | new =>
    exact R.bind (related.expr _ parts.1) fun _ => R.bind (related.exprs parts.2) fun _ => R.pure _
  case yield | jsxAttr => exact R.bind (related.optExpr parts) fun _ => R.pure _
  case optChain => exact R.bind (related.onChainBase parts) fun _ => R.pure _
  case propMethod =>
    exact R.bind (related.expr _ parts.1) fun _ => R.bind (related.func _ parts.2.1) fun _ => R.pure _
  case jsxElement =>
    exact R.bind (related.exprs parts.1) fun _ => R.bind (related.exprs parts.2) fun _ => R.pure _
  case binary | member | tagged | propValue =>
    exact R.bind (related.expr _ parts.1) fun _ => R.bind (related.expr _ parts.2.1) fun _ => R.pure _
  all_goals exact R.bind (related.expr _ parts.1) fun _ => R.pure _

theorem onPat (related : Related R P w w') {p : Pat} (parts : ∀ n ∈ p.parts, P n) :
    R.Rel (w.onPat p) (w'.onPat p) := by
  unfold Walker.onPat
  cases p with
  | array s ps | object s ps =>
    simp only [Pat.parts, List.forall_mem_map] at parts
    exact R.bind (related.pats parts) fun _ => R.pure _
  | rest s d a => exact R.bind (related.pat a (parts _ List.mem_cons_self)) fun _ => R.pure _
  | assign s l r =>
    simp only [Pat.parts, List.forall_mem_cons] at parts
    exact R.bind (related.pat l parts.1) fun _ => R.bind (related.expr r parts.2.1) fun _ => R.pure _
  | expr e => exact R.bind (related.expr e (parts _ List.mem_cons_self)) fun _ => R.pure _
  | propValue k v =>
    simp only [Pat.parts, List.forall_mem_cons] at parts
    exact R.bind (related.expr k parts.1) fun _ => R.bind (related.pat v parts.2.1) fun _ => R.pure _
  | propShorthand s id d =>
    simp only [Pat.parts, List.forall_mem_map, Option.mem_toList] at parts
    exact R.bind (related.optExpr parts) fun _ => R.pure _
  | param s ds declares p =>
    simp only [Pat.parts, List.forall_mem_append, List.forall_mem_map, List.forall_mem_singleton] at parts
    exact R.bind (related.exprs parts.1) fun _ => R.bind (related.pat p parts.2) fun _ => R.pure _
  | typed p type => exact R.bind (related.pat p (parts _ List.mem_cons_self)) fun _ => R.pure _
  | _ => exact R.pure _

theorem onDeclarator (related : Related R P w w') {d : Declarator} (parts : ∀ n ∈ d.parts, P n) :
    R.Rel (w.onDeclarator d) (w'.onDeclarator d) := by
  simp only [Declarator.parts, List.forall_mem_cons, List.forall_mem_map, Option.mem_toList] at parts
  exact R.bind (related.pat d.name parts.1) fun _ => R.bind (related.optExpr parts.2) fun _ => R.pure _

theorem declarators (related : Related R P w w') {ds : List Declarator}
    (parts : ∀ n ∈ ds.flatMap Declarator.parts, P n) :
    R.Rel (ds.mapM w.onDeclarator) (ds.mapM w'.onDeclarator) :=
  R.mapM fun d member => related.onDeclarator fun n part => parts n (List.mem_flatMap.mpr ⟨d, member, part⟩)

theorem optStmt (related : Related R P w w') {o : Option Stmt} (parts : ∀ s ∈ o, P (.stmt s)) :
    R.Rel (o.mapM w.stmt) (o.mapM w'.stmt) :=
  R.optionMapM fun s member => related.stmt s (parts s member)

theorem onStmts (related : Related R P w w') {ss : List Stmt} (parts : ∀ s ∈ ss, P (.stmt s)) :
    R.Rel (w.onStmts ss) (w'.onStmts ss) :=
  R.mapM fun s member => related.stmt s (parts s member)

theorem onStmt (related : Related R P w w') {s : Stmt} (parts : ∀ n ∈ s.parts, P n) :
    R.Rel (w.onStmt s) (w'.onStmt s) := by
  unfold Walker.onStmt
  cases s
  all_goals
    dsimp only
    first
    | exact R.pure _
    | skip
  all_goals
    simp only [Stmt.parts, List.forall_mem_cons, List.forall_mem_append, List.forall_mem_map, Option.mem_toList] at parts
  case block => exact R.bind (related.block parts) fun _ => R.pure _
  case withStmt | whileLoop =>
    exact R.bind (related.expr _ parts.1) fun _ => R.bind (related.stmt _ parts.2.1) fun _ => R.pure _
  case doWhile =>
    exact R.bind (related.stmt _ parts.2.1) fun _ => R.bind (related.expr _ parts.1) fun _ => R.pure _
  case returnStmt | enumMember => exact R.bind (related.optExpr parts) fun _ => R.pure _
  case labeled | exportDecl => exact R.bind (related.stmt _ parts.1) fun _ => R.pure _
  case ifStmt =>
    exact R.bind (related.expr _ parts.1) fun _ => R.bind (related.stmt _ parts.2.1) fun _ =>
      R.bind (related.optStmt parts.2.2) fun _ => R.pure _
  case switch =>
    exact R.bind (related.expr _ parts.1) fun _ => R.bind (related.onStmts parts.2) fun _ => R.pure _
  case switchCase =>
    exact R.bind (related.optExpr parts.1) fun _ => R.bind (related.stmts _ parts.2) fun _ => R.pure _
  case tryStmt =>
    exact R.bind (related.block parts.1.1) fun _ => R.bind (related.optStmt parts.1.2) fun _ =>
      R.bind (related.body parts.2) fun _ => R.pure _
  case catchClause =>
    have param := R.optionMapM fun p member => related.pat p (parts.1 p member)
    exact R.bind param fun _ => R.bind (related.block parts.2) fun _ => R.pure _
  case forLoop =>
    obtain ⟨⟨⟨init, test⟩, update⟩, body, -⟩ := parts
    exact R.bind (related.optStmt init) fun _ => R.bind (related.optExpr test) fun _ =>
      R.bind (related.optExpr update) fun _ => R.bind (related.stmt _ body) fun _ => R.pure _
  case forIn | forOf =>
    exact R.bind (related.stmt _ parts.1) fun _ => R.bind (related.expr _ parts.2.1) fun _ =>
      R.bind (related.stmt _ parts.2.2.1) fun _ => R.pure _
  case forTarget => exact R.bind (related.pat _ parts.1) fun _ => R.pure _
  case classDecl | exportDefaultClass => exact R.bind (related.cls _ parts.1) fun _ => R.pure _
  case funcDecl | exportDefaultFunc => exact R.bind (related.func _ parts.1) fun _ => R.pure _
  case varDecl | usingDecl => exact R.bind (related.declarators parts) fun _ => R.pure _
  case enumDecl => exact R.bind (related.onStmts parts) fun _ => R.pure _
  case namespaceBlock => exact R.bind (related.stmts _ parts) fun _ => R.pure _
  case namespaceDecl => exact R.bind (related.optStmt parts) fun _ => R.pure _
  all_goals exact R.bind (related.expr _ parts.1) fun _ => R.pure _

/-- **Going on to the parts keeps the relation** on nodes whose parts have the property too. -/
theorem through (related : Related R P w w') (hereditary : ∀ n, P n → ∀ part ∈ n.parts, P part) :
    Related R P w.through w'.through where
  expr _ here := related.onExpr (hereditary _ here)
  pat _ here := related.onPat (hereditary _ here)
  stmt _ here := related.onStmt (hereditary _ here)
  stmts _ each := related.onStmts each
  func _ here := related.onFunc (hereditary _ here)
  cls _ here := related.onClass (hereditary _ here)

end Related

end Walker

end Detype
