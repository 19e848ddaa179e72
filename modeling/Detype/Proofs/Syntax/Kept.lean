import Detype.Proofs.Syntax.Parts

/-
**Walks that keep a property of trees.**

A walk builds a node from what its steps make of the parts. So if the steps keep a property that goes down to the parts,
the parts of what is built have the property.

* `Walker.Keeps` — a walker whose steps keep a property, with one lemma for each function of `Walker`.
* `Walker.through_still` — going on to the parts without changing them changes nothing.
-/

namespace Detype

namespace Walker

/-- A walker whose steps keep a property of nodes. -/
structure Keeps (P : Node → Prop) (w : Walker Id) : Prop where
  expr : ∀ e, P (.expr e) → P (.expr (w.expr e))
  pat : ∀ p, P (.pat p) → P (.pat (w.pat p))
  stmt : ∀ s, P (.stmt s) → P (.stmt (w.stmt s))
  stmts : ∀ ss : List Stmt, (∀ s ∈ ss, P (.stmt s)) → ∀ s ∈ (w.stmts ss).run, P (.stmt s)
  func : ∀ f, P (.func f) → P (.func (w.func f))
  cls : ∀ c, P (.cls c) → P (.cls (w.cls c))

namespace Keeps

theorem still (P : Node → Prop) : Keeps P Walker.still :=
  ⟨fun _ => id, fun _ => id, fun _ => id, fun _ => id, fun _ => id, fun _ => id⟩

/-- **Steps that keep a property keep it at every depth.** -/
theorem fix {P : Node → Prop} {step : Walker Id → Walker Id} (steps : ∀ {w}, Keeps P w → Keeps P (step w))
    (depth : Nat) : Keeps P (Walker.fix step depth) := by
  induction depth with
  | zero => exact still P
  | succ depth ih => exact steps ih

theorem forall_mem_mapM {α β : Type} {p : α → Prop} {q : β → Prop} {f : α → Id β} {l : List α}
    (each : ∀ a, p a → q (f a)) (all : ∀ a ∈ l, p a) : ∀ b ∈ (l.mapM f).run, q b := by
  rw [List.idRun_mapM]
  exact List.forall_mem_map.mpr fun a member => each a (all a member)

theorem forall_mem_optionMapM {α β : Type} {p : α → Prop} {q : β → Prop} {f : α → Id β} {o : Option α}
    (each : ∀ a, p a → q (f a)) (all : ∀ a ∈ o, p a) : ∀ b ∈ (o.mapM f).run, q b := by
  cases o with
  | none => exact fun _ none => nomatch none
  | some a =>
    intro b made
    obtain rfl := Option.some.inj made
    exact each a (all a rfl)

/-- What is a member access or call inside an optional chain may be any expression. -/
theorem chainParts_of {P : Node → Prop} (hereditary : ∀ n, P n → ∀ part ∈ n.parts, P part) {e : Expr}
    (here : P (.expr e)) : ∀ n ∈ e.chainParts, P n := by
  unfold Expr.chainParts
  split
  · exact hereditary _ here
  · exact hereditary _ here
  · exact List.forall_mem_singleton.mpr here

variable {P : Node → Prop} {w : Walker Id} (keeps : Keeps P w)
include keeps

theorem exprs {es : List Expr} (parts : ∀ e ∈ es, P (.expr e)) :
    ∀ e ∈ (es.mapM w.expr).run, P (.expr e) :=
  forall_mem_mapM keeps.expr parts

theorem pats {ps : List Pat} (parts : ∀ p ∈ ps, P (.pat p)) : ∀ p ∈ (ps.mapM w.pat).run, P (.pat p) :=
  forall_mem_mapM keeps.pat parts

theorem onStmts {ss : List Stmt} (parts : ∀ s ∈ ss, P (.stmt s)) :
    ∀ s ∈ (ss.mapM w.stmt).run, P (.stmt s) :=
  forall_mem_mapM keeps.stmt parts

theorem optExpr {o : Option Expr} (parts : ∀ e ∈ o, P (.expr e)) :
    ∀ e ∈ (w.optExpr o).run, P (.expr e) :=
  forall_mem_optionMapM keeps.expr parts

theorem optStmt {o : Option Stmt} (parts : ∀ s ∈ o, P (.stmt s)) :
    ∀ s ∈ (o.mapM w.stmt).run, P (.stmt s) :=
  forall_mem_optionMapM keeps.stmt parts

theorem block {b : Block} (parts : ∀ n ∈ b.parts, P n) : ∀ n ∈ (w.block b).run.parts, P n :=
  List.forall_mem_map.mpr (keeps.stmts b.stmts (List.forall_mem_map.mp parts))

theorem body {b : Option Block} (parts : ∀ n ∈ b.toList.flatMap Block.parts, P n) :
    ∀ n ∈ (b.mapM w.block).run.toList.flatMap Block.parts, P n := by
  cases b with
  | none => exact List.forall_mem_nil _
  | some b =>
    have inside : ∀ n ∈ b.parts, P n := by simpa using parts
    have kept := keeps.block inside
    simpa using kept

theorem arrowBody {body : ArrowBody} (parts : ∀ n ∈ body.parts, P n) :
    ∀ n ∈ (w.arrowBody body).run.parts, P n := by
  cases body with
  | block b => exact keeps.block parts
  | expr e => exact List.forall_mem_singleton.mpr (keeps.expr e (parts _ List.mem_cons_self))

theorem onFunc {f : Func} (parts : ∀ n ∈ f.parts, P n) : ∀ n ∈ (w.onFunc f).run.parts, P n := by
  simp only [Func.parts, List.forall_mem_append, List.forall_mem_map] at parts ⊢
  exact ⟨keeps.pats parts.1, keeps.body parts.2⟩

theorem onMethod {x : Method} (parts : ∀ n ∈ x.parts, P n) : ∀ n ∈ (w.onMethod x).run.parts, P n := by
  simp only [Method.parts, List.cons_append, List.forall_mem_cons, List.forall_mem_append, List.forall_mem_map]
    at parts ⊢
  exact ⟨keeps.expr _ parts.1, keeps.exprs parts.2.1, keeps.func _ parts.2.2.1, List.forall_mem_nil _⟩

theorem onField {x : Field} (parts : ∀ n ∈ x.parts, P n) : ∀ n ∈ (w.onField x).run.parts, P n := by
  simp only [Field.parts, List.cons_append, List.forall_mem_cons, List.forall_mem_append, List.forall_mem_map,
    Option.mem_toList] at parts ⊢
  exact ⟨keeps.expr _ parts.1, keeps.optExpr parts.2.1, keeps.exprs parts.2.2⟩

theorem onMember {x : Member} (parts : ∀ n ∈ x.parts, P n) : ∀ n ∈ (w.onMember x).run.parts, P n := by
  cases x with
  | ctor span key params body =>
    simp only [Member.parts, List.forall_mem_append, List.forall_mem_map] at parts
    exact List.forall_mem_append.mpr ⟨List.forall_mem_map.mpr (keeps.pats parts.1), keeps.body parts.2⟩
  | method x => exact keeps.onMethod parts
  | field x | accessor x => exact keeps.onField parts
  | staticBlock span b => exact keeps.block parts
  | indexSignature span signature | empty span => exact parts

theorem onClass {c : Class} (parts : ∀ n ∈ c.parts, P n) : ∀ n ∈ (w.onClass c).run.parts, P n := by
  simp only [Class.parts, List.forall_mem_append, List.forall_mem_map, Option.mem_toList] at parts ⊢
  obtain ⟨⟨decorators, superClass⟩, members⟩ := parts
  refine ⟨⟨keeps.exprs decorators, keeps.optExpr superClass⟩, ?_⟩
  have each : ∀ x ∈ c.members, ∀ n ∈ x.parts, P n := fun x member n part =>
    members n (List.mem_flatMap.mpr ⟨x, member, part⟩)
  have kept := @forall_mem_mapM _ _ (fun x => ∀ n ∈ x.parts, P n) (fun x => ∀ n ∈ x.parts, P n) w.onMember c.members
    (fun _ => keeps.onMember) each
  intro n found
  obtain ⟨x, member, part⟩ := List.mem_flatMap.mp found
  exact kept x member n part

theorem onChainBase (hereditary : ∀ n, P n → ∀ part ∈ n.parts, P part) {e : Expr} (parts : ∀ n ∈ e.chainParts, P n) :
    ∀ n ∈ (w.onChainBase e).run.chainParts, P n := by
  unfold Walker.onChainBase
  cases e
  case member s obj key =>
    simp only [Expr.chainParts, List.forall_mem_cons] at parts
    exact List.forall_mem_cons.mpr ⟨keeps.expr _ parts.1, List.forall_mem_singleton.mpr (keeps.expr _ parts.2.1)⟩
  case call s callee args types =>
    simp only [Expr.chainParts, List.forall_mem_cons, List.forall_mem_map] at parts
    exact List.forall_mem_cons.mpr ⟨keeps.expr _ parts.1, List.forall_mem_map.mpr (keeps.exprs parts.2)⟩
  all_goals exact chainParts_of hereditary (keeps.expr _ (parts _ List.mem_cons_self))

theorem onExpr (hereditary : ∀ n, P n → ∀ part ∈ n.parts, P part) {e : Expr} (parts : ∀ n ∈ e.parts, P n) :
    ∀ n ∈ (w.onExpr e).run.parts, P n := by
  unfold Walker.onExpr
  cases e
  all_goals
    dsimp only [bind, pure, Id.run]
    first
    | exact parts
    | skip
  all_goals
    simp only [Expr.parts, List.forall_mem_cons, List.forall_mem_append, List.forall_mem_map, Option.mem_toList,
      List.not_mem_nil, false_imp_iff, implies_true, and_true] at parts ⊢
  case array | object | seq | template | jsxFragment => exact keeps.exprs parts
  case func => exact keeps.func _ parts
  case arrow => exact ⟨keeps.pats parts.1, keeps.arrowBody parts.2⟩
  case classExpr => exact keeps.cls _ parts
  case assign => exact ⟨keeps.pat _ parts.1, keeps.expr _ parts.2⟩
  case cond => exact ⟨keeps.expr _ parts.1, keeps.expr _ parts.2.1, keeps.expr _ parts.2.2⟩
  case call | new => exact ⟨keeps.expr _ parts.1, keeps.exprs parts.2⟩
  case yield | jsxAttr => exact keeps.optExpr parts
  case optChain => exact keeps.onChainBase hereditary parts
  case propMethod => exact ⟨keeps.expr _ parts.1, keeps.func _ parts.2⟩
  case jsxElement => exact ⟨keeps.exprs parts.1, keeps.exprs parts.2⟩
  case binary | member | tagged | propValue => exact ⟨keeps.expr _ parts.1, keeps.expr _ parts.2⟩
  all_goals exact keeps.expr _ parts

theorem onPat {p : Pat} (parts : ∀ n ∈ p.parts, P n) : ∀ n ∈ (w.onPat p).run.parts, P n := by
  unfold Walker.onPat
  cases p
  all_goals
    dsimp only [bind, pure, Id.run]
    first
    | exact parts
    | skip
  all_goals
    simp only [Pat.parts, List.forall_mem_cons, List.forall_mem_append, List.forall_mem_map, Option.mem_toList,
      List.not_mem_nil, false_imp_iff, implies_true, and_true] at parts ⊢
  case array | object => exact keeps.pats parts
  case rest | typed => exact keeps.pat _ parts
  case assign => exact ⟨keeps.pat _ parts.1, keeps.expr _ parts.2⟩
  case expr => exact keeps.expr _ parts
  case propValue => exact ⟨keeps.expr _ parts.1, keeps.pat _ parts.2⟩
  case propShorthand => exact keeps.optExpr parts
  case param => exact ⟨keeps.exprs parts.1, keeps.pat _ parts.2⟩

theorem onDeclarator {d : Declarator} (parts : ∀ n ∈ d.parts, P n) : ∀ n ∈ (w.onDeclarator d).run.parts, P n := by
  simp only [Declarator.parts, List.forall_mem_cons, List.forall_mem_map, Option.mem_toList] at parts ⊢
  exact ⟨keeps.pat _ parts.1, keeps.optExpr parts.2⟩

theorem declarators {ds : List Declarator} (parts : ∀ n ∈ ds.flatMap Declarator.parts, P n) :
    ∀ n ∈ (ds.mapM w.onDeclarator).run.flatMap Declarator.parts, P n := by
  have each : ∀ d ∈ ds, ∀ n ∈ d.parts, P n := fun d member n part =>
    parts n (List.mem_flatMap.mpr ⟨d, member, part⟩)
  have kept := @forall_mem_mapM _ _ (fun d => ∀ n ∈ d.parts, P n) (fun d => ∀ n ∈ d.parts, P n) w.onDeclarator ds
    (fun _ => keeps.onDeclarator) each
  intro n found
  obtain ⟨d, member, part⟩ := List.mem_flatMap.mp found
  exact kept d member n part

theorem onStmt {s : Stmt} (parts : ∀ n ∈ s.parts, P n) : ∀ n ∈ (w.onStmt s).run.parts, P n := by
  unfold Walker.onStmt
  cases s
  all_goals
    dsimp only [bind, pure, Id.run]
    first
    | exact parts
    | skip
  all_goals
    simp only [Stmt.parts, List.forall_mem_cons, List.forall_mem_append, List.forall_mem_map, Option.mem_toList,
      List.not_mem_nil, false_imp_iff, implies_true, and_true] at parts ⊢
  case block => exact keeps.block parts
  case withStmt | whileLoop | doWhile => exact ⟨keeps.expr _ parts.1, keeps.stmt _ parts.2⟩
  case returnStmt | enumMember => exact keeps.optExpr parts
  case labeled | exportDecl => exact keeps.stmt _ parts
  case ifStmt => exact ⟨keeps.expr _ parts.1, keeps.stmt _ parts.2.1, keeps.optStmt parts.2.2⟩
  case switch => exact ⟨keeps.expr _ parts.1, keeps.onStmts parts.2⟩
  case switchCase => exact ⟨keeps.optExpr parts.1, keeps.stmts _ parts.2⟩
  case tryStmt => exact ⟨⟨keeps.block parts.1.1, keeps.optStmt parts.1.2⟩, keeps.body parts.2⟩
  case catchClause => exact ⟨forall_mem_optionMapM keeps.pat parts.1, keeps.block parts.2⟩
  case forLoop =>
    obtain ⟨⟨⟨init, test⟩, update⟩, body⟩ := parts
    exact ⟨⟨⟨keeps.optStmt init, keeps.optExpr test⟩, keeps.optExpr update⟩, keeps.stmt _ body⟩
  case forIn | forOf => exact ⟨keeps.stmt _ parts.1, keeps.expr _ parts.2.1, keeps.stmt _ parts.2.2⟩
  case forTarget => exact keeps.pat _ parts
  case classDecl | exportDefaultClass => exact keeps.cls _ parts
  case funcDecl | exportDefaultFunc => exact keeps.func _ parts
  case varDecl | usingDecl => exact keeps.declarators parts
  case enumDecl => exact keeps.onStmts parts
  case namespaceBlock => exact keeps.stmts _ parts
  case namespaceDecl => exact keeps.optStmt parts
  all_goals exact keeps.expr _ parts

end Keeps

/-! ### A walk that changes nothing -/

section Still

variable {m : Type → Type} [Monad m]

@[simp] theorem expr_still : (still : Walker m).expr = pure := rfl

@[simp] theorem pat_still : (still : Walker m).pat = pure := rfl

@[simp] theorem stmt_still : (still : Walker m).stmt = pure := rfl

@[simp] theorem stmts_still : (still : Walker m).stmts = pure := rfl

@[simp] theorem func_still : (still : Walker m).func = pure := rfl

@[simp] theorem cls_still : (still : Walker m).cls = pure := rfl

variable [LawfulMonad m]

@[simp] theorem mapM_still {α : Type} (l : List α) : l.mapM (pure : α → m α) = pure l := by
  induction l with
  | nil => rw [List.mapM_nil]
  | cons a l ih => rw [List.mapM_cons, pure_bind, ih, pure_bind]

@[simp] theorem optionMapM_still {α : Type} (o : Option α) : o.mapM (pure : α → m α) = pure o := by
  cases o with
  | none => rfl
  | some a => rw [Option.mapM_some, map_pure]

@[simp] theorem optExpr_still (o : Option Expr) : (still : Walker m).optExpr o = pure o := optionMapM_still o

@[simp] theorem block_still : (still : Walker m).block = pure := by
  funext b
  cases b
  simp only [block, stmts_still, pure_bind]

@[simp] theorem arrowBody_still (body : ArrowBody) : (still : Walker m).arrowBody body = pure body := by
  cases body <;> simp [arrowBody]

theorem onFunc_still (f : Func) : (still : Walker m).onFunc f = pure f := by
  cases f
  simp only [onFunc, pat_still, mapM_still, block_still, optionMapM_still, pure_bind]

@[simp] theorem onField_still (x : Field) : (still : Walker m).onField x = pure x := by
  cases x
  simp only [onField, expr_still, optExpr_still, mapM_still, pure_bind]

@[simp] theorem onMethod_still (x : Method) : (still : Walker m).onMethod x = pure x := by
  cases x
  simp only [onMethod, expr_still, func_still, mapM_still, pure_bind]

@[simp] theorem onMember_still : (still : Walker m).onMember = pure := by
  funext x
  cases x <;> simp [onMember]

theorem onClass_still (c : Class) : (still : Walker m).onClass c = pure c := by
  cases c
  simp only [onClass, expr_still, optExpr_still, onMember_still, mapM_still, pure_bind]

@[simp] theorem onDeclarator_still : (still : Walker m).onDeclarator = pure := by
  funext d
  cases d
  simp only [onDeclarator, pat_still, optExpr_still, pure_bind]

@[simp] theorem onChainBase_still (e : Expr) : (still : Walker m).onChainBase e = pure e := by
  unfold onChainBase
  cases e <;> simp

theorem onExpr_still (e : Expr) : (still : Walker m).onExpr e = pure e := by
  unfold onExpr
  cases e <;> simp

theorem onPat_still (p : Pat) : (still : Walker m).onPat p = pure p := by
  unfold onPat
  cases p <;> simp

theorem onStmt_still (s : Stmt) : (still : Walker m).onStmt s = pure s := by
  unfold onStmt
  cases s <;> simp

/-- **Going on to the parts without changing them changes nothing.** -/
theorem through_still : (still : Walker m).through = still := by
  unfold through
  rw [funext onExpr_still, funext onPat_still, funext onStmt_still, funext onFunc_still, funext onClass_still]
  have stmts : (still : Walker m).onStmts = pure := funext mapM_still
  rw [stmts]
  rfl

end Still

end Walker

end Detype
