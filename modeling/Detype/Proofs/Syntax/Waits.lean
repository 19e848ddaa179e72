import Detype.Syntax.Await

/-
**Where a program waits.**

The search for top-level `await` keeps a count of the functions around the node that it is at. What it finds is said
here without the count: a node is named by the way to it from the root, one number for each step down, and it is found
if it waits and no node on the way to it is a function. Ways in lexicographic order are nodes in pre-order. Types are
nodes like all others, and functions they describe are no functions.

* `Subtree` — a node of the tree, with its children (`Subtree.children`) and the node at the end of a way (`at?`).
* `Subtree.Waits` — a node that waits at the end of a way, outside every function.
* `Subtree.visit_eq` — what the search does at one node, whatever its kind.
* `after_visit_of_inside` — inside a function a search leaves the state as it was.
* `Subtree.exists_finds` — outside it adds the places that wait, in order, and changes nothing else.
* `topLevelAwaits_eq` — what is found in a program, and that the count is restored.
-/

namespace Detype

open AwaitFinder

/-- A node of a tree. The decorators of a method stand in its function. -/
inductive Subtree where
  | program (p : Program)
  | expr (e : Expr)
  | pat (p : Pat)
  | type (t : Ty)
  | stmt (s : Stmt)
  | block (b : Block)
  | func (f : Func) (decorators : List Expr)
  | cls (c : Class)
  | member (m : Member)
  | declarator (d : Declarator)

/-! ### Children -/

def ArrowBody.subtree : ArrowBody → Subtree
  | .block b => .block b
  | .expr e => .expr e

def Func.children (f : Func) (decorators : List Expr) : List Subtree :=
  f.params.map .pat ++ decorators.map .expr ++ f.body.toList.map .block ++ f.types.map .type

def Expr.children : Expr → List Subtree
  | .func _ f => [.func f []]
  | .arrow _ _ ps body types => ps.map .pat ++ [body.subtree] ++ types.map .type
  | .propMethod _ .method k f => [.expr k, .func f []]
  -- A getter or a setter of an object has the parts of a function, but no function.
  | .propMethod _ _ k f =>
    .expr k :: (f.types.map .type ++ f.params.map .pat ++ f.body.toList.map .block)
  | .array _ es | .object _ es | .seq _ es | .template _ _ es | .jsxFragment _ _ _ es => es.map .expr
  | .classExpr _ c => [.cls c]
  | .await _ e | .unary _ _ e | .update _ _ _ e | .paren _ e | .optChain _ _ e | .spread _ e | .keyComputed _ e
  | .propDefault _ _ e | .jsxContainer _ e | .jsxSpreadChild _ e => [.expr e]
  | .typed _ _ e types => .expr e :: types.map .type
  | .binary _ _ a b | .member _ a b | .propValue a b => [.expr a, .expr b]
  | .tagged _ a b types => .expr a :: (types.map .type ++ [.expr b])
  | .assign _ _ t v => [.pat t, .expr v]
  | .cond _ a b c => [.expr a, .expr b, .expr c]
  | .call _ f args types | .new _ f args _ types => .expr f :: (args.map .expr ++ types.map .type)
  | .yield _ _ a | .jsxAttr _ _ a => a.toList.map .expr
  | .jsxElement _ _ _ attrs types _ children _ => attrs.map .expr ++ types.map .type ++ children.map .expr
  | _ => []

def Pat.children : Pat → List Subtree
  | .array _ ps | .object _ ps => ps.map .pat
  | .rest _ _ p => [.pat p]
  | .assign _ p e => [.pat p, .expr e]
  | .expr e => [.expr e]
  | .propValue k p => [.expr k, .pat p]
  | .propShorthand _ _ d => d.toList.map .expr
  | .param _ ds _ p => ds.map .expr ++ [.pat p]
  | .typed p type => [.pat p, .type type]
  | _ => []

def Ty.children : Ty → List Subtree
  | .simple => []
  | .named types | .object types | .tuple types | .union types | .intersection types | .template types =>
    types.map .type
  | .query source args => source.toList.map .type ++ args.map .type
  | .imported args attributes => args.map .type ++ attributes.toList.map .expr
  | .predicate type => type.toList.map .type
  | .function params typeParams result => params.map .pat ++ typeParams.map .type ++ [.type result]
  | .mapped param name type => .type param :: (name.toList.map .type ++ type.toList.map .type)
  | .array type | .optional type | .rest type | .infer type | .operator type | .paren type => [.type type]
  | .conditional checked bound whenTrue whenFalse => [.type checked, .type bound, .type whenTrue, .type whenFalse]
  | .indexed obj index => [.type obj, .type index]
  | .typeParam bound default => bound.toList.map .type ++ default.toList.map .type
  | .tupleElement label type => label.toList.map .pat ++ [.type type]
  | .heritage e args => .expr e :: args.map .type
  | .callSignature params result typeParams =>
    params.map .pat ++ result.toList.map .type ++ typeParams.map .type
  | .property key type => .expr key :: type.toList.map .type
  | .setter key param => [.expr key, .pat param]
  | .method key params result typeParams =>
    .expr key :: (params.map .pat ++ result.toList.map .type ++ typeParams.map .type)
  | .indexSignature params type => params.map .pat ++ type.toList.map .type

def Class.children (c : Class) : List Subtree :=
  c.decorators.map .expr ++ c.members.map .member ++ c.superClass.toList.map .expr ++ c.types.map .type

def Field.children (f : Field) : List Subtree :=
  .expr f.key :: (f.value.toList.map .expr ++ f.type.toList.map .type ++ f.decorators.map .expr)

def Member.children : Member → List Subtree
  | .ctor _ k params body => .expr k :: (params.map .pat ++ body.toList.map .block)
  | .method m => [.expr m.key, .func m.func m.decorators]
  | .field f | .accessor f => f.children
  | .staticBlock _ b => [.block b]
  | .indexSignature _ signature => [.type signature]
  | .empty _ => []

def Stmt.children : Stmt → List Subtree
  | .forIn _ l r b | .forOf _ _ l r b => [.stmt l, .expr r, .stmt b]
  | .varDecl _ _ _ ds | .usingDecl _ _ ds => ds.map .declarator
  | .funcDecl _ _ f | .exportDefaultFunc _ _ f => [.func f []]
  | .expr _ e | .throwStmt _ e | .exportDefaultExpr _ e | .exportAssign _ e => [.expr e]
  | .block b => [.block b]
  | .withStmt _ e b | .whileLoop _ e b | .doWhile _ b e => [.expr e, .stmt b]
  | .returnStmt _ e => e.toList.map .expr
  | .labeled _ _ b | .exportDecl _ b => [.stmt b]
  | .ifStmt _ t a b => .expr t :: .stmt a :: b.toList.map .stmt
  | .switch _ e cs => .expr e :: cs.map .stmt
  | .switchCase _ t b => t.toList.map .expr ++ b.map .stmt
  | .tryStmt _ b h f => .block b :: (h.toList.map .stmt ++ f.toList.map .block)
  | .catchClause _ p b => p.toList.map .pat ++ [.block b]
  | .forLoop _ i t u b => i.toList.map .stmt ++ t.toList.map .expr ++ u.toList.map .expr ++ [.stmt b]
  | .forTarget p => [.pat p]
  | .classDecl _ _ c | .exportDefaultClass _ _ c => [.cls c]
  | .enumDecl _ _ _ _ ss | .namespaceBlock _ ss => ss.map .stmt
  | .enumMember _ k v => .expr k :: v.toList.map .expr
  | .namespaceDecl _ _ _ _ b => b.toList.map .stmt
  | .importDecl _ _ _ _ e _ | .exportNamed _ _ _ _ e | .exportAll _ _ _ e => e.toList.map .expr
  | .interfaceDecl _ _ types | .typeAlias _ _ types | .exportDefaultInterface _ _ types => types.map .type
  | _ => []

namespace Subtree

/-- The nodes right below a node. -/
def children : Subtree → List Subtree
  | program p => p.body.map .stmt
  | expr e => e.children
  | pat p => p.children
  | type t => t.children
  | stmt s => s.children
  | block b => b.stmts.map .stmt
  | func f decorators => f.children decorators
  | cls c => c.children
  | member m => m.children
  | declarator d => .pat d.name :: d.init.toList.map .expr

/-- The node at the end of a way, which says which child to go on to. -/
def at? (root : Subtree) : List Nat → Option Subtree
  | [] => some root
  | i :: rest => root.children[i]?.bind (·.at? rest)

/-- Whether a node is a function. -/
def isFunction : Subtree → Bool
  | func _ _ | expr (.arrow _ _ _ _ _) => true
  | _ => false

/-- The place of a node that waits: an `await`, a `for await` loop or an `await using` declaration. -/
def waits? : Subtree → Option Span
  | expr (.await s _) | stmt (.forOf s true _ _ _) | stmt (.usingDecl s true _) => some s
  | _ => none

/-- A node that waits, at the end of a way on which there is no function. -/
structure Waits (root : Subtree) (way : List Nat) (span : Span) : Prop where
  stands : ∃ node, root.at? way = some node ∧ node.waits? = some span
  free : ∀ above, above <+: way → above ≠ way → ∀ node, root.at? above = some node → node.isFunction = false

theorem waits_nil {root : Subtree} {span : Span} : root.Waits [] span ↔ root.waits? = some span := by
  refine ⟨fun waits => ?_, fun here => ⟨⟨root, rfl, here⟩, fun above begins proper => ?_⟩⟩
  · obtain ⟨node, found, here⟩ := waits.stands
    cases found
    exact here
  · exact absurd (List.prefix_nil.mp begins) proper

/-- What waits below a node waits below one of its children, and the node is no function. -/
theorem waits_cons {root : Subtree} {i : Nat} {rest : List Nat} {span : Span} :
    root.Waits (i :: rest) span ↔
      root.isFunction = false ∧ ∃ child, root.children[i]? = some child ∧ child.Waits rest span := by
  constructor
  · intro waits
    obtain ⟨node, found, here⟩ := waits.stands
    obtain ⟨child, listed, found⟩ := Option.bind_eq_some_iff.mp found
    refine ⟨waits.free [] List.nil_prefix (by simp) root rfl, child, listed, ⟨node, found, here⟩, ?_⟩
    intro above begins proper middle there
    refine waits.free (i :: above) (List.cons_prefix_cons.mpr ⟨rfl, begins⟩) (by simpa using proper) middle ?_
    rw [at?, listed]
    exact there
  · rintro ⟨plain, child, listed, waits⟩
    obtain ⟨node, found, here⟩ := waits.stands
    refine ⟨⟨node, by rw [at?, listed]; exact found, here⟩, fun above begins proper middle there => ?_⟩
    cases above with
    | nil =>
      cases there
      exact plain
    | cons j above =>
      obtain ⟨rfl, shorter⟩ := List.cons_prefix_cons.mp begins
      rw [at?, listed] at there
      exact waits.free above shorter (by simpa using proper) middle there

/-! ### The search at one node -/

/-- The search through a node. -/
def visit : Subtree → Visit
  | program p => Stmt.visitAll p.body
  | expr e => e.visit
  | pat p => p.visit
  | type t => t.visit
  | stmt s => s.visit
  | block b => b.visit
  | func f decorators => insideFunction (f.visit (Expr.visitAll decorators))
  | cls c => c.visit
  | member m => m.visit
  | declarator d => d.visit

def visitAll (nodes : List Subtree) : Visit := nodes.forM visit

@[simp]
theorem visitAll_nil : visitAll [] = pure () := rfl

@[simp]
theorem visitAll_cons (n : Subtree) (nodes : List Subtree) :
    visitAll (n :: nodes) = (do n.visit; visitAll nodes) := rfl

@[simp]
theorem visitAll_append (before after : List Subtree) :
    visitAll (before ++ after) = (do visitAll before; visitAll after) := by
  induction before with
  | nil => simp
  | cons n before ih => simp [ih]

/-- A list is searched node by node if its first node is searched before the others. -/
theorem visitAll_map {α : Type} {node : α → Subtree} {all : List α → Visit} (nil : all [] = pure ())
    (cons : ∀ x xs, all (x :: xs) = do (node x).visit; all xs) (xs : List α) : visitAll (xs.map node) = all xs := by
  induction xs with
  | nil => exact nil.symm
  | cons x xs ih => rw [List.map_cons, visitAll_cons, ih, cons]

@[simp]
theorem visit_exprs (es : List Expr) : visitAll (es.map expr) = Expr.visitAll es :=
  visitAll_map rfl (fun _ _ => rfl) es

@[simp]
theorem visit_pats (ps : List Pat) : visitAll (ps.map pat) = Pat.visitAll ps :=
  visitAll_map rfl (fun _ _ => rfl) ps

@[simp]
theorem visit_types (ts : List Ty) : visitAll (ts.map type) = Ty.visitAll ts :=
  visitAll_map rfl (fun _ _ => rfl) ts

@[simp]
theorem visit_stmts (ss : List Stmt) : visitAll (ss.map stmt) = Stmt.visitAll ss :=
  visitAll_map rfl (fun _ _ => rfl) ss

@[simp]
theorem visit_members (ms : List Member) : visitAll (ms.map member) = Member.visitAll ms :=
  visitAll_map rfl (fun _ _ => rfl) ms

@[simp]
theorem visit_declarators (ds : List Declarator) : visitAll (ds.map declarator) = Declarator.visitAll ds :=
  visitAll_map rfl (fun _ _ => rfl) ds

@[simp]
theorem visit_expr? (e : Option Expr) : Expr.visitAll e.toList = Expr.visitOption e := by
  cases e <;> rfl

@[simp]
theorem visit_pat? (p : Option Pat) : Pat.visitAll p.toList = Pat.visitOption p := by
  cases p <;> rfl

@[simp]
theorem visit_type? (t : Option Ty) : Ty.visitAll t.toList = Ty.visitOption t := by
  cases t <;> rfl

@[simp]
theorem visit_stmt? (s : Option Stmt) : Stmt.visitAll s.toList = Stmt.visitOption s := by
  cases s <;> rfl

@[simp]
theorem visit_block? (b : Option Block) : visitAll (b.toList.map block) = Block.visitOption b := by
  cases b <;> rfl

@[simp]
theorem visit_arrowBody (body : ArrowBody) : body.subtree.visit = body.visit := by
  cases body <;> rfl

@[simp]
theorem visit_parts (f : Func) (decorators : List Expr) :
    visitAll (f.children decorators) = f.visit (Expr.visitAll decorators) := by
  obtain ⟨span, params, body, types, isGenerator, isAsync⟩ := f
  simp only [Func.children, visitAll_append, visit_exprs, visit_pats, visit_block?, visit_types, bind_assoc]
  rfl

/-- What is recorded at a node itself. -/
def note (n : Subtree) : Visit :=
  match n.waits? with
  | some s => record s
  | none => pure ()

/-- The search through the parts of a node. -/
def around (n : Subtree) (parts : Visit) : Visit := if n.isFunction then insideFunction parts else parts

-- What is done at a node is spelled as the search spells it, so that both sides unfold to one text.

theorem visit_expr (e : Expr) : around (.expr e) (do note (.expr e); visitAll e.children) = e.visit := by
  cases e with
  | propMethod s kind k f =>
    obtain ⟨span, params, body, types, isGenerator, isAsync⟩ := f
    cases kind <;> simp [around, note, isFunction, waits?, Expr.children, visit] <;> rfl
  | arrow =>
    simp [around, note, isFunction, waits?, Expr.children]
    rfl
  | _ =>
    simp [around, note, isFunction, waits?, Expr.children, visit]
    rfl

theorem visit_pat (p : Pat) : visitAll p.children = p.visit := by
  cases p <;> simp [Pat.children, visit] <;> rfl

theorem visit_type (t : Ty) : visitAll t.children = t.visit := by
  cases t <;> simp [Ty.children, visit] <;> rfl

theorem visit_member (m : Member) : visitAll m.children = m.visit := by
  cases m with
  | method m =>
    cases m
    simp [Member.children, visit]
    rfl
  | field f | accessor f =>
    cases f
    simp [Member.children, Field.children, visit]
    rfl
  | _ =>
    simp [Member.children, visit]
    rfl

theorem visit_stmt (s : Stmt) : (do note (.stmt s); visitAll s.children) = s.visit := by
  cases s with
  | forOf s isAwait l r b => cases isAwait <;> simp [note, waits?, Stmt.children, visit] <;> rfl
  | usingDecl s isAwait ds => cases isAwait <;> simp [note, waits?, Stmt.children] <;> rfl
  | _ =>
    simp [note, waits?, Stmt.children, visit]
    rfl

/-- **What the search does at one node**, whatever its kind. -/
theorem visit_eq (n : Subtree) : n.visit = n.around (do n.note; visitAll n.children) := by
  symm
  cases n with
  | expr e => exact visit_expr e
  | stmt s => exact visit_stmt s
  | pat p => exact visit_pat p
  | type t => exact visit_type t
  | member m => exact visit_member m
  | func f decorators => exact congrArg insideFunction (visit_parts f decorators)
  | program p => exact visit_stmts p.body
  | block b =>
    cases b
    exact visit_stmts _
  | cls c =>
    cases c
    simp [visit, around, note, isFunction, waits?, children, Class.children]
    rfl
  | declarator d =>
    cases d
    simp [visit, around, note, isFunction, waits?, children]
    rfl

/-! ### Sizes -/

/-- The size of a node, without the constructor that says its kind. -/
noncomputable def size : Subtree → Nat
  | program p => sizeOf p
  | expr e => sizeOf e
  | pat p => sizeOf p
  | type t => sizeOf t
  | stmt s => sizeOf s
  | block b => sizeOf b
  | func f decorators => sizeOf f + sizeOf decorators - 1
  | cls c => sizeOf c
  | member m => sizeOf m
  | declarator d => sizeOf d

theorem size_arrowBody (body : ArrowBody) : body.subtree.size < sizeOf body := by
  cases body <;> grind [ArrowBody.subtree, size]

theorem size_lt_of_mem_parts {f : Func} {decorators : List Expr} {c : Subtree}
    (member : c ∈ f.children decorators) : c.size < (func f decorators).size := by
  cases f
  grind [→ List.sizeOf_lt_of_mem, Func.children, size]

/-! Membership is split before the search for a bound, which is slow on lists of children. -/

theorem size_lt_of_mem_exprChildren {e : Expr} {c : Subtree} (member : c ∈ e.children) : c.size < sizeOf e := by
  cases e with
  | propMethod s kind k f =>
    cases f
    cases kind <;> simp only [Expr.children, List.mem_append, List.mem_cons, List.not_mem_nil, or_false] at member <;>
      grind [→ List.sizeOf_lt_of_mem, size]
  | arrow =>
    simp only [Expr.children, List.mem_append, List.mem_cons, List.not_mem_nil, or_false] at member
    grind [→ List.sizeOf_lt_of_mem, size_arrowBody, size]
  | _ =>
    simp only [Expr.children, List.mem_append, List.mem_cons, List.not_mem_nil, or_false] at member <;>
      grind [→ List.sizeOf_lt_of_mem, size]

theorem size_lt_of_mem_patChildren {p : Pat} {c : Subtree} (member : c ∈ p.children) : c.size < sizeOf p := by
  cases p <;> simp only [Pat.children, List.mem_append, List.mem_cons, List.not_mem_nil, or_false] at member <;>
    grind [→ List.sizeOf_lt_of_mem, size]

theorem size_lt_of_mem_typeChildren {t : Ty} {c : Subtree} (member : c ∈ t.children) : c.size < sizeOf t := by
  cases t <;> simp only [Ty.children, List.mem_append, List.mem_cons, List.not_mem_nil, or_false] at member <;>
    grind [→ List.sizeOf_lt_of_mem, size]

theorem size_lt_of_mem_stmtChildren {s : Stmt} {c : Subtree} (member : c ∈ s.children) : c.size < sizeOf s := by
  cases s <;> simp only [Stmt.children, List.mem_append, List.mem_cons, List.not_mem_nil, or_false] at member <;>
    grind [→ List.sizeOf_lt_of_mem, size]

theorem size_lt_of_mem_memberChildren {m : Member} {c : Subtree} (member : c ∈ m.children) : c.size < sizeOf m := by
  cases m with
  | method m =>
    cases m
    grind [Member.children, size]
  | field f | accessor f =>
    cases f
    grind [→ List.sizeOf_lt_of_mem, Member.children, Field.children, size]
  | _ => grind [→ List.sizeOf_lt_of_mem, Member.children, size]

/-- **Children are smaller.** -/
theorem size_lt_of_mem_children {n c : Subtree} (member : c ∈ n.children) : c.size < n.size := by
  cases n with
  | expr e => exact size_lt_of_mem_exprChildren member
  | pat p => exact size_lt_of_mem_patChildren member
  | type t => exact size_lt_of_mem_typeChildren member
  | stmt s => exact size_lt_of_mem_stmtChildren member
  | member m => exact size_lt_of_mem_memberChildren member
  | func f decorators => exact size_lt_of_mem_parts member
  | program x | block x | cls x | declarator x =>
    cases x
    grind [→ List.sizeOf_lt_of_mem, children, Class.children, size]

end Subtree

/-! ### The state of a search -/

namespace AwaitFinder

/-- The state after a search. -/
def after (search : Visit) (s : AwaitFinder) : AwaitFinder := (search.run s).2

/-- The state with more places. -/
def add (s : AwaitFinder) (spans : List Span) : AwaitFinder := { s with spans := s.spans ++ spans }

theorem add_nil (s : AwaitFinder) : s.add [] = s := by simp [add]

theorem add_add (s : AwaitFinder) (first second : List Span) :
    (s.add first).add second = s.add (first ++ second) := by simp [add]

theorem after_bind (first second : Visit) (s : AwaitFinder) :
    after (do first; second) s = after second (after first s) := rfl

theorem after_record_of_inside {s : AwaitFinder} (inside : s.functionDepth ≠ 0) (span : Span) :
    after (record span) s = s := if_neg inside

theorem after_record_of_outside {s : AwaitFinder} (outside : s.functionDepth = 0) (span : Span) :
    after (record span) s = s.add [span] := if_pos outside

/-- The parts of a function are searched at a count that is not zero, which is then counted down. -/
theorem after_insideFunction {parts : Visit}
    (still : ∀ s : AwaitFinder, s.functionDepth ≠ 0 → after parts s = s) (s : AwaitFinder) :
    after (insideFunction parts) s = s := by
  have inner := still { s with functionDepth := s.functionDepth + 1 } (Nat.succ_ne_zero _)
  have counted : after (insideFunction parts) s =
      { after parts { s with functionDepth := s.functionDepth + 1 } with
        functionDepth := (after parts { s with functionDepth := s.functionDepth + 1 }).functionDepth - 1 } := rfl
  rw [counted, inner]
  rfl

end AwaitFinder

namespace Subtree

/-! ### Inside a function -/

theorem after_note_of_inside (n : Subtree) {s : AwaitFinder} (inside : s.functionDepth ≠ 0) : after n.note s = s := by
  unfold note
  split
  · exact after_record_of_inside inside _
  · rfl

theorem after_visitAll_of_inside {nodes : List Subtree}
    (each : ∀ c ∈ nodes, ∀ s : AwaitFinder, s.functionDepth ≠ 0 → after c.visit s = s) (s : AwaitFinder)
    (inside : s.functionDepth ≠ 0) : after (visitAll nodes) s = s := by
  induction nodes with
  | nil => rfl
  | cons c nodes ih =>
    rw [visitAll_cons, after_bind, each c List.mem_cons_self s inside]
    exact ih fun d member => each d (List.mem_cons_of_mem c member)

/-- **Inside a function a search leaves the state as it was.** -/
theorem after_visit_of_inside (n : Subtree) (s : AwaitFinder) (inside : s.functionDepth ≠ 0) :
    after n.visit s = s := by
  have parts : ∀ s : AwaitFinder, s.functionDepth ≠ 0 → after (do n.note; visitAll n.children) s = s := by
    intro s inside
    rw [after_bind, after_note_of_inside n inside]
    refine after_visitAll_of_inside (fun c member => ?_) s inside
    have smaller := size_lt_of_mem_children member
    exact after_visit_of_inside c
  rw [visit_eq, around]
  split
  · exact after_insideFunction parts s
  · exact parts s inside
termination_by n.size

/-- A function leaves every state as it was. -/
theorem after_visit_of_isFunction {n : Subtree} (kind : n.isFunction = true) (s : AwaitFinder) :
    after n.visit s = s := by
  rw [visit_eq, around, if_pos kind]
  refine after_insideFunction (fun s inside => ?_) s
  rw [after_bind, after_note_of_inside n inside]
  exact after_visitAll_of_inside (fun c _ => after_visit_of_inside c) s inside

theorem waits?_of_isFunction {n : Subtree} (kind : n.isFunction = true) : n.waits? = none := by
  unfold isFunction at kind
  split at kind
  · rfl
  · rfl
  · cases kind

/-! ### Outside every function -/

/-- What a search finds: the ways to the nodes that wait, in order, with their places, which it adds to the state. -/
structure Finds (search : Visit) (Waits : List Nat → Span → Prop) (found : List (List Nat × Span)) : Prop where
  ordered : (found.map Prod.fst).Pairwise (· < ·)
  mem : ∀ way span, (way, span) ∈ found ↔ Waits way span
  recorded : ∀ s : AwaitFinder, s.functionDepth = 0 → after search s = s.add (found.map Prod.snd)

/-- A node that waits below one of some nodes, which are numbered from `first` on. -/
def WaitsAmong (nodes : List Subtree) (first : Nat) (way : List Nat) (span : Span) : Prop :=
  ∃ i rest child, way = (first + i) :: rest ∧ nodes[i]? = some child ∧ child.Waits rest span

theorem waitsAmong_cons {c : Subtree} {nodes : List Subtree} {first : Nat} {way : List Nat} {span : Span} :
    WaitsAmong (c :: nodes) first way span ↔
      (∃ rest, way = first :: rest ∧ c.Waits rest span) ∨ WaitsAmong nodes (first + 1) way span := by
  constructor
  · rintro ⟨i, rest, child, rfl, listed, waits⟩
    cases i with
    | zero =>
      cases listed
      exact Or.inl ⟨rest, rfl, waits⟩
    | succ i => exact Or.inr ⟨i, rest, child, by rw [Nat.add_assoc, Nat.add_comm 1], listed, waits⟩
  · rintro (⟨rest, rfl, waits⟩ | ⟨i, rest, child, rfl, listed, waits⟩)
    · exact ⟨0, rest, c, rfl, rfl, waits⟩
    · exact ⟨i + 1, rest, child, by rw [Nat.add_assoc, Nat.add_comm 1], listed, waits⟩

/-- What waits below a node that is no function waits below its children. -/
theorem waits_cons_of_plain {n : Subtree} (plain : n.isFunction = false) {i : Nat} {rest : List Nat} {span : Span} :
    n.Waits (i :: rest) span ↔ WaitsAmong n.children 0 (i :: rest) span := by
  rw [waits_cons]
  constructor
  · rintro ⟨_, child, listed, waits⟩
    exact ⟨i, rest, child, by rw [Nat.zero_add], listed, waits⟩
  · rintro ⟨j, rest', child, numbered, listed, waits⟩
    rw [Nat.zero_add] at numbered
    cases numbered
    exact ⟨plain, child, listed, waits⟩

/-- Nodes are searched one after the other. -/
theorem exists_finds_visitAll {nodes : List Subtree} (each : ∀ c ∈ nodes, ∃ found, Finds c.visit c.Waits found)
    (first : Nat) : ∃ found, Finds (visitAll nodes) (WaitsAmong nodes first) found := by
  induction nodes generalizing first with
  | nil => exact ⟨[], List.Pairwise.nil, by simp [WaitsAmong], fun s _ => (add_nil s).symm⟩
  | cons c nodes ih =>
    obtain ⟨here, finds⟩ := each c List.mem_cons_self
    obtain ⟨later, findsLater⟩ := ih (fun d member => each d (List.mem_cons_of_mem c member)) (first + 1)
    refine ⟨here.map (fun x => (first :: x.1, x.2)) ++ later, ?ordered, fun way span => ?mem, fun s outside => ?recorded⟩
    case ordered =>
      rw [List.map_append, List.map_map, List.pairwise_append, List.pairwise_map]
      refine ⟨?_, findsLater.ordered, ?_⟩
      · exact (List.pairwise_map.mp finds.ordered).imp fun less => List.cons_lt_cons_iff.mpr (Or.inr ⟨rfl, less⟩)
      · -- The numbers of the later nodes are larger.
        intro way front way' back
        obtain ⟨x, _, rfl⟩ := List.mem_map.mp front
        obtain ⟨y, member, rfl⟩ := List.mem_map.mp back
        obtain ⟨i, rest, _, numbered, _, _⟩ := (findsLater.mem _ _).mp member
        rw [numbered]
        exact List.cons_lt_cons_iff.mpr (Or.inl (by omega))
    case mem =>
      rw [List.mem_append, waitsAmong_cons, findsLater.mem, List.mem_map]
      refine or_congr_left ⟨?_, ?_⟩
      · rintro ⟨x, member, same⟩
        cases same
        exact ⟨x.1, rfl, (finds.mem _ _).mp member⟩
      · rintro ⟨rest, rfl, waits⟩
        exact ⟨(rest, span), (finds.mem _ _).mpr waits, rfl⟩
    case recorded =>
      rw [visitAll_cons, after_bind, finds.recorded s outside, findsLater.recorded (s.add _) outside, add_add,
        List.map_append, List.map_map]
      rfl

theorem after_note_of_outside (n : Subtree) {s : AwaitFinder} (outside : s.functionDepth = 0) :
    after n.note s = s.add n.waits?.toList := by
  unfold note
  cases n.waits? with
  | none => exact (add_nil s).symm
  | some span => exact after_record_of_outside outside span

/-- **Outside every function a search adds the places that wait**, in order, and changes nothing else. -/
theorem exists_finds (n : Subtree) : ∃ found, Finds n.visit n.Waits found := by
  cases kind : n.isFunction with
  | true =>
    refine ⟨[], List.Pairwise.nil, fun way span => iff_of_false List.not_mem_nil ?_, fun s _ => ?_⟩
    · cases way with
      | nil => simp [waits_nil, waits?_of_isFunction kind]
      | cons i rest => simp [waits_cons, kind]
    · rw [after_visit_of_isFunction kind, List.map_nil, add_nil]
  | false =>
    have each : ∀ c ∈ n.children, ∃ found, Finds c.visit c.Waits found := by
      intro c member
      have smaller := size_lt_of_mem_children member
      exact exists_finds c
    obtain ⟨below, finds⟩ := exists_finds_visitAll each 0
    have numbered : ∀ x ∈ below, ∃ i rest, x.1 = i :: rest := by
      intro x member
      obtain ⟨i, rest, _, way_eq, _, _⟩ := (finds.mem x.1 x.2).mp member
      exact ⟨0 + i, rest, way_eq⟩
    refine ⟨n.waits?.toList.map (([], ·)) ++ below, ?ordered, fun way span => ?mem, fun s outside => ?recorded⟩
    case ordered =>
      rw [List.map_append, List.map_map, List.pairwise_append]
      refine ⟨?_, finds.ordered, ?_⟩
      · cases n.waits? with
        | none => exact List.Pairwise.nil
        | some span => exact List.pairwise_singleton ..
      · intro way here way' back
        obtain ⟨_, _, rfl⟩ := List.mem_map.mp here
        obtain ⟨x, member, rfl⟩ := List.mem_map.mp back
        obtain ⟨i, rest, way_eq⟩ := numbered x member
        rw [way_eq]
        exact List.nil_lt_cons i rest
    case mem =>
      rw [List.mem_append, finds.mem]
      cases way with
      | nil => simp [waits_nil, WaitsAmong]
      | cons i rest => simp [waits_cons_of_plain kind]
    case recorded =>
      rw [visit_eq, around, if_neg (by simp [kind]), after_bind, after_note_of_outside n outside,
        finds.recorded (s.add _) outside, add_add, List.map_append, List.map_map]
      cases n.waits? <;> rfl
termination_by n.size

/-- **The count is restored after every node.** -/
theorem functionDepth_after_visit (n : Subtree) (s : AwaitFinder) :
    (after n.visit s).functionDepth = s.functionDepth := by
  by_cases outside : s.functionDepth = 0
  · obtain ⟨found, finds⟩ := exists_finds n
    rw [finds.recorded s outside]
    rfl
  · rw [after_visit_of_inside n s outside]

end Subtree

/-! ### Programs -/

/-- **What is found in a program** are the places of all `await` expressions, `for await` loops and `await using`
declarations without a function above them, each once and in pre-order; and a search through any node of the tree, at
any count, leaves the count as it was. -/
theorem topLevelAwaits_eq (p : Program) :
    (∃ found : List (List Nat × Span),
      (found.map Prod.fst).Pairwise (· < ·) ∧
        (∀ way span, (way, span) ∈ found ↔ (Subtree.program p).Waits way span) ∧
        p.topLevelAwaits = found.map Prod.snd) ∧
      ∀ (n : Subtree) (s : AwaitFinder), (n.visit.run s).2.functionDepth = s.functionDepth := by
  refine ⟨?_, Subtree.functionDepth_after_visit⟩
  obtain ⟨found, finds⟩ := (Subtree.program p).exists_finds
  refine ⟨found, finds.ordered, finds.mem, ?_⟩
  have recorded := finds.recorded {} rfl
  have same : p.topLevelAwaits = (after (Subtree.program p).visit {}).spans := rfl
  rw [same, recorded]
  exact List.nil_append _

/-- An `await` in another one is found after it, and one in a function is not. -/
example (outer first inner : Span) :
    let nested := Expr.array {} [.await first (.null {}), .arrow {} true [] (.expr (.await inner (.null {}))) []]
    Program.topLevelAwaits { isModule := true, span := {}, shebang := none, body := [.expr {} (.await outer nested)] } =
      [outer, first] := rfl

/-- An `await` in the computed name of a member of an interface is found too. -/
example (inner : Span) :
    let member := Ty.property (.await inner (.null {})) none
    Program.topLevelAwaits { isModule := true, span := {}, shebang := none, body := [.interfaceDecl {} ⟨"I", {}, unmarked⟩ [member]] } =
      [inner] := rfl

end Detype
