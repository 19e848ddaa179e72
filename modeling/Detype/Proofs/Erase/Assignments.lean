import Detype.Erase.Namespaces
import Detype.Proofs.Syntax.Kept

/-
**Where the form of import and export assignments has a part in the tree.**

`import x = require("m")` and `export = e` are handled in one of two forms. In a tree that has neither, lowering gives
the same statements in both forms.

* `Node.Plain` — no such statement in a tree.
* `EnumTable.plain_ofProgram` — then there is none in the values of its enumerations.
* `Lowering.walker_congr` — the form has no part in what is done to such a tree.
* `lowerNamespaces_congr` — nor in lowering such a program.
-/

namespace Detype

/-- Statements that take in or hand out a module as a whole. -/
def Node.isAssignment : Node → Bool
  | .stmt (.importEquals _ _ _ _ (.external ..)) | .stmt (.exportAssign ..) => true
  | _ => false

/-- No such statement in the tree under a node. -/
abbrev Node.Plain : Node → Prop := Node.Lacks Node.isAssignment

namespace Node.Plain

theorem of_expr {e : Expr} (parts : ∀ n ∈ e.parts, n.Plain) : (Node.expr e).Plain := .intro rfl parts

theorem of_leaf {e : Expr} (leaf : e.parts = []) : (Node.expr e).Plain := by
  refine of_expr ?_
  rw [leaf]
  exact List.forall_mem_nil _

theorem of_unary {s : Span} {op : UnaryOp} {e : Expr} (plain : (Node.expr e).Plain) :
    (Node.expr (.unary s op e)).Plain :=
  of_expr (List.forall_mem_singleton.mpr plain)

theorem of_binary {s : Span} {op : BinaryOp} {l r : Expr} (left : (Node.expr l).Plain) (right : (Node.expr r).Plain) :
    (Node.expr (.binary s op l r)).Plain :=
  of_expr (List.forall_mem_cons.mpr ⟨left, List.forall_mem_singleton.mpr right⟩)

/-- A property that is asked for by its name. -/
theorem of_member {s : Span} {e : Expr} {id : Ident} (plain : (Node.expr e).Plain) :
    (Node.expr (.member s e (.keyName id))).Plain :=
  of_expr (List.forall_mem_cons.mpr ⟨plain, List.forall_mem_singleton.mpr (of_leaf rfl)⟩)

theorem of_dot {id : Ident} {name : String} {s : Span} : (Node.expr (.dot (.ident id) name s)).Plain :=
  of_member (of_leaf rfl)

end Node.Plain

/-- What is made of a statement that is no assignment is none. -/
theorem isAssignment_onStmt (w : Walker Id) {s : Stmt} (other : Node.isAssignment (.stmt s) = false) :
    Node.isAssignment (.stmt (w.onStmt s).run) = false := by
  unfold Walker.onStmt
  cases s
  case importEquals => exact other
  case exportAssign => exact other
  all_goals rfl

/-- Going on to the parts brings no assignment in. -/
theorem Walker.Keeps.through {w : Walker Id} (keeps : Keeps Node.Plain w) : Keeps Node.Plain w.through where
  expr _ plain := .intro rfl (keeps.onExpr (fun _ => Node.Lacks.parts) plain.parts)
  pat _ plain := .intro rfl (keeps.onPat plain.parts)
  stmt _ plain := .intro (isAssignment_onStmt w plain.other) (keeps.onStmt plain.parts)
  stmts _ each := keeps.onStmts each
  func _ plain := .intro rfl (keeps.onFunc plain.parts)
  cls _ plain := .intro rfl (keeps.onClass plain.parts)

/-! ### Values of enumerations -/

namespace EnumValue

/-- A value without such statements in it. -/
def Plain (v : EnumValue) : Prop := ∀ e, v = .computed e → (Node.expr e).Plain

theorem plain_number (n : Float) : (number n).Plain := nofun

theorem plain_text (s : String) : (text s).Plain := nofun

theorem plain_of_computed {e : Expr} (plain : (Node.expr e).Plain) : (computed e).Plain := by
  rintro _ ⟨⟩
  exact plain

theorem Plain.expr {v : EnumValue} (plain : v.Plain) : (Node.expr v.expr).Plain := by
  cases v with
  | number n =>
    unfold EnumValue.expr
    dsimp only
    split
    · exact .of_leaf rfl
    · split
      · split
        · exact .of_unary (.of_leaf rfl)
        · exact .of_leaf rfl
      · exact .of_leaf rfl
  | text s => exact .of_leaf rfl
  | computed e => exact plain e rfl
  | missing => exact .of_unary (.of_leaf rfl)

theorem Plain.exprOr {v : EnumValue} (plain : v.Plain) {e : Expr} (written : (Node.expr e).Plain) :
    (Node.expr (v.exprOr e)).Plain := by
  unfold EnumValue.exprOr
  split
  · exact plain.expr
  · exact written

theorem plain_next (v : EnumValue) : v.next.Plain := by cases v <;> nofun

end EnumValue

namespace EnumTable

/-- The value of an initializer is made of the initializer's parts. -/
theorem plain_evaluate (t : EnumTable) (owner : Ident) (e : Expr) (plain : (Node.expr e).Plain) :
    (t.evaluate owner e).Plain := by
  -- Only operands and what stands in parentheses are evaluated in turn, so the induction is on the size.
  induction size : sizeOf e using Nat.strongRecOn generalizing e with
  | _ size' ih =>
    subst size
    have same := EnumValue.plain_of_computed plain
    unfold evaluate
    split
    case h_1 s => exact EnumValue.plain_text _
    case h_2 n => exact EnumValue.plain_number _
    case h_3 id =>
      split
      · exact EnumValue.plain_number _
      · split
        · exact EnumValue.plain_number _
        · split
          · exact EnumValue.plain_number _
          · exact EnumValue.plain_text _
          · exact EnumValue.plain_of_computed .of_dot
          · exact same
    case h_4 s inner =>
      exact ih _ (by simp only [Expr.paren.sizeOf_spec]; omega) inner (plain.parts _ List.mem_cons_self) rfl
    case h_5 s op arg =>
      have inner := ih _ (by simp only [Expr.unary.sizeOf_spec]; omega) arg (plain.parts _ List.mem_cons_self) rfl
      split
      · split
        · split
          · exact EnumValue.plain_number _
          · exact same
        · exact EnumValue.plain_of_computed (.of_unary inner.expr)
      · exact same
    case h_6 s op l r =>
      have leftPart := plain.parts _ List.mem_cons_self
      have rightPart := plain.parts _ (List.mem_cons_of_mem _ List.mem_cons_self)
      have left := ih _ (by simp only [Expr.binary.sizeOf_spec]; omega) l leftPart rfl
      have right := ih _ (by simp only [Expr.binary.sizeOf_spec]; omega) r rightPart rfl
      split
      · split
        · split
          · exact EnumValue.plain_number _
          · exact same
        · split
          · exact EnumValue.plain_text _
          · exact EnumValue.plain_of_computed (.of_binary (left.exprOr leftPart) (right.exprOr rightPart))
      · exact same
    case h_7 s id key =>
      split
      · split
        · exact EnumValue.plain_number _
        · exact EnumValue.plain_text _
        · exact same
      · exact same
    case h_8 s q qs es =>
      split
      · exact EnumValue.plain_text _
      · exact same
    case h_9 => exact same

/-- Spelling out names of members brings no assignment in. -/
theorem keeps_qualifying (t : EnumTable) (owner : Ident) {w : Walker Id} (keeps : Walker.Keeps Node.Plain w) :
    Walker.Keeps Node.Plain (qualifying t owner w) := by
  have through := keeps.through
  refine { through with expr := fun e plain => ?_ }
  unfold qualifying
  dsimp only
  split
  · split
    · exact .of_dot
    · exact plain
  · exact through.expr _ plain

theorem plain_valueOf (t : EnumTable) (owner : Ident) (depth : Nat) {init : Option Expr} {default : EnumValue}
    (written : ∀ e ∈ init, (Node.expr e).Plain) (plain : default.Plain) :
    (t.valueOf owner depth init default).Plain := by
  unfold valueOf
  split
  · exact plain
  · rename_i e
    have value := plain_evaluate t owner e (written e rfl)
    split
    · rename_i found
      exact EnumValue.plain_of_computed ((Walker.Keeps.fix (keeps_qualifying t owner) depth).expr _ (value _ found))
    · exact value

/-- A table all of whose values are without such statements. -/
def Plain (t : EnumTable) : Prop := ∀ (member : EnumMember) (v : EnumValue), t[member]? = some v → v.Plain

theorem plain_empty : Plain ({} : EnumTable) := by
  intro member v found
  rw [Std.HashMap.getElem?_empty] at found
  cases found

theorem Plain.insert {t : EnumTable} (plain : t.Plain) (member : EnumMember) {v : EnumValue} (value : v.Plain) :
    Plain (Std.HashMap.insert t member v) := by
  intro other v' found
  rw [Std.HashMap.getElem?_insert] at found
  split at found
  · obtain rfl := Option.some.inj found
    exact value
  · exact plain other v' found

theorem Plain.value {t : EnumTable} (plain : t.Plain) (owner : Ident) (key : Expr) : (t.value owner key).Plain := by
  unfold EnumTable.value
  rw [Std.HashMap.getD_eq_getD_getElem?]
  cases found : t[(⟨owner.binding, nameOf key⟩ : EnumMember)]? with
  | none => nofun
  | some v => exact plain _ v found

theorem plain_addMembers (owner : Ident) (depth : Nat) {ms : List Stmt} (written : ∀ s ∈ ms, (Node.stmt s).Plain)
    {t : EnumTable} (plain : t.Plain) {default : EnumValue} (start : default.Plain) :
    (addMembers owner depth t ms default).Plain := by
  fun_induction addMembers owner depth t ms default with
  | case1 t default span key init ms value ih =>
    have init := List.forall_mem_map.mp (written _ List.mem_cons_self).parts
    have new : value.Plain := plain_valueOf t owner depth (fun e member => init e (Option.mem_toList.mpr member)) start
    exact ih (fun s member => written s (List.mem_cons_of_mem _ member)) (plain.insert _ new) (EnumValue.plain_next _)
  | case2 t default s ms other ih => exact ih (fun s member => written s (List.mem_cons_of_mem _ member)) plain start
  | case3 => exact plain

/-- A walk over a tree without assignments adds only values without them. -/
theorem keeps_collector {depth : Nat} {w w' : Walker (StateM EnumTable)}
    (kept : Walker.Related (.keeping Plain) Node.Plain w w') :
    Walker.Related (.keeping Plain) Node.Plain (collector depth w) (collector depth w') := by
  have through := kept.through fun _ => Node.Lacks.parts
  refine { through with stmt := fun s plain => ?_ }
  unfold collector
  dsimp only
  cases s
  case enumDecl s isAmbient isConst id ms =>
    have members := List.forall_mem_map.mp plain.parts
    intro t before
    have walked := kept.onStmt (s := .enumDecl s isAmbient isConst id ms) plain.parts t before
    exact plain_addMembers id depth members walked (EnumValue.plain_number _)
  all_goals exact kept.onStmt plain.parts

/-- **The enumerations of a program without assignments have none in their values.** -/
theorem plain_ofProgram {body : List Stmt} (plain : ∀ s ∈ body, (Node.stmt s).Plain) (depth : Nat) :
    (ofProgram body depth).Plain :=
  ((Walker.Related.fix keeps_collector depth).onStmts plain) {} plain_empty

end EnumTable

/-! ### Lowering -/

namespace Lowering

variable {env : Lowering} {a : AssignmentForm} {w w' : Walker Lower}

/-- The same lowering with assignments in another form. -/
def inForm (env : Lowering) (a : AssignmentForm) : Lowering := { env with assignments := a }

theorem expr_congr (related : Walker.Related (.same Lower) Node.Plain w w') {e : Expr} (plain : (Node.expr e).Plain) :
    env.expr w e = (env.inForm a).expr w' e := by
  unfold expr
  refine (Stepwise.same Lower).bind rfl fun st => ?_
  dsimp only [inForm]
  split
  · rfl
  · split
    · rfl
    · rfl
    · rename_i s op before t obj key _
      have access := (plain.parts _ List.mem_cons_self).parts
      rw [related.expr obj (access _ List.mem_cons_self)]
      rw [related.expr key (access _ (List.mem_cons_of_mem _ List.mem_cons_self))]
      rfl
    · exact related.onExpr plain.parts

theorem pat_congr (related : Walker.Related (.same Lower) Node.Plain w w') {p : Pat} (plain : (Node.pat p).Plain) :
    env.pat w p = (env.inForm a).pat w' p := by
  unfold pat
  split
  · rfl
  · rename_i s id d
    have default := List.forall_mem_map.mp plain.parts
    rw [related.optExpr fun e member => default e (Option.mem_toList.mpr member)]
    rfl
  · rename_i s obj key
    have access := (plain.parts _ List.mem_cons_self).parts
    rw [related.expr obj (access _ List.mem_cons_self)]
    rw [related.expr key (access _ (List.mem_cons_of_mem _ List.mem_cons_self))]
  · exact related.onPat plain.parts

theorem enumMember_congr (related : Walker.Related (.same Lower) Node.Plain w w') (table : env.enums.Plain) (id : Ident)
    (s : Stmt) : env.enumMember w id s = (env.inForm a).enumMember w' id s := by
  unfold enumMember
  split
  · rename_i span key init
    dsimp only [inForm]
    split
    · rename_i e found
      rw [related.expr e (table.value id key e found)]
    · rfl
  · rfl

theorem enumFunction_congr (related : Walker.Related (.same Lower) Node.Plain w w') (table : env.enums.Plain)
    (id : Ident) (members : List Stmt) (returns : Bool) :
    env.enumFunction w id members returns = (env.inForm a).enumFunction w' id members returns := by
  unfold enumFunction
  rw [funext (enumMember_congr related table id)]

theorem enumStmt_congr (related : Walker.Related (.same Lower) Node.Plain w w') (table : env.enums.Plain) (span : Span)
    (isConst isExport : Bool) (id : Ident) (home : Option Ident) (members : List Stmt) :
    env.enumStmt w span isConst isExport id home members =
      (env.inForm a).enumStmt w' span isConst isExport id home members := by
  unfold enumStmt
  simp only [enumFunction_congr (a := a) related table]
  rfl


theorem plain_entity (names : List Ident) : (Node.expr (entity names)).Plain := by
  unfold entity
  split
  · exact .of_unary (.of_leaf rfl)
  · rename_i root rest
    have extended : ∀ e, (Node.expr e).Plain → (Node.expr (rest.foldl
        (fun e id => .member ⟨e.span.lo, id.span.hi⟩ e (.keyName id)) e)).Plain := by
      induction rest with
      | nil => exact fun _ plain => plain
      | cons id rest ih => exact fun e plain => ih _ (.of_member plain)
    exact extended _ (.of_leaf rfl)

theorem namespaceBody_congr (related : Walker.Related (.same Lower) Node.Plain w w') (id : Ident) {body : Option Stmt}
    (plain : ∀ s ∈ body, (Node.stmt s).Plain) : item.namespaceBody w id body = item.namespaceBody w' id body := by
  unfold item.namespaceBody
  split
  · rename_i span items
    rw [related.stmt _ (plain _ rfl)]
  · rename_i s isAmbient isGlobal name body
    -- A dotted name is lowered as the block that it stands for.
    have wrapped :
        (Node.stmt (.namespaceBlock {} [.exportDecl s (.namespaceDecl s isAmbient isGlobal name body)])).Plain :=
      .intro rfl (List.forall_mem_singleton.mpr (.intro rfl (List.forall_mem_singleton.mpr (plain _ rfl))))
    rw [related.stmt _ wrapped]
  · rfl

theorem item_congr (related : Walker.Related (.same Lower) Node.Plain w w') (table : env.enums.Plain)
    (home : Option Ident) {s : Stmt} (plain : (Node.stmt s).Plain) :
    env.item w home s = (env.inForm a).item w' home s := by
  unfold item
  cases s
  case enumDecl s isAmbient isConst id ms =>
    dsimp only
    rw [enumStmt_congr (a := a) related table]
  case namespaceDecl s isAmbient isGlobal name body =>
    have inside := List.forall_mem_map.mp plain.parts
    cases name with
    | ident id =>
      dsimp only
      rw [namespaceBody_congr related id fun s member => inside s (Option.mem_toList.mpr member)]
    | str v =>
      dsimp only
      rw [related.stmt _ plain]
  case exportDecl s d =>
    have declared : (Node.stmt d).Plain := plain.parts _ List.mem_cons_self
    dsimp only
    split
    · rw [enumStmt_congr (a := a) related table]
    · rw [enumStmt_congr (a := a) related table]
    · rename_i t isAmbient isGlobal id body
      have inside := List.forall_mem_map.mp declared.parts
      rw [namespaceBody_congr related id fun s member => inside s (Option.mem_toList.mpr member)]
    · rename_i t isAmbient isGlobal id body
      have inside := List.forall_mem_map.mp declared.parts
      rw [namespaceBody_congr related id fun s member => inside s (Option.mem_toList.mpr member)]
    · rename_i t kind isAmbient ds
      have values : ds.mapM w.onDeclarator = ds.mapM w'.onDeclarator := related.declarators declared.parts
      rw [values]
    · rw [related.stmt _ declared]
    · rw [related.stmt _ declared]
    · rw [related.stmt _ declared]
  case importEquals s isExport typeOnly id target =>
    cases target with
    | external t source => exact nomatch plain.other
    | entity names =>
      dsimp only
      rw [related.expr _ (plain_entity names)]
  case exportAssign s e => exact nomatch plain.other
  all_goals
    dsimp only
    rw [related.stmt _ plain]

theorem level_congr (related : Walker.Related (.same Lower) Node.Plain w w') (table : env.enums.Plain)
    (home : Option Ident) {ss : List Stmt} (plain : ∀ s ∈ ss, (Node.stmt s).Plain) :
    ss.mapM (env.item w home) = ss.mapM ((env.inForm a).item w' home) :=
  (Stepwise.same Lower).mapM fun s member => item_congr related table home (plain s member)

theorem items_congr (related : Walker.Related (.same Lower) Node.Plain w w') (table : env.enums.Plain)
    {ss : List Stmt} (plain : ∀ s ∈ ss, (Node.stmt s).Plain) : env.items w ss = (env.inForm a).items w' ss := by
  unfold items
  rw [level_congr (a := a) related table none plain]

theorem stmt_congr (related : Walker.Related (.same Lower) Node.Plain w w') (table : env.enums.Plain) {s : Stmt}
    (plain : (Node.stmt s).Plain) : env.stmt w s = (env.inForm a).stmt w' s := by
  unfold stmt
  cases s
  case namespaceBlock span body =>
    have inside := List.forall_mem_map.mp plain.parts
    dsimp only
    refine (Stepwise.same Lower).bind rfl fun st => (Stepwise.same Lower).bind rfl fun _ => ?_
    rw [level_congr (a := a) related table st.home inside]
    rfl
  case enumDecl s isAmbient isConst id ms =>
    dsimp only
    rw [item_congr (a := a) related table none plain]
  all_goals exact related.onStmt plain.parts

/-- **The form of assignments has no part in what is done to a tree without them.** -/
theorem walker_congr (env : Lowering) (table : env.enums.Plain) (a : AssignmentForm) (depth : Nat) :
    Walker.Related (.same Lower) Node.Plain (Walker.fix env.walker depth)
      (Walker.fix (env.inForm a).walker depth) := by
  refine Walker.Related.fix (fun {w w'} related => ?_) depth
  exact {
    expr := fun _ plain => expr_congr related plain
    pat := fun _ plain => pat_congr related plain
    stmt := fun _ plain => stmt_congr related table plain
    stmts := fun _ plain => items_congr related table plain
    func := fun _ plain => related.onFunc plain.parts
    cls := fun _ plain => related.onClass plain.parts }

end Lowering

/-- **The form of assignments has no part in lowering a program without them.** -/
theorem lowerNamespaces_congr {p : Program} (plain : ∀ s ∈ p.body, (Node.stmt s).Plain) (a b : AssignmentForm)
    (depth : Nat) : p.lowerNamespaces a depth = p.lowerNamespaces b depth := by
  unfold Program.lowerNamespaces
  dsimp only
  have table := EnumTable.plain_ofProgram plain depth
  rw [Lowering.items_congr (a := b) (Lowering.walker_congr _ table b depth) table plain]
  rfl

end Detype
