import Detype.Compile

/-
**Noting places never changes the text.**

A writer may note where the columns of its text come from. No rule of the printer looks at what was noted, so the text
is the same with and without a record.

* `Writer.unrecorded` — a writer as it would be had nothing been noted.
* `Print.Oblivious` — an action that does the same on both, as a class: an action is oblivious if its parts are.
* `Printer.Oblivious` — a printer of such actions; every rule over it is oblivious, so `oblivious_ofDepth` holds by
  induction on the depth.
* `write_code` — the code of a tree does not depend on whether its places are asked for.
-/

namespace Detype

/-! ### The writer -/

namespace Writer

/-- A writer as it would be had nothing been noted. -/
def unrecorded (w : Writer) : Writer := { w with recording := false, mappings := #[] }

theorem mapTo_unrecorded (w : Writer) (position : Nat) : w.unrecorded.mapTo position = (w.mapTo position).unrecorded := by
  have nothing : w.unrecorded.mapTo position = w.unrecorded := rfl
  rw [nothing]
  unfold mapTo
  split
  · rfl
  · rfl

theorem beginLine_unrecorded (w : Writer) : w.unrecorded.beginLine = w.beginLine.unrecorded := by
  unfold beginLine
  have started : w.unrecorded.lineStart = w.lineStart := rfl
  have waiting : w.unrecorded.pending = w.pending := rfl
  rw [started]
  split
  · dsimp only
    rw [waiting]
    split
    · rw [← mapTo_unrecorded]
      rfl
    · rfl
  · rfl

theorem write_unrecorded (w : Writer) (text : String) : w.unrecorded.write text = (w.write text).unrecorded := by
  unfold write
  split
  · rfl
  · rw [beginLine_unrecorded]
    rfl

theorem newline_unrecorded (w : Writer) : w.unrecorded.newline = w.newline.unrecorded := by
  unfold newline
  have started : w.unrecorded.lineStart = w.lineStart := rfl
  rw [started]
  split
  · rfl
  · rfl

theorem mark_unrecorded (w : Writer) (position : Nat) : w.unrecorded.mark position = (w.mark position).unrecorded := by
  unfold mark
  have started : w.unrecorded.lineStart = w.lineStart := rfl
  rw [started]
  split
  · rfl
  · split
    · rfl
    · exact mapTo_unrecorded w position

end Writer

/-! ### Actions -/

namespace Print

/-- An action that does the same on a writer and on one that notes nothing. -/
class Oblivious {α : Type} (act : StateM Writer α) : Prop where
  run_unrecorded : ∀ w, act.run w.unrecorded = ((act.run w).1, (act.run w).2.unrecorded)

section Combinators

variable {α β : Type}

instance oblivious_pure (a : α) : Oblivious (pure a) := ⟨fun _ => rfl⟩

instance oblivious_bind (act : StateM Writer α) (next : α → StateM Writer β) [first : Oblivious act]
    [rest : ∀ a, Oblivious (next a)] : Oblivious (act >>= next) := by
  refine ⟨fun w => ?_⟩
  show (next (act.run w.unrecorded).1).run (act.run w.unrecorded).2 = _
  rw [first.run_unrecorded, (rest _).run_unrecorded]
  rfl

instance oblivious_ite (c : Prop) [Decidable c] (act other : StateM Writer α) [Oblivious act] [Oblivious other] :
    Oblivious (if c then act else other) := by
  split
  · infer_instance
  · infer_instance

theorem oblivious_modify {f : Writer → Writer} (commutes : ∀ w, f w.unrecorded = (f w).unrecorded) :
    Oblivious (modify f : Print) :=
  ⟨fun w => congrArg (Prod.mk ()) (commutes w)⟩

/-- An action that looks at the writer first. -/
theorem oblivious_get_bind {next : Writer → StateM Writer α}
    (same : ∀ w, (next w.unrecorded).run w.unrecorded = (((next w).run w).1, ((next w).run w).2.unrecorded)) :
    Oblivious (get >>= next) :=
  ⟨same⟩

instance oblivious_forM (xs : List α) (act : α → Print) [∀ a, Oblivious (act a)] : Oblivious (xs.forM act) := by
  induction xs with
  | nil => exact oblivious_pure _
  | cons x xs ih => exact oblivious_bind _ _

instance oblivious_forIn (xs : List α) (start : β) (act : α → β → StateM Writer (ForInStep β))
    [∀ a b, Oblivious (act a b)] : Oblivious (forIn xs start act) := by
  induction xs generalizing start with
  | nil => exact oblivious_pure _
  | cons x xs ih =>
    rw [List.forIn_cons]
    have rest : ∀ step : ForInStep β, Oblivious (match step with
        | .done b => pure b
        | .yield b => forIn xs b act) := by
      intro step
      cases step with
      | done b => exact oblivious_pure b
      | yield b => exact ih b
    exact oblivious_bind _ _

end Combinators

/-! ### Signs and comments -/

instance oblivious_text (s : String) : Oblivious (text s) := oblivious_modify (Writer.write_unrecorded · s)

instance oblivious_space : Oblivious space := oblivious_text " "

instance oblivious_newline : Oblivious newline := oblivious_modify Writer.newline_unrecorded

instance oblivious_mark (position : Nat) : Oblivious (mark position) :=
  oblivious_modify (Writer.mark_unrecorded · position)

instance oblivious_markLo (s : Span) : Oblivious (markLo s) := oblivious_mark _

instance oblivious_markHi (s : Span) : Oblivious (markHi s) := oblivious_mark _

instance oblivious_markClose (s : Span) : Oblivious (markClose s) := by
  unfold markClose
  infer_instance

instance oblivious_markedText (s : Span) (t : String) : Oblivious (markedText s t) :=
  oblivious_modify fun w => by
    rw [Writer.beginLine_unrecorded, Writer.mapTo_unrecorded, Writer.write_unrecorded, Writer.mapTo_unrecorded]

instance oblivious_markedLiteral (s : Span) (t : String) : Oblivious (markedLiteral s t) :=
  oblivious_modify fun w => by
    rw [Writer.mapTo_unrecorded, Writer.write_unrecorded, Writer.mapTo_unrecorded]

instance oblivious_indented (p : Print) [Oblivious p] : Oblivious (indented p) := by
  have deeper : Oblivious (modify fun w => { w with indent := w.indent + 1 } : Print) := oblivious_modify fun _ => rfl
  have back : Oblivious (modify fun w => { w with indent := w.indent - 1 } : Print) := oblivious_modify fun _ => rfl
  unfold indented
  infer_instance

instance oblivious_comment (c : Comment) : Oblivious (comment c) := by
  unfold comment
  infer_instance

instance oblivious_leadAt (position : Nat) : Oblivious (leadAt position) := by
  refine oblivious_get_bind fun w => ?_
  have waiting : w.unrecorded.leading = w.leading := rfl
  rw [waiting]
  cases w.leading[position]? with
  | none => rfl
  | some cs =>
    have rest : Oblivious (do for c in cs do comment c : Print) := inferInstance
    exact rest.run_unrecorded { w with leading := w.leading.erase position }

instance oblivious_lead (s : Span) : Oblivious (lead s) := by
  unfold lead
  infer_instance

instance oblivious_trailAt (position : Nat) : Oblivious (trailAt position) := by
  refine oblivious_get_bind fun w => ?_
  have waiting : w.unrecorded.trailing = w.trailing := rfl
  rw [waiting]
  cases w.trailing[position]? with
  | none => rfl
  | some cs =>
    have rest : Oblivious (do
      for c in cs do
        space
        comment c : Print) := inferInstance
    exact rest.run_unrecorded { w with trailing := w.trailing.erase position }

instance oblivious_trail (s : Span) : Oblivious (trail s) := by
  unfold trail
  infer_instance

instance oblivious_trailTight (s : Span) : Oblivious (trailTight s) := by
  refine oblivious_get_bind fun w => ?_
  have waiting : w.unrecorded.trailing = w.trailing := rfl
  rw [waiting]
  cases w.trailing[s.hi]? with
  | none => rfl
  | some cs =>
    have rest : Oblivious (do for c in cs do comment c : Print) := inferInstance
    exact rest.run_unrecorded { w with trailing := w.trailing.erase s.hi }

instance oblivious_waitsAtClose (s : Span) : Oblivious (waitsAtClose s) := oblivious_get_bind fun _ => rfl

instance oblivious_endsInComma (s : Span) : Oblivious (endsInComma s) := by
  unfold endsInComma
  have looks : Oblivious (do return (← get).commas.contains (s.hi - 2) : StateM Writer Bool) :=
    oblivious_get_bind fun _ => rfl
  infer_instance

-- The branches of a rule with optional parts are many, though each is short.
set_option synthInstance.maxSize 10000

/-! ### Lists -/

instance oblivious_separated {α : Type} (style : ListStyle) (xs : List α) (act : α → Print) [∀ a, Oblivious (act a)] :
    Oblivious (separated style (xs.map act)) := by
  induction xs with
  | nil => exact oblivious_pure _
  | cons x xs ih =>
    cases xs with
    | nil => exact inferInstanceAs (Oblivious (act x))
    | cons y xs =>
      simp only [List.map_cons] at ih ⊢
      unfold separated
      dsimp only
      infer_instance

instance oblivious_items {α : Type} (style : ListStyle) (parent : Span) (xs : List α) (act : α → Print)
    [∀ a, Oblivious (act a)] : Oblivious (items style parent (xs.map act)) := by
  have body := oblivious_separated style xs act
  cases xs with
  | nil => exact oblivious_pure _
  | cons x xs =>
    rw [List.map_cons] at body ⊢
    unfold items
    dsimp only
    infer_instance

end Print

/-! ### Rules -/

namespace Printer

open Print

instance oblivious_ident (id : Ident) : Oblivious (ident id) := by
  unfold ident
  infer_instance

instance oblivious_str (s : Str) : Oblivious (str s) := by
  unfold str
  infer_instance

instance oblivious_exportName (name : ExportName) : Oblivious (exportName name) := by
  cases name with
  | ident id => exact oblivious_ident id
  | str s => exact oblivious_str s

instance oblivious_node (s : Span) (p : Print) [Print.Oblivious p] : Print.Oblivious (node s p) := by
  unfold node
  infer_instance

/-- A printer of actions that do the same with and without a record. -/
class Oblivious (p : Printer) : Prop where
  expr : ∀ e, Print.Oblivious (p.expr e)
  pat : ∀ q, Print.Oblivious (p.pat q)
  stmt : ∀ s, Print.Oblivious (p.stmt s)

attribute [instance] Oblivious.expr Oblivious.pat Oblivious.stmt

section Rules

set_option synthInstance.maxSize 10000

variable (p : Printer) [p.Oblivious]

instance oblivious_block (b : Block) (marked : Bool) : Print.Oblivious (block p b marked) := by
  unfold block
  dsimp only
  infer_instance

instance oblivious_propertyName (e : Expr) : Print.Oblivious (propertyName p e) := by
  unfold propertyName
  split <;> infer_instance

instance oblivious_decoratorLines (decorators : List Expr) : Print.Oblivious (decoratorLines p decorators) := by
  unfold decoratorLines
  infer_instance

instance oblivious_param (q : Pat) : Print.Oblivious (param p q) := by
  unfold param
  split <;> infer_instance

instance oblivious_params (span : Span) (ps : List Pat) : Print.Oblivious (params p span ps) := by
  unfold params
  infer_instance

instance oblivious_functionTail (f : Func) (marked : Bool) : Print.Oblivious (functionTail p f marked) := by
  unfold functionTail
  cases f.body <;> infer_instance

instance oblivious_function (id : Option Ident) (f : Func) : Print.Oblivious (function p id f) := by
  unfold function
  cases id <;> dsimp only <;> infer_instance

instance oblivious_arrow (span : Span) (isAsync : Bool) (ps : List Pat) (body : ArrowBody) :
    Print.Oblivious (arrow p span isAsync ps body) := by
  unfold arrow
  cases body <;> dsimp only <;> infer_instance

instance oblivious_methodWords (kind : MethodKind) (f : Func) : Print.Oblivious (methodWords kind f) := by
  unfold methodWords
  cases kind <;> infer_instance

instance oblivious_method (m : Method) : Print.Oblivious (method p m) := by
  unfold method
  dsimp only
  infer_instance

instance oblivious_field (word : String) (f : Field) : Print.Oblivious (field p word f) := by
  unfold field
  cases f.value <;> dsimp only <;> infer_instance

instance oblivious_member (m : Member) : Print.Oblivious (member p m) := by
  unfold member
  split
  · split <;> infer_instance
  all_goals infer_instance

instance oblivious_classBody (id : Option Ident) (c : Class) : Print.Oblivious (classBody p id c) := by
  unfold classBody
  cases id <;> cases c.superClass <;> infer_instance

/-! ### JSX -/

instance oblivious_jsxName (n : JsxName) : Print.Oblivious (jsxName n) := by
  induction n with
  | ident id =>
    unfold jsxName
    infer_instance
  | member s obj prop ih =>
    unfold jsxName
    infer_instance
  | namespaced s ns name =>
    unfold jsxName
    infer_instance

instance oblivious_jsxAttrs (span : Span) (attrs : List Expr) : Print.Oblivious (jsxAttrs p span attrs) := by
  unfold jsxAttrs
  have each : ∀ e : Expr, Print.Oblivious (match e with
      | .spread dots e => do
        text "\x7b"
        lead dots
        text "..."
        p.expr e
        text "\x7d"
      | e => p.expr e) := fun e => by split <;> infer_instance
  infer_instance

instance oblivious_jsx (e : Expr) : Print.Oblivious (jsx p e) := by
  unfold jsx
  split
  · split <;> infer_instance
  all_goals try infer_instance
  · split <;> infer_instance

/-! ### Expressions -/

instance oblivious_unary (span : Span) (op : UnaryOp) (arg : Expr) : Print.Oblivious (unary p span op arg) := by
  unfold unary
  cases op <;> infer_instance

instance oblivious_binary (span : Span) (e : Expr) : Print.Oblivious (binary p span e) := by
  unfold binary
  dsimp only
  infer_instance

instance oblivious_leadBefore (s : Span) (distance : Nat) : Print.Oblivious (leadBefore s distance) := by
  unfold leadBefore
  infer_instance

instance oblivious_memberObject (obj key : Expr) : Print.Oblivious (memberObject p obj key) := by
  unfold memberObject
  split <;> infer_instance

instance oblivious_memberKey (key : Expr) : Print.Oblivious (memberKey p key) := by
  unfold memberKey
  split <;> infer_instance

instance oblivious_arguments (span : Span) (args : List Expr) : Print.Oblivious (arguments p span args) := by
  unfold arguments
  infer_instance

instance oblivious_optChain (optional : Bool) (base : Expr) : Print.Oblivious (optChain p optional base) := by
  unfold optChain
  split
  · split
    · infer_instance
    · split <;> infer_instance
  · infer_instance
  · infer_instance

instance oblivious_template_go (tagged : Bool) (qs : List Quasi) (es : List Expr) :
    Print.Oblivious (template.go p tagged qs es) := by
  induction qs generalizing es with
  | nil => exact Print.oblivious_pure _
  | cons q qs ih =>
    unfold template.go
    cases es <;> infer_instance

instance oblivious_template (tagged : Bool) (span : Span) (quasis : List Quasi) (exprs : List Expr) :
    Print.Oblivious (template p tagged span quasis exprs) := by
  unfold template
  infer_instance

instance oblivious_array (span : Span) (elems : List Expr) : Print.Oblivious (array p span elems) := by
  unfold array
  infer_instance

/-- Whether an operand needs brackets depends on the comments only. -/
instance oblivious_operand (e : Expr) : Print.Oblivious (operand p e) := by
  refine Print.oblivious_get_bind fun w => ?_
  have breaks : leadBreaks w.unrecorded e = leadBreaks w e := rfl
  rw [breaks]
  cases leadBreaks w e with
  | true =>
    have brackets : Print.Oblivious (do
      text "("
      p.expr e
      text ")" : Print) := inferInstance
    exact brackets.run_unrecorded w
  | false =>
    have plain : Print.Oblivious (do
      space
      p.expr e : Print) := inferInstance
    exact plain.run_unrecorded w

instance oblivious_part (e : Expr) : Print.Oblivious (part p e) := by
  unfold part
  split
  all_goals try infer_instance
  · split
    · split <;> infer_instance
    · split <;> infer_instance
    · infer_instance

instance oblivious_property (e : Expr) : Print.Oblivious (property p e) := by
  unfold property
  split <;> infer_instance

instance oblivious_exprBody (e : Expr) : Print.Oblivious (exprBody p e) := by
  unfold exprBody
  cases e
  case importRef span phase => cases phase <;> infer_instance
  case member span obj key =>
    dsimp only
    split <;> split <;> infer_instance
  case tagged span tag quasi =>
    dsimp only
    split <;> infer_instance
  case yield span delegate arg => cases arg <;> dsimp only <;> infer_instance
  all_goals infer_instance

instance oblivious_exprRule (e : Expr) : Print.Oblivious (exprRule p e) := by
  unfold exprRule
  infer_instance

/-! ### Patterns -/

instance oblivious_patBody (q : Pat) : Print.Oblivious (patBody p q) := by
  unfold patBody
  cases q
  case propShorthand span id default => cases default <;> infer_instance
  all_goals infer_instance

instance oblivious_patRule (q : Pat) : Print.Oblivious (patRule p q) := by
  unfold patRule
  cases q <;> infer_instance

/-! ### Statements -/

instance oblivious_declarator (d : Declarator) : Print.Oblivious (declarator p d) := by
  unfold declarator
  cases d.init <;> infer_instance

instance oblivious_declarators (span : Span) (words : String) (decls : List Declarator) :
    Print.Oblivious (declarators p span words decls) := by
  unfold declarators
  infer_instance

instance oblivious_loopHead (s : Stmt) : Print.Oblivious (loopHead p s) := by
  unfold loopHead
  split <;> infer_instance

instance oblivious_importSpecifier (spec : ImportSpecifier) : Print.Oblivious (importSpecifier spec) := by
  unfold importSpecifier
  cases spec
  case named span binding imported typeOnly => cases imported <;> dsimp only <;> infer_instance
  all_goals infer_instance

instance oblivious_exportSpecifier (spec : ExportSpecifier) : Print.Oblivious (exportSpecifier spec) := by
  unfold exportSpecifier
  cases spec
  case named span orig exported typeOnly => cases exported <;> dsimp only <;> infer_instance
  all_goals infer_instance

instance oblivious_braced {α : Type} (span : Span) (xs : List α) (act : α → Print) [∀ a, Print.Oblivious (act a)] :
    Print.Oblivious (braced span (xs.map act)) := by
  unfold braced
  dsimp only
  infer_instance

instance oblivious_attributes (e : Option Expr) : Print.Oblivious (attributes p e) := by
  unfold attributes
  cases e <;> infer_instance

instance oblivious_importDecl (span : Span) (specifiers : List ImportSpecifier) (source : Str) (attrs : Option Expr)
    (phase : ImportPhase) : Print.Oblivious (importDecl p span specifiers source attrs phase) := by
  unfold importDecl
  cases phase <;> dsimp only <;> infer_instance

instance oblivious_exportNamed (span : Span) (specifiers : List ExportSpecifier) (source : Option Str)
    (attrs : Option Expr) : Print.Oblivious (exportNamed p span specifiers source attrs) := by
  unfold exportNamed
  cases source <;> dsimp only <;> infer_instance

instance oblivious_declaration (s : Stmt) : Print.Oblivious (declaration p s) := by
  unfold declaration
  split <;> infer_instance

instance oblivious_switchCase (s : Stmt) : Print.Oblivious (switchCase p s) := by
  unfold switchCase
  cases s
  case switchCase span test body => cases test <;> dsimp only <;> infer_instance
  all_goals infer_instance

instance oblivious_catchClause (s : Stmt) : Print.Oblivious (catchClause p s) := by
  unfold catchClause
  cases s
  case catchClause span param body => cases param <;> dsimp only <;> infer_instance
  all_goals infer_instance

instance oblivious_stmtBody (s : Stmt) : Print.Oblivious (stmtBody p s) := by
  unfold stmtBody
  cases s
  case returnStmt span arg => cases arg <;> dsimp only <;> infer_instance
  case breakStmt span label => cases label <;> dsimp only <;> infer_instance
  case continueStmt span label => cases label <;> dsimp only <;> infer_instance
  case ifStmt span test whenTrue whenFalse => cases whenFalse <;> dsimp only <;> infer_instance
  case tryStmt span body handler finalizer => cases handler <;> cases finalizer <;> dsimp only <;> infer_instance
  case forLoop span init test update body =>
    cases init <;> cases test <;> cases update <;> dsimp only <;> infer_instance
  case exportDecl span d =>
    dsimp only
    split <;> infer_instance
  all_goals infer_instance

instance oblivious_stmtRule (s : Stmt) : Print.Oblivious (stmtRule p s) := by
  unfold stmtRule
  cases s <;> infer_instance

end Rules

/-! ### Programs -/

/-- **Every printer is oblivious**, by induction on the depth of nesting. -/
theorem oblivious_ofDepth (depth : Nat) : (ofDepth depth).Oblivious := by
  induction depth with
  | zero => exact ⟨fun _ => Print.oblivious_pure _, fun _ => Print.oblivious_pure _, fun _ => Print.oblivious_pure _⟩
  | succ depth ih =>
    exact ⟨fun e => oblivious_exprRule (ofDepth depth) e, fun q => oblivious_patRule (ofDepth depth) q,
      fun s => oblivious_stmtRule (ofDepth depth) s⟩

section Programs

variable (p : Printer) [p.Oblivious]

instance oblivious_moduleItem (s : Stmt) : Print.Oblivious (moduleItem p s) := by
  unfold moduleItem
  infer_instance

instance oblivious_program (prog : Program) : Print.Oblivious (program p prog) := by
  have items : Print.Oblivious (prog.body.forM (if prog.isModule then moduleItem p else p.stmt)) := by
    split <;> infer_instance
  unfold program
  cases prog.shebang <;> dsimp only <;> infer_instance

end Programs

end Printer

/-- **The code of a tree does not depend on whether its places are asked for.** -/
theorem write_code (p : Program) (comments : Comments) (source : Source) (recording : Bool) (depth : Nat) :
    (write p comments source recording depth).1 = (write p comments source false depth).1 := by
  cases recording with
  | false => rfl
  | true =>
    have printer := Printer.oblivious_ofDepth depth
    unfold write
    dsimp only
    generalize p.parenthesize comments depth = tree
    have same := (Printer.oblivious_program (Printer.ofDepth depth) tree.1).run_unrecorded
      { leading := tree.2.leading, trailing := tree.2.trailing, commas := commaPositions source }
    exact (congrArg (fun r => r.2.text) same).symm

end Detype
