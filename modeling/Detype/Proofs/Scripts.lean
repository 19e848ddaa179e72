import Detype.Proofs.Influence
import Detype.Proofs.Erase.Assignments
import Detype.Proofs.Printer.Plain

/-
**Scripts under several module kinds.**

A text without imports and exports is a script, and its tree is not linked. Still two passes look at the module kind:
lowering, at an `import x = require("m")` or `export = e` inside a namespace, and the form for a loader that links,
which spells some expressions differently in a script too.

* `Node.asksLoader` — those expressions.
* `systemScript_run` — that form changes nothing in a script without them.
* `Compilation.untyped`, `Compilation.unlinked` — the trees that the two passes get.
* `compile_script` — two kinds on one script: the same diagnostics, and what is enough for the same code.
-/

namespace Detype

/-! ### The form for a loader -/

/-- Expressions that the form for a loader spells differently in a script too: loads, `import.meta`, the name of the
module, and properties in short form. -/
def Node.asksLoader : Node → Bool
  | .expr (.importRef ..) | .expr (.metaProp _ .importMeta) | .expr (.propShorthand _) => true
  | .expr (.ident id) => id.name == "__moduleName" && id.mark == globalMark
  | _ => false

/-- No such expression in the tree under a node. -/
abbrev Node.Unasking : Node → Prop := Node.Lacks Node.asksLoader

namespace SystemEnv

variable {env : SystemEnv}

theorem namesOf_still (nothing : env.names = {}) (id : Ident) : env.namesOf id = [] := by
  unfold namesOf
  rw [nothing, Std.HashMap.getD_empty]

theorem mention_still {id : Ident} (unasking : (Node.expr (.ident id)).Unasking) : env.mention id = .ident id := by
  have other : (id.name == "__moduleName" && id.mark == globalMark) = false := unasking.other
  unfold mention
  rw [if_neg (Bool.eq_false_iff.mp other)]

theorem assignment_still (nothing : env.names = {}) (s : Span) (op : AssignOp) (target : Pat) (value : Expr) :
    env.assignment s op target value = .assign s op target value := by
  have names := funext (namesOf_still nothing)
  unfold assignment
  rw [names]
  split
  · rfl
  · simp
  · simp
  · rfl

theorem step_still (nothing : env.names = {}) (s : Span) (op : UpdateOp) (before : Bool) (arg : Expr) :
    env.step s op before arg = .update s op before arg := by
  unfold step
  split
  · rw [namesOf_still nothing]
  · rfl

/-- One step of the form, over steps that change nothing. -/
theorem expr_still (nothing : env.names = {}) {w : Walker Id}
    (still : Walker.Related (.same Id) Node.Unasking w Walker.still) {e : Expr} (unasking : (Node.expr e).Unasking) :
    env.expr w e = e := by
  have other := unasking.other
  have parts : w.onExpr e = e := (still.onExpr unasking.parts).trans (Walker.onExpr_still e)
  unfold expr
  rw [parts]
  split
  · exact mention_still unasking
  · cases other
  · exact assignment_still nothing ..
  · exact step_still nothing ..
  · exact nomatch (unasking.parts _ List.mem_cons_self).other
  · cases other
  · rfl

/-- **Where nothing is exported, the form changes nothing in a tree without the expressions that it spells
differently.** -/
theorem announcing_still (nothing : env.names = {}) (depth : Nat) :
    Walker.Related (.same Id) Node.Unasking (env.announcing depth) Walker.still := by
  induction depth with
  | zero => exact Walker.Related.still _ _
  | succ depth ih =>
    have through := ih.through fun _ => Node.Lacks.parts
    rw [Walker.through_still] at through
    exact { through with expr := fun e unasking => expr_still nothing ih unasking }

end SystemEnv

/-- **The form for a loader changes nothing in a script without those expressions.** -/
theorem systemScript_run {body : List Stmt} (unasking : ∀ s ∈ body, (Node.stmt s).Unasking) (depth next : Nat) :
    ((systemScript depth body).run next).1 = body := by
  have each : ∀ env : SystemEnv, env.names = {} → body.map (env.announcing depth).stmt = body := by
    intro env nothing
    have same := List.map_congr_left fun s member =>
      (SystemEnv.announcing_still nothing depth).stmt s (unasking s member)
    exact same.trans (List.map_id body)
  exact each ⟨⟨"_export", {}, next⟩, ⟨"_context", {}, next + 1⟩, {}⟩ rfl

/-! ### Scripts -/

namespace Compilation

/-- The tree that lowering gets, with its decorators applied and without its types; also the first free mark and the
added functions. -/
def untyped (p : Program) (options : Options) (depth : Nat) : Program × Nat × List PreludeFunction :=
  let (p, next) := p.resolve depth
  let (p, next, needs) :=
    if options.experimentalDecorators then p.attachDecorators next depth else p.applyDecorators next depth
  ((p.eraseImports depth).eraseTypes depth, next, needs)

/-- The tree of a script before it is linked, and the first free mark. -/
def unlinked (p : Program) (options : Options) (depth : Nat) : Program × Nat :=
  let (p, next, needs) := untyped p options depth
  let p := (p.lowerNamespaces (assignmentForm options.module) depth).lowerFields depth
  let (body, next) := (withPrelude p.body needs).run next
  ({ p with body }, next)

/-- The tree of a script that is linked, before its variables are spelled out. -/
def linkedScript (p : Program) (options : Options) (depth : Nat) : Program :=
  let (q, next) := unlinked p options depth
  { q with body := ((link false q.body options depth).run next).1 }

theorem keepModule_script {before : Program} (script : before.isModule = false) (after : Program) :
    keepModule before after = after := by
  unfold keepModule
  rw [script]
  rfl

theorem transform_script {p : Program} (script : p.isModule = false) (options : Options) (depth : Nat) :
    transform p options depth = (linkedScript p options depth).respell depth := by
  -- No pass makes a module of a script; each result gets a name before the next pass, so that no pass is unfolded.
  have resolved : (p.resolve depth).1.isModule = false := script
  unfold transform linkedScript unlinked untyped
  generalize p.resolve depth = r at resolved ⊢
  obtain ⟨p, next⟩ := r
  have decorated : (if options.experimentalDecorators then p.attachDecorators next depth
      else p.applyDecorators next depth).1.isModule = false := by
    split
    · exact resolved
    · exact resolved
  dsimp only
  generalize (if options.experimentalDecorators then p.attachDecorators next depth
      else p.applyDecorators next depth) = d at decorated ⊢
  obtain ⟨p, next, needs⟩ := d
  unfold erase
  dsimp only at decorated ⊢
  rw [keepModule_script decorated]
  have lowered : (((((p.eraseImports depth).eraseTypes depth).lowerNamespaces (assignmentForm options.module)
      depth).lowerFields depth)).isModule = false := decorated
  generalize (((p.eraseImports depth).eraseTypes depth).lowerNamespaces (assignmentForm options.module)
      depth).lowerFields depth = q at lowered ⊢
  rw [lowered, if_neg Bool.false_ne_true, pure_bind, List.append_nil, StateT.run_bind]
  rfl

/-- A script is linked only for a loader, and only where it has expressions that are spelled differently there. -/
theorem link_script {body : List Stmt} {options : Options}
    (form : options.module ≠ .system ∨ ∀ s ∈ body, (Node.stmt s).Unasking) (depth next : Nat) :
    ((link false body options depth).run next).1 = body := by
  unfold link
  cases kind : options.module with
  | system =>
    rcases form with other | unasking
    · exact absurd kind other
    · exact systemScript_run unasking depth next
  | esModule | commonJs | amd | umd => rfl

end Compilation

/-- Options that differ, for one script, only where it does not matter for its code. -/
structure Options.AgreeOnScript (o o' : Options) (p : Program) (depth : Nat) : Prop where
  decorators : o'.experimentalDecorators = o.experimentalDecorators
  assignments : Compilation.assignmentForm o'.module = Compilation.assignmentForm o.module ∨
    ∀ s ∈ (Compilation.untyped p o depth).1.body, (Node.stmt s).Plain
  loader : (o'.module = .system ↔ o.module = .system) ∨
    ∀ s ∈ (Compilation.unlinked p o depth).1.body, (Node.stmt s).Unasking

section Script

variable {o o' : Options} {p : Program} {depth : Nat}

theorem untyped_congr (decorators : o'.experimentalDecorators = o.experimentalDecorators) :
    Compilation.untyped p o' depth = Compilation.untyped p o depth := by
  unfold Compilation.untyped
  rw [decorators]

theorem unlinked_congr (agree : o.AgreeOnScript o' p depth) :
    Compilation.unlinked p o' depth = Compilation.unlinked p o depth := by
  unfold Compilation.unlinked
  rw [untyped_congr agree.decorators]
  rcases agree.assignments with same | plain
  · rw [same]
  · dsimp only
    rw [lowerNamespaces_congr plain (Compilation.assignmentForm o'.module) (Compilation.assignmentForm o.module)]

/-- **Such options give one tree for a script.** -/
theorem transform_script_congr (agree : o.AgreeOnScript o' p depth) (script : p.isModule = false) :
    Compilation.transform p o' depth = Compilation.transform p o depth := by
  rw [Compilation.transform_script script, Compilation.transform_script script]
  unfold Compilation.linkedScript
  rw [unlinked_congr agree]
  generalize unlinked : Compilation.unlinked p o depth = q
  have unasking := agree.loader
  rw [unlinked] at unasking
  -- The form for a loader is asked for by both or by none, or else it changes nothing.
  have linked : ((Compilation.link false q.1.body o' depth).run q.2).1 =
      ((Compilation.link false q.1.body o depth).run q.2).1 := by
    rcases unasking with both | unasking
    · by_cases system : o.module = .system
      · unfold Compilation.link
        rw [system, both.mpr system]
      · rw [Compilation.link_script (.inl system), Compilation.link_script (.inl (mt both.mp system))]
    · rw [Compilation.link_script (.inr unasking), Compilation.link_script (.inr unasking)]
  dsimp only
  rw [linked]

end Script

/-- The code and the diagnostics of a text that could be parsed. -/
theorem compile_parsed {o : Options} {text : String} {parsed : Parsed}
    (read : (Source.ofString (withoutMark text)).parse o.jsx = .ok parsed) :
    ∃ output, compile text o = .ok output ∧
      output.code =
        (write (Compilation.transform parsed.program o (Parser.depthFor (Source.ofString (withoutMark text))))
          (.ofLists parsed.leading parsed.trailing) (Source.ofString (withoutMark text)) false
          (Parser.depthFor (Source.ofString (withoutMark text)))).1 ∧
      output.diagnostics = diagnose text parsed o.module := by
  unfold compile
  rw [read]
  exact ⟨_, rfl, write_code .., rfl⟩

/-- **A script is compiled with the same diagnostics under every module kind, and to the same code** as far as neither
of two things tells the kinds apart: an import or export assignment, where the two handle those in different forms; and
an expression that the form for a loader spells differently, where one of the two is that form. The name of the file,
the bridging of imports and the source map have no part in it. -/
theorem compile_script {o o' : Options} {text : String} {parsed : Parsed}
    (read : (Source.ofString (withoutMark text)).parse o.jsx = .ok parsed) (script : parsed.program.isModule = false)
    (jsx : o'.jsx = o.jsx) :
    ∃ output output', compile text o = .ok output ∧ compile text o' = .ok output' ∧
      output'.diagnostics = output.diagnostics ∧
      (o.AgreeOnScript o' parsed.program (Parser.depthFor (Source.ofString (withoutMark text))) →
        output'.code = output.code) := by
  have read' : (Source.ofString (withoutMark text)).parse o'.jsx = .ok parsed := by rw [jsx, read]
  obtain ⟨output, done, code, found⟩ := compile_parsed read
  obtain ⟨output', done', code', found'⟩ := compile_parsed read'
  refine ⟨output, output', done, done', ?_, fun agree => ?_⟩
  · rw [found, found']
    unfold diagnose rawDiagnostics
    rw [script]
    rfl
  · rw [code, code', transform_script_congr agree script]

/-- Whether a statement is `debugger`, of which no pass makes anything else. -/
def Stmt.isDebugger : Stmt → Bool
  | .debugger _ => true
  | _ => false

theorem lacks_of_isDebugger {sort : Node → Bool} (other : ∀ span, sort (.stmt (.debugger span)) = false)
    {body : List Stmt} (all : body.all Stmt.isDebugger = true) : ∀ s ∈ body, (Node.stmt s).Lacks sort := by
  intro s member
  have here := List.all_eq_true.mp all s member
  cases s
  case debugger span => exact .intro (other span) (List.forall_mem_nil _)
  all_goals cases here

/-- A script under two kinds that handle assignments in different forms, one of them the form for a loader. -/
theorem debuggerScript_code :
    ∃ output output', compile "debugger;" { module := .commonJs } = .ok output ∧
      compile "debugger;" { module := .system, fileName := some "a.ts", sourceMap := true, importInterop := .node } =
        .ok output' ∧
      output'.diagnostics = output.diagnostics ∧ output'.code = output.code := by
  have run : (((Source.ofString (withoutMark "debugger;")).parse false).toOption.any fun parsed =>
      !parsed.program.isModule &&
      (Compilation.untyped parsed.program { module := .commonJs }
        (Parser.depthFor (Source.ofString (withoutMark "debugger;")))).1.body.all Stmt.isDebugger &&
      (Compilation.unlinked parsed.program { module := .commonJs }
        (Parser.depthFor (Source.ofString (withoutMark "debugger;")))).1.body.all Stmt.isDebugger) = true := by
    decide +kernel
  obtain ⟨parsed, read, all⟩ := exists_of_any run
  rw [Bool.and_eq_true, Bool.and_eq_true, Bool.not_eq_true'] at all
  obtain ⟨⟨script, untyped⟩, unlinked⟩ := all
  have plain := @lacks_of_isDebugger Node.isAssignment (fun _ => rfl) _ untyped
  have unasking := @lacks_of_isDebugger Node.asksLoader (fun _ => rfl) _ unlinked
  have agree : Options.AgreeOnScript { module := .commonJs }
      { module := .system, fileName := some "a.ts", sourceMap := true, importInterop := .node } parsed.program
      (Parser.depthFor (Source.ofString (withoutMark "debugger;"))) := ⟨rfl, .inr plain, .inr unasking⟩
  obtain ⟨output, output', done, done', diagnostics, code⟩ := @compile_script { module := .commonJs }
    { module := .system, fileName := some "a.ts", sourceMap := true, importInterop := .node } "debugger;" parsed read
    script rfl
  exact ⟨output, output', done, done', diagnostics, code agree⟩

/-- Whether a region declares nothing and has no regions inside. -/
def Region.isBare : Region → Bool
  | .node [] _ [] => true
  | _ => false

/-- Where nothing is declared every name keeps its spelling. -/
theorem respell_bare {p : Program} {depth : Nat} (bare : (p.survey depth).1.isBare = true) :
    p.respell depth = { p with body := Stmt.renameAll (fun _ => none) depth p.body } := by
  unfold Program.respell
  generalize p.survey depth = surveyed at bare ⊢
  obtain ⟨region, free⟩ := surveyed
  dsimp only at bare ⊢
  unfold Region.isBare at bare
  split at bare
  · next occurring =>
    have spelled : Region.spellings free (.node [] occurring []) {} {} = {} := rfl
    rw [spelled]
    simp only [Std.HashMap.getElem?_empty, Option.map_none]
  · cases bare

/-- The form for a loader spells the load of this script in terms of a variable that only the function around a module
has. -/
theorem importScript_code_ne :
    ∃ parsed output output', (Source.ofString (withoutMark "import('m');")).parse false = .ok parsed ∧
      parsed.program.isModule = false ∧ compile "import('m');" { module := .commonJs } = .ok output ∧
      compile "import('m');" { module := .system } = .ok output' ∧ output.code = "import('m');\n" ∧
      output'.code = "_context.import('m');\n" := by
  let depth := Parser.depthFor (Source.ofString (withoutMark "import('m');"))
  have run : (((Source.ofString (withoutMark "import('m');")).parse false).toOption.any fun parsed =>
      let linked := Compilation.linkedScript parsed.program { module := .system } depth
      !parsed.program.isModule && parsed.leading.isEmpty && parsed.trailing.isEmpty &&
      (Compilation.transform parsed.program { module := .commonJs } depth).code? depth == some "import('m');\n" &&
      (linked.survey depth).1.isBare &&
      { linked with body := Stmt.renameAll (fun _ => none) depth linked.body }.code? depth ==
        some "_context.import('m');\n") = true := by
    decide +kernel
  obtain ⟨parsed, read, all⟩ := exists_of_any run
  simp only [Bool.and_eq_true, Bool.not_eq_true', List.isEmpty_iff, beq_iff_eq] at all
  obtain ⟨⟨⟨⟨⟨script, leading⟩, trailing⟩, asWritten⟩, bare⟩, respelled⟩ := all
  rw [← respell_bare bare, ← Compilation.transform_script script] at respelled
  obtain ⟨output, done, code⟩ := @compile_plain _ _ { module := .commonJs } _ read leading trailing asWritten
  obtain ⟨output', done', code'⟩ := @compile_plain _ _ { module := .system } _ read leading trailing respelled
  exact ⟨parsed, output, output', read, script, done, done', code, code'⟩

end Detype
