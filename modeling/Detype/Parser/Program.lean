import Detype.Parser.Modules
import Detype.Parser.Jsx

/-
**Whole programs.**

The rules of the grammar call each other through a `Grammar`; here the record is filled with the rules
themselves, each level of nesting using up one unit of fuel.

* `Parser.grammar` — the rules, tied together.
* `Source.parse` — the tree of a source text with its comments and the faults that were passed over.
-/

namespace Detype

namespace Parser

/-- The grammar for a bounded depth of nesting. -/
def grammar : Nat → Grammar
  | 0 =>
    let stop {α : Type} : Parser α := failAt .expressionExpected {}
    { expr := stop, assign := stop, unary := stop, binary := stop, binaryRest := fun _ _ => stop
      bindingPat := fun _ => stop, asPattern := fun _ _ => stop, params := stop, stmt := stop
      stmtListItem := stop, moduleItem := stop, functionRest := fun _ _ _ _ => stop, type := stop
      plainType := stop, jsx := fun _ => stop }
  | depth + 1 =>
    { expr := fun e s => exprRule (grammar depth) e s
      assign := fun e s => assignRule (grammar depth) e s
      unary := fun e s =>
        let g := grammar depth
        unaryRule g (classExprRule g (2 * e.source.size + 16)) e s
      binary := fun e s => binaryRule (grammar depth) e s
      binaryRest := fun left min e s => binaryRestRule (grammar depth) left min e s
      bindingPat := fun disallowLet e s => bindingPatRule (grammar depth) disallowLet e s
      asPattern := fun use expr e s => asPatternRule (grammar depth) use expr e s
      params := fun e s =>
        let g := grammar depth
        paramList (decorators g (subscripts g false true)) (formalParam g) e s
      stmt := fun e s => stmtRule (grammar depth) false e s
      stmtListItem := fun e s => stmtRule (grammar depth) true e s
      moduleItem := fun e s => moduleItemRule (grammar depth) e s
      functionRest := fun start isAsync isGenerator params e s =>
        functionRestRule (grammar depth) start isAsync isGenerator params e s
      type := fun e s => typeRule (grammar depth) e s
      plainType := fun e s => Parser.plainType (grammar depth) e s
      jsx := fun after e s => jsxRule (grammar depth) after e s }

/-- A depth that no text of this length exceeds. -/
def depthFor (source : Source) : Nat := 64 * (source.size + 64)

/-- Whether an item makes its text a module. -/
def isModuleItem : Stmt → Bool
  | .importDecl .. | .exportDecl .. | .exportNamed .. | .exportAll .. | .exportDefaultClass ..
  | .exportDefaultFunc .. | .exportDefaultInterface .. | .exportDefaultExpr .. | .importEquals ..
  | .exportAssign .. | .exportAsNamespace .. => true
  | _ => false

/-- The items of a text. -/
def program (shebang : Option String) : Parser Program := do
  let lo ← if shebang.isSome then pure 1 else curLo
  let g := grammar (depthFor (← env).source)
  let body ← inContext ({ · with topLevel := true }) (blockBody g.moduleItem true false)
  let s ← get
  let isModule := s.foundModuleItem || body.any isModuleItem
  if isModule then modify fun s => { s with errors := s.errors ++ s.moduleErrors, moduleErrors := #[] }
  let last ← curSpan
  let stop := if s.marker.isSome then last.hi else s.prevSpan.hi
  let span : Span := if s.begun then ⟨lo, stop⟩ else ⟨1, 1⟩
  return { isModule, span, shebang, body }

end Parser

/-- A program with what its text said besides. -/
structure Parsed where
  program : Program
  /-- Faults that did not stop the parser. -/
  errors : List FaultAt
  /-- Comments by the start of the token they stand before. -/
  leading : List (Nat × Comment)
  /-- Comments by the end of the token they stand after. -/
  trailing : List (Nat × Comment)

namespace Source

/-- The text of an interpreter line, and where it ends. -/
def shebang (s : Source) : Option String × Nat :=
  if s.startsWith 0 ['#', '!'] then
    let stop := Lexer.skipWhile s (fun c => !Text.isLineBreak c) (s.size + 1) 2
    (some (s.slice 2 stop), stop)
  else (none, 0)

/-- The program that a text spells, or the fault that keeps it from being one. -/
def parse (source : Source) (jsx : Bool) : Except FaultAt Parsed :=
  let env : ParserEnv := { source, jsx }
  let (shebang, start) := source.shebang
  let blank : ParserState :=
    { token := .eof, start := 0, stop := 0, lineBreak := true, notes := [], prevSpan := ⟨1, source.position start⟩
      begun := shebang.isSome }
  let first := Parser.load env .code start .eof ⟨1, source.position start⟩ blank
  match Parser.program shebang env first with
  | .fail fault _ => .error fault
  | .done program s =>
    let s := Parser.tellNotes s
    .ok { program, errors := s.errors.toList, leading := s.leading.toList, trailing := s.trailing.toList }

end Source

end Detype
