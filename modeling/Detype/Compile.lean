import Detype.Options
import Detype.OutputName
import Detype.Error
import Detype.Diagnostic
import Detype.SourceMap
import Detype.Parser.Program
import Detype.Syntax.Await
import Detype.Scope.Resolve
import Detype.Scope.Rename
import Detype.Decorators.Standard
import Detype.Decorators.Experimental
import Detype.Erase.Imports
import Detype.Erase.Types
import Detype.Erase.Namespaces
import Detype.Erase.Fields
import Detype.Modules.CommonJs
import Detype.Modules.Wrapped
import Detype.Modules.System
import Detype.Printer.Parens
import Detype.Printer.Rules

/-
**Compilation of one source text.**

* `Compilation.transform` — all passes over the tree.
* `rawDiagnostics`, `diagnose` — what there is to say about a text, and how it is reported.
* `finish` — code, source map and diagnostics of a text that went through the parser.
* `compile` — text in; code, source map and diagnostics out.
-/

namespace Detype

/-- What a compilation gives. -/
structure Output where
  code : String
  sourceMap : Option String
  diagnostics : List Diagnostic
deriving Inhabited

namespace Compilation

def isModuleDeclaration : Stmt → Bool
  | .importDecl .. | .exportDecl .. | .exportNamed .. | .exportAll .. | .exportDefaultClass ..
  | .exportDefaultFunc .. | .exportDefaultInterface .. | .exportDefaultExpr .. | .exportAsNamespace .. => true
  | _ => false

/-- A module whose last declaration went away with the types is still a module. -/
def keepModule (before : Program) (after : Program) : Program :=
  if !before.isModule || after.body.any isModuleDeclaration then after
  else
    match before.body.reverse.find? isModuleDeclaration with
    | some d => { after with body := after.body ++ [.exportNamed d.span [] none false none] }
    | none => after

def assignmentForm : ModuleKind → AssignmentForm
  | .system | .esModule => .classic
  | _ => .preserved

/-- The tree without types. -/
def erase (p : Program) (kind : ModuleKind) (depth : Nat) : Program :=
  let q := (p.eraseImports depth).eraseTypes depth
  keepModule p ((q.lowerNamespaces (assignmentForm kind) depth).lowerFields depth)

/-- The added functions that the links of a module need. -/
def linkNeeds (body : List Stmt) (options : Options) (depth : Nat) : Fresh (List PreludeFunction) := do
  if !options.module.usesRequire then return []
  let m ← ModuleParts.of body
  let needs := m.dependencies.flatMap (·.needs options.importInterop)
  return if options.importInterop != .none && hasLoad body depth then .requireWildcard :: needs else needs

/-- Puts the added functions after the directives. -/
def withPrelude (body : List Stmt) (needs : List PreludeFunction) : Fresh (List Stmt) := do
  let (added, next) := Prelude.declarations needs (← get)
  set next
  return afterDirectives added body

/-- The items of a program in the form that the module convention asks for. -/
def link (isModule : Bool) (body : List Stmt) (options : Options) (depth : Nat) : Fresh (List Stmt) :=
  match options.module with
  | .esModule => pure body
  | .system => if isModule then systemModule depth body else systemScript depth body
  | .commonJs => if isModule then commonJs options.importInterop depth body else pure body
  | .amd => if isModule then amd options.importInterop depth body else pure body
  | .umd => if isModule then umd options.importInterop options.fileName depth body else pure body

/-- All passes over the tree. -/
def transform (p : Program) (options : Options) (depth : Nat) : Program :=
  let (p, next) := p.resolve depth
  let (p, next, decoratorNeeds) :=
    if options.experimentalDecorators then p.attachDecorators next depth else p.applyDecorators next depth
  let p := erase p options.module depth
  let linked : Fresh (List Stmt) := do
    let needs ← if p.isModule then linkNeeds p.body options depth else pure []
    link p.isModule (← withPrelude p.body (decoratorNeeds ++ needs)) options depth
  let (body, _) := linked.run next
  { p with body }.respell depth

end Compilation

/-- What there is to say about a text that could be parsed: the faults that the parser passed over, then the
places that wait where nothing can be suspended. -/
def rawDiagnostics (text : String) (parsed : Parsed) (kind : ModuleKind) : List Diagnostic :=
  let faults := parsed.errors.map fun f => Diagnostic.at_ f.fault.message f.span text
  let awaits := if parsed.program.isModule && kind.usesRequire then parsed.program.topLevelAwaits else []
  faults ++ awaits.map fun s => Diagnostic.at_ Diagnostic.awaitMessage s text

/-- The diagnostics of a text that could be parsed. -/
def diagnose (text : String) (parsed : Parsed) (kind : ModuleKind) : List Diagnostic :=
  Diagnostic.arrange (rawDiagnostics text parsed kind)

/-- The text without a byte-order mark at its start. -/
def withoutMark (text : String) : String :=
  match text.toList with
  | c :: cs => if c.toNat == 0xFEFF then String.ofList cs else text
  | [] => text

/-- The head of the source map. A source without a name is quoted in it, except under a universal
wrapper, which always has a name. -/
def mapHeader (text : String) (o : Options) : SourceMap.Header :=
  match o.fileName with
  | some name => { file := some (outputFileName name), source := name, content := none }
  | none =>
    if o.module == .umd then { file := none, source := "anonymous", content := none }
    else { file := none, source := "<anon>", content := some text }

/-- The positions of the commas of a text. -/
def commaPositions (s : Source) : Std.HashSet Nat :=
  (List.range s.size).foldl (fun set i => if s.at? i == some ',' then set.insert (s.position i) else set) {}

/-- The code of a finished tree, with the places it comes from if they are asked for. -/
def write (p : Program) (comments : Comments) (source : Source) (recording : Bool) (depth : Nat) :
    String × Option (List Mapping) :=
  let (p, comments) := p.parenthesize comments depth
  let start : Writer :=
    { recording, leading := comments.leading, trailing := comments.trailing, commas := commaPositions source }
  let w := ((Printer.program (Printer.ofDepth depth) p).run start).2
  (w.text, if recording then some w.mappings.toList else none)

/-- What becomes of a source text, given what the parser made of it. -/
def finish (text : String) (options : Options) : Except FaultAt Parsed → Except CompileError Output
  | .error f =>
    let (start, _) := f.span.offsets text.utf8ByteSize
    let (line, column) := lineColumn text.toList start
    .error (.parse f.fault.message line column)
  | .ok parsed =>
    let body := withoutMark text
    let source := Source.ofString body
    let depth := Parser.depthFor source
    let p := Compilation.transform parsed.program options depth
    let (code, mappings) := write p (.ofLists parsed.leading parsed.trailing) source options.sourceMap depth
    let sourceMap := mappings.map fun ms =>
      SourceMap.json (mapHeader body options) (SourceMap.places (SourceMap.positions body) ms)
    .ok { code, sourceMap, diagnostics := diagnose text parsed options.module }

/-- Compiles a source text. -/
def compile (text : String) (options : Options) : Except CompileError Output :=
  finish text options ((Source.ofString (withoutMark text)).parse options.jsx)

end Detype
