import Detype.Scope.Region

/-
**Names that say what they mean.**

Two variables of one spelling may meet in one region after the other passes. Here each variable gets a
spelling that no other variable of its region has, by appending a number where its own is taken.

* `Region.spellings` — the spelling of every declared variable.
* `Stmt.renameAll`, `Class.rename` — code with some variables in place of others.
* `Program.respell` — the program with its variables spelled out.
-/

namespace Detype

namespace Region

/-- The variables of the regions around a place by their spelling. -/
abbrev Taken := Std.HashMap String (List Binding)

/-- The spellings that a name may take, in order: itself, then itself with a number. -/
def candidate (name : String) (n : Nat) : String := if n == 0 then name else name ++ toString n

/-- The first spelling from the `n`-th on that is free. -/
def freeSpelling (isFree : String → Bool) (name : String) : Nat → Nat → String
  | n, 0 => candidate name n
  | n, fuel + 1 =>
    let s := candidate name n
    if isFree s then s else freeSpelling isFree name (n + 1) fuel

/-- Spells the variables that one region declares. -/
def spellDeclared (free : Std.HashSet String) (occurring : Std.HashSet Binding) :
    List Binding → Taken → Std.HashMap Binding String → Taken × Std.HashMap Binding String
  | [], taken, spelled => (taken, spelled)
  | b :: bs, taken, spelled =>
    if spelled.contains b || b.name == "eval" then spellDeclared free occurring bs taken spelled
    else
      let isFree (s : String) : Bool :=
        !free.contains s && (taken.getD s []).all fun other => other == b || !occurring.contains other
      let s := freeSpelling isFree b.name 0 (free.size + spelled.size + 1)
      spellDeclared free occurring bs (taken.insert s (b :: taken.getD s [])) (spelled.insert b s)

mutual

/-- The spelling of every variable that a region or one inside it declares. -/
def spellings (free : Std.HashSet String) :
    Region → Taken → Std.HashMap Binding String → Std.HashMap Binding String
  | .node declared occurring inner, taken, spelled =>
    let (taken, spelled) := spellDeclared free occurring declared taken spelled
    spellingsList free inner taken spelled

def spellingsList (free : Std.HashSet String) :
    List Region → Taken → Std.HashMap Binding String → Std.HashMap Binding String
  | [], _, spelled => spelled
  | r :: rs, taken, spelled => spellingsList free rs taken (spellings free r taken spelled)

end

end Region

/-- Which variables take the place of others. -/
abbrev Respell := ReaderM (Binding → Option Binding)

namespace Respell

def ident (id : Ident) : Respell Ident := do
  match (← read) id.binding with
  | some b => return b.ident id.span
  | none => return id

def jsxName : JsxName → Respell JsxName
  | .ident id => return .ident (← ident id)
  | .member s obj prop => return .member s (← jsxName obj) prop
  | n => return n

/-- An imported name keeps its own spelling outside. -/
def importSpecifier : ImportSpecifier → Respell ImportSpecifier
  | .named s id imported typeOnly => do
    let new ← ident id
    let imported := if new.name == id.name then imported
      else imported <|> some (.ident { id with mark := unmarked })
    return .named s new imported typeOnly
  | .default s id => return .default s (← ident id)
  | .namespaceAll s id => return .namespaceAll s (← ident id)

def exportSpecifier : ExportSpecifier → Respell ExportSpecifier
  | .named s (.ident id) exported typeOnly => do
    let new ← ident id
    let exported := if new.name == id.name then exported
      else exported <|> some (.ident { id with mark := unmarked })
    return .named s (.ident new) exported typeOnly
  | spec => return spec

def expr (w : Walker Respell) : Expr → Respell Expr
  | .ident id => return .ident (← ident id)
  | .propShorthand id => do
    let new ← ident id
    if new.name == id.name then return .propShorthand new
    else return .propValue (.keyName { id with mark := unmarked }) (.ident new)
  | .propDefault s id v => return .propDefault s (← ident id) (← w.expr v)
  | .func id f => return .func (← id.mapM ident) (← w.func f)
  | .classExpr id c => return .classExpr (← id.mapM ident) (← w.cls c)
  | .jsxElement s o name attrs types selfClosing children closing => do
    let closing ← closing.mapM fun (s, n) => return (s, ← jsxName n)
    return .jsxElement s o (← jsxName name) (← attrs.mapM w.expr) types selfClosing
      (← children.mapM w.expr) closing
  | e => w.onExpr e

def pat (w : Walker Respell) : Pat → Respell Pat
  | .ident id => return .ident (← ident id)
  | .propShorthand s id d => do
    let new ← ident id
    let d ← w.optExpr d
    if new.name == id.name then return .propShorthand s new d
    else
      let key := Expr.keyName { id with mark := unmarked }
      match d with
      | none => return .propValue key (.ident new)
      | some v => return .propValue key (.assign s (.ident new) v)
  | p => w.onPat p

def stmt (w : Walker Respell) : Stmt → Respell Stmt
  | .classDecl id isAmbient c => return .classDecl (← ident id) isAmbient (← w.cls c)
  | .funcDecl id isAmbient f => return .funcDecl (← ident id) isAmbient (← w.func f)
  | .importDecl s specifiers source typeOnly attributes phase =>
    return .importDecl s (← specifiers.mapM importSpecifier) source typeOnly attributes phase
  | .exportNamed s specifiers none typeOnly attributes =>
    return .exportNamed s (← specifiers.mapM exportSpecifier) none typeOnly attributes
  | .namespaceDecl s isAmbient isGlobal (.ident id) body =>
    return .namespaceDecl s isAmbient isGlobal (.ident (← ident id)) (← body.mapM w.stmt)
  | .importEquals s isExport typeOnly id (.entity (root :: rest)) =>
    return .importEquals s isExport typeOnly (← ident id) (.entity ((← ident root) :: rest))
  | .exportDefaultClass s id c => return .exportDefaultClass s (← id.mapM ident) (← w.cls c)
  | .exportDefaultFunc s id f => return .exportDefaultFunc s (← id.mapM ident) (← w.func f)
  | s => w.onStmt s

/-- The names that an exported declaration declares under another spelling. -/
def respelled (d : Stmt) : Respell (List ExportSpecifier) := do
  let ids := d.lexical ++ d.hoisted.filterMap fun
    | .var id => some id
    | .func _ => none
  ids.filterMapM fun id => do
    let new ← ident id
    if new.name == id.name then return none
    else return some (.named {} (.ident new) (some (.ident { id with mark := unmarked })) false)

/-- A declaration that is spelled anew is exported by a statement of its own. -/
def stmts (w : Walker Respell) (ss : List Stmt) : Respell (List Stmt) := do
  let parts ← ss.mapM fun
    | .exportDecl s d => do
      match ← respelled d with
      | [] => return [← w.stmt (.exportDecl s d)]
      | specifiers => return [← w.stmt d, .exportNamed s specifiers none false none]
    | s => return [← w.stmt s]
  return parts.flatten

/-- One step of the pass. -/
def walker (w : Walker Respell) : Walker Respell :=
  { expr := expr w, pat := pat w, stmt := stmt w, stmts := w.onStmts, func := w.onFunc, cls := w.onClass }

end Respell

/-- Statements with variables in place of others. -/
def Stmt.renameAll (new : Binding → Option Binding) (depth : Nat) (body : List Stmt) : List Stmt :=
  (Respell.stmts (Walker.fix Respell.walker depth) body).run new

/-- A class with variables in place of others. -/
def Class.rename (new : Binding → Option Binding) (depth : Nat) (c : Class) : Class :=
  ((Walker.fix Respell.walker depth).cls c).run new

/-- The program with every variable spelled so that no other can be meant. -/
def Program.respell (p : Program) (depth : Nat) : Program :=
  let (region, free) := p.survey depth
  let spelled := region.spellings free {} {}
  { p with body := Stmt.renameAll (fun b => spelled[b]?.map (⟨·, b.mark⟩)) depth p.body }

end Detype
