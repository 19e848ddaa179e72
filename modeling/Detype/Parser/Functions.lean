import Detype.Parser.Patterns

/-
**Functions and decorators.**

Blocks of statements, the bodies of functions, and the decorators in front of classes, members and
parameters.

* `Parser.blockBody` — statements up to a closing brace, minding a `'use strict'` in front.
* `Parser.functionRestRule` — a function from its type parameters on.
* `Parser.arrowRest` — an arrow function from its body on.
-/

namespace Detype.Parser

/-- Whether a statement is the directive that makes code strict. -/
def isUseStrict : Stmt → Bool
  | .expr _ (.str s) => s.raw == some "'use strict'" || s.raw == some "\"use strict\""
  | _ => false

/-- Statements up to a closing brace, or up to the end of the text when `closed` fails. -/
def blockBody (item : Parser Stmt) (allowDirectives closed : Bool) : Parser (List Stmt) := do
  let outer ← context
  let (stmts, _) ← iterate (fun ((acc : List Stmt), (first : Bool)) => do
    if ← isEof then
      if closed then emit (.expected "\x7d" "<eof>") (← curSpan)
      return ((acc, first), false)
    if closed && (← isPunct "\x7d") then return ((acc, first), false)
    let s ← item
    if first && allowDirectives && isUseStrict s then
      modify fun st => { st with context := { st.context with strict := true } }
    return ((s :: acc, false), true)) (← loopFuel) (([] : List Stmt), true)
  modify fun st => { st with context := { st.context with strict := outer.strict } }
  return stmts.reverse

/-- Runs a parser inside a statement, which is no longer the top of the text. -/
def nested (p : Parser α) : Parser α := inContext ({ · with topLevel := false }) p

/-- A block with its braces. -/
def block (g : Grammar) (allowDirectives : Bool) : Parser Block := do
  let lo ← curLo
  expectPunct "\x7b"
  let stmts ← nested (blockBody g.stmtListItem allowDirectives true)
  let _ ← eatPunct "\x7d"
  return ⟨← spanFrom lo, stmts⟩

/-- Runs a parser where no label of the surroundings is seen. -/
def withoutLabels (p : Parser α) : Parser α := do
  let labels := (← get).labels
  modify ({ · with labels := [] })
  let a ← p
  modify ({ · with labels })
  return a

/-- The context of a function's body. -/
def bodyContext (isAsync isGenerator isArrow : Bool) (c : Context) : Context :=
  { c with
    inAsync := isAsync, inGenerator := isGenerator, inFunction := true, inStaticBlock := false
    inClassField := c.inClassField && isArrow, topLevel := false, breakAllowed := false
    continueAllowed := false, inCond := false, inParameters := false, forLoopInit := false, forAwaitInit := false
    insideNonArrow := c.insideNonArrow || !isArrow }

def isSimpleParams (params : List Pat) : Bool :=
  params.all fun p => match p.undecorated.untyped with
    | .ident _ => true
    | _ => false

/-- The directives at the start of a block. -/
def directives (b : Block) : List Stmt :=
  b.stmts.takeWhile fun s => match s with
    | .expr _ (.str _) => true
    | _ => false

/-- Notes a strict directive in a function whose parameters are no plain names. -/
def checkDirectives (params : List Pat) (b : Block) : Parser Unit := do
  unless isSimpleParams params do
    match (directives b).find? isUseStrict with
    | some s => emit .strictDirective s.span
    | none => pure ()

/-- The body of a function. A signature has none. -/
def functionBody (g : Grammar) (isAsync isGenerator : Bool) (params : List Pat) : Parser (Option Block) := do
  if (← context).inDeclare && (← isPunct "\x7b") then emit .ambientImplementation (← curSpan)
  inContext (fun c => { bodyContext isAsync isGenerator false c with includeIn := true
                                                                     willExpectColon := false }) <|
    withoutLabels do
      if !(← isPunct "\x7b") && (← eatSemicolon) then return none
      let b ← block g true
      checkDirectives params b
      return some b

/-- A function from its type parameters on. -/
def functionRestRule (g : Grammar) (start : Nat) (isAsync isGenerator : Bool) (params : Parser (List Pat)) :
    Parser Func := do
  let typeParams ← optTypeParams g false true
  expectPunct "("
  let ps ← inContext (fun c => { c with
    inParameters := true, inFunction := false, inAsync := isAsync, inGenerator := isGenerator
    inClassField := false, includeIn := true, willExpectColon := false }) params
  expectPunct ")"
  let result ← optReturnType g
  let body ← functionBody g isAsync isGenerator ps
  if body.isNone then
    for p in ps do
      match p with
      | .param _ _ _ (.assign span _ _) => emit .paramInitializer span
      | _ => pure ()
  let types := typeParams ++ result.toList
  return { span := ← spanFrom start, params := ps, body, types, isGenerator, isAsync }

/-- A function from the word `function` on. A declaration needs its name. -/
def functionFrom (g : Grammar) (asyncLo : Option Nat) (isExpr nameRequired : Bool) :
    Parser (Option Ident × Func) := do
  let lo ← match asyncLo with
    | some lo => pure lo
    | none => curLo
  bump
  let isGenerator ← eatPunct "*"
  let isAsync := asyncLo.isSome
  let name := optBindingIdent nameRequired false
  let id ← inContext ({ · with inClassField := false }) <| if isExpr then
      inContext ({ · with inAsync := isAsync, inGenerator := isGenerator, inStaticBlock := false }) name
    else name
  let f ← g.functionRest lo isAsync isGenerator g.params
  if isExpr && f.body.isNone then unexpected "\x7b"
  return (id, f)

/-- An arrow function whose parameters, types and arrow have been read. -/
def arrowRest (g : Grammar) (lo : Nat) (isAsync : Bool) (params : List Pat) (types : List Ty) : Parser Expr := do
  let body ← inContext (bodyContext isAsync false true) <| withoutLabels do
    if ← isPunct "\x7b" then
      let b ← inContext ({ · with includeIn := true, willExpectColon := false }) (block g false)
      checkDirectives params b
      return ArrowBody.block b
    else return ArrowBody.expr (← g.assign)
  return .arrow (← spanFrom lo) isAsync params body types

end Detype.Parser
