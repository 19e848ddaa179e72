import Detype.Parser.Classes
import Detype.Syntax.Defaults
import Detype.Text.Decimal

/-
**Statements and declarations.**

Control flow, variables, and the declarations that only exist for types.

* `Parser.stmtRule` — one statement, with or without declarations.
* `Parser.typeDecl` — interfaces, aliases, enumerations and namespaces.
-/

namespace Detype.Parser

/-! ### Variables -/

/-- Whether `let` begins a declaration, by the token after it. -/
def followsLet : Token → Bool
  | .word t escaped => escaped || !Token.reservedWords.contains t
  | .punct p => p == "\x7b" || p == "["
  | _ => false

def atLexicalLet : Parser Bool := do
  if ← isWord "let" then return followsLet (← peek).1 else return false

/-- Notes default values of object literals inside an expression that is no pattern. -/
def verifyExpr (e : Expr) : Parser Expr := do
  for span in e.strayDefaults (← loopFuel) do emit .defaultInObject span
  return e

/-- One variable of a declaration. -/
def declarator (g : Grammar) (forLoop : Bool) (kind : VarKind) : Parser Declarator := do
  let lo ← curLo
  let bare ← g.bindingPat (kind != .var)
  let definite ← match bare with
    | .ident _ => eatPunct "!"
    | _ => pure false
  let type ← optTypeAnn g
  let typed ← if type.isSome then do
      match bare with
      | .ident id => some <$> spanFrom id.span.lo
      | p => pure (some p.span)
    else pure none
  let atLoop ← if forLoop then do pure ((← isWord "in") || (← isWord "of")) else pure false
  let init ← if atLoop then pure none
    else if ← eatPunct "=" then do
      let e ← g.assign
      some <$> verifyExpr e
    else if (← context).inDeclare then pure none
    else if kind == .constant && !forLoop then do
      emit .constWithoutInit (← spanFrom lo)
      pure none
    else do
      match bare with
      | .ident _ => pure none
      | _ => failAt .patternWithoutInit (← spanFrom lo)
  return { span := ← spanFrom lo, name := withType type bare, init, definite, typed }

/-- Skips what stands in the way of the end of a declaration. -/
def skipToSemicolon : Nat → Parser Unit
  | 0 => return
  | fuel + 1 => do
    unless ← eatSemicolon do
      bump
      skipToSemicolon fuel

/-- Whether a loop head ends without any variable. -/
def emptyForHead (g : Grammar) : Parser Bool := do
  if (← isWord "in") || (← isWord "of") then
    lookAhead do
      bump
      let _ ← g.assign
      expectPunct ")"
      return true
  else return false

/-- A declaration that starts with `var`, `let` or `const`. -/
def varDecl (g : Grammar) (forLoop : Bool) : Parser Stmt := do
  let lo ← curLo
  let kind : VarKind ← do
    if ← isWord "const" then pure .constant else if ← isWord "let" then pure .lexical else pure .var
  bump
  let wordSpan ← spanFrom lo
  if forLoop && (← emptyForHead g) then
    emit .emptyVarList ⟨wordSpan.hi, wordSpan.hi⟩
    return .varDecl (← spanFrom lo) kind false []
  let oneDecl := inContext ({ · with includeIn := kind != .var || !forLoop }) (declarator g forLoop kind)
  let (decls, _) ← iterate (fun ((acc : List Declarator), (_ : Unit)) => do
    if ← isPunct ";" then
      let prev ← prevSpan
      emit .trailingComma (if prev == wordSpan then ⟨prev.hi, prev.hi⟩ else prev)
      return ((acc, ()), false)
    let d ← oneDecl
    return ((d :: acc, ()), ← eatPunct ",")) (← loopFuel) (([] : List Declarator), ())
  if !forLoop then
    unless ← eatSemicolon do
      emit .semicolonExpected (← curSpan)
      let skipped := do
        let _ ← g.expr
        return ()
      orElse skipped fun _ => return ()
      skipToSemicolon (← loopFuel)
  return .varDecl (← spanFrom lo) kind false decls.reverse

/-- A `using` declaration at its word, if it is one. -/
def usingDecl (g : Grammar) (lo : Nat) (isAwait : Bool) : Parser (Option Stmt) := do
  let (next, broken) ← peek
  let c ← context
  if broken || !tokenIsIdentRef c next || tokenIsWord "of" next || tokenIsWord "in" next then return none
  bump
  let (decls, _) ← iterate (fun ((acc : List Declarator), (_ : Unit)) => do
    if ← isPunct ";" then
      emit .trailingComma (← prevSpan)
      return ((acc, ()), false)
    let d ← declarator g false .var
    return ((d :: acc, ()), ← eatPunct ",")) (← loopFuel) (([] : List Declarator), ())
  let all := decls.reverse
  for d in all do
    match d.name.untyped with
    | .ident _ => pure ()
    | _ => emit .usingPattern (← spanFrom lo)
    if d.init.isNone then emit .usingWithoutInit (← spanFrom lo)
  expectSemicolon
  return some (.usingDecl (← spanFrom lo) isAwait all)

/-! ### Type declarations -/

/-- Names that no interface can have. -/
def interfaceForbidden : List String :=
  ["string", "null", "number", "object", "any", "unknown", "boolean", "bigint", "symbol", "void", "never",
   "intrinsic"]

/-- Skips what stands before an opening brace. -/
def skipToBrace : Nat → Parser Unit
  | 0 => return
  | fuel + 1 => do
    unless (← isEof) || (← isPunct "\x7b") do
      bump
      skipToBrace fuel

/-- An interface, after its word. -/
def interfaceRest (g : Grammar) (lo : Nat) : Parser Stmt := do
  let id ← identName
  if interfaceForbidden.contains id.name then emit .interfaceName id.span
  let typeParams ← optTypeParams g true false
  let bases ← if ← eatWord "extends" then heritageClause g else pure []
  if ← isWord "extends" then
    emit .extendsTwice (← curSpan)
    skipToBrace (← loopFuel)
  let members ← objectTypeMembers g
  return .interfaceDecl (← spanFrom lo) id (typeParams ++ bases.map Prod.fst ++ members)

/-- A type alias, after its word. -/
def typeAliasRest (g : Grammar) (lo : Nat) : Parser Stmt := do
  let id ← identName
  let typeParams ← optTypeParams g true false
  let type ← typeAfter g (eatPunct "=") "="
  expectSemicolon
  return .typeAlias (← spanFrom lo) id (typeParams ++ [type])

/-- The name of an enumeration's member in brackets, which may only hold a constant text. -/
def enumComputedName (g : Grammar) : Parser Expr := do
  let lo ← curLo
  bump
  let e ← g.expr
  match e with
  | .str s =>
    expectPunct "]"
    return .str s
  | .template span [q] [] =>
    expectPunct "]"
    return .str { value := q.cooked.getD (.ofString q.raw), span, raw := none }
  | _ =>
    emit .enumComputedName (← spanFrom lo)
    expectPunct "]"
    return .keyName { name := "", span := ← spanFrom lo }

/-- Takes the current token for a comma, whatever it is. -/
def standInComma : Parser Unit := modify ({ · with token := .punct "," })

/-- One member of an enumeration. -/
def enumMember (g : Grammar) : Parser Stmt := do
  let lo ← curLo
  let key ← match ← token with
    | .str _ _ => Expr.str <$> strLit
    | .num value raw => do
      bump
      let span ← spanFrom lo
      emit .enumNumericName span
      pure (Expr.str { value := .ofString (Text.positionalText value), span, raw := some ("\"" ++ raw ++ "\"") })
    | .punct "[" => enumComputedName g
    | .error e => stopAtError e
    | _ => Expr.keyName <$> identName
  let init ← if ← eatPunct "=" then some <$> g.assign
    else if (← isPunct ",") || (← isPunct "\x7d") then pure none
    else do
      let at_ ← curLo
      emit .semicolonExpected ⟨at_, at_⟩
      bump
      standInComma
      pure none
  return .enumMember (← spanFrom lo) key init

/-- An enumeration, after its word. -/
def enumRest (g : Grammar) (lo : Nat) (isConst : Bool) : Parser Stmt := do
  let id ← identName
  expectPunct "\x7b"
  let members ← collect (do
    if ← isPunct "\x7d" then return none
    let m ← enumMember g
    unless (← isPunct "\x7d") || (← eatPunct ",") do
      emit (.expected "," (← shownToken)) (← curSpan)
      if ← isEof then expectPunct "\x7d"
    return some m) (← loopFuel)
  expectPunct "\x7d"
  return .enumDecl (← spanFrom lo) false isConst id members

/-- The body of a namespace, with its braces. -/
def namespaceBlock (g : Grammar) : Parser Stmt := do
  let lo ← curLo
  expectPunct "\x7b"
  let stmts ← inContext ({ · with topLevel := true, inNamespace := true }) (blockBody g.moduleItem false true)
  let _ ← eatPunct "\x7d"
  return .namespaceBlock (← spanFrom lo) stmts

/-- A namespace from its name on; `fuel` bounds the dots of the name. -/
def namespaceRest (g : Grammar) : Nat → Nat → Parser Stmt
  | 0, _ => failAt .expectedIdent {}
  | fuel + 1, lo => do
    let id ← identName
    let body ← if ← eatPunct "." then do
        namespaceRest g fuel (← curLo)
      else namespaceBlock g
    return .namespaceDecl (← spanFrom lo) false false (.ident id) (some body)

/-- A module with a string for a name, or the global scope. -/
def ambientModule (g : Grammar) (lo : Nat) : Parser Stmt := do
  let (isGlobal, name) ← if ← isWord "global" then do
      let id ← identName
      pure (true, ExportName.ident id)
    else do
      match ← token with
      | .str _ _ => pure (false, ExportName.str (← strLit))
      | _ => unexpected "global or a string literal"
  let body ← if ← isPunct "\x7b" then some <$> namespaceBlock g else do
    expectSemicolon
    pure none
  return .namespaceDecl (← spanFrom lo) false isGlobal name body

/-- A class declaration, whose decorators have been read. -/
def classDecl (g : Grammar) (start : Nat) (decs : List Expr) (isAbstract : Bool) : Parser Stmt := do
  let fuel ← loopFuel
  let (id, c) ← classTail g (classExprRule g fuel) start decs true isAbstract
  return .classDecl (id.getD { name := "" }) false c

/-- A function declaration. -/
def funcDecl (g : Grammar) (asyncLo : Option Nat) : Parser Stmt := do
  let (id, f) ← functionFrom g asyncLo false true
  return .funcDecl (id.getD { name := "" }) false f

/-- The declaration that a word introduces, if it does. With `pending` the word is still the
current token. -/
def typeDecl (g : Grammar) (lo : Nat) (decs : List Expr) (word : String) (pending : Bool) :
    Parser (Option Stmt) := do
  let skip : Parser Unit := if pending then bump else pure ()
  if word == "abstract" then
    if pending || ((← isWord "class") && !(← hadLineBreak)) then
      skip
      return some (← classDecl g lo decs true)
    return none
  else if word == "enum" then
    if pending || (← isIdentRef) then
      skip
      return some (← enumRest g lo false)
    return none
  else if word == "interface" then
    if pending || (← isIdentRef) then
      skip
      return some (← interfaceRest g lo)
    return none
  else if word == "module" && !(← hadLineBreak) then
    skip
    match ← token with
    | .str _ _ => return some (← ambientModule g lo)
    | _ =>
      if pending || (← isIdentRef) then return some (← namespaceRest g (← loopFuel) lo)
      return none
  else if word == "namespace" then
    if pending || (← isIdentRef) then
      skip
      return some (← namespaceRest g (← loopFuel) lo)
    return none
  else if word == "type" then
    if pending || (!(← hadLineBreak) && (← isIdentRef)) then
      skip
      return some (← typeAliasRest g lo)
    return none
  else return none

/-- Gives a declaration the mark of an ambient one and the place of its `declare`. -/
def makeAmbient (lo : Nat) : Stmt → Stmt
  | .classDecl id _ c => .classDecl id true { c with span := ⟨lo, c.span.hi⟩ }
  | .funcDecl id _ f => .funcDecl id true { f with span := ⟨lo, f.span.hi⟩ }
  | .varDecl s k _ ds => .varDecl ⟨lo, s.hi⟩ k true ds
  | .enumDecl s _ c id ms => .enumDecl ⟨lo, s.hi⟩ true c id ms
  | .namespaceDecl s _ isGlobal n b => .namespaceDecl ⟨lo, s.hi⟩ true isGlobal n b
  | s => s

/-- What `declare` stands before, if it is a declaration. -/
def ambientDecl (g : Grammar) (lo : Nat) (decs : List Expr) : Parser (Option Stmt) := do
  if (← context).inDeclare then emit .declareAmbient (← spanFrom lo)
  let found ← inContext ({ · with inDeclare := true }) do
    if ← isWord "function" then return some (← funcDecl g none)
    if ← isWord "class" then return some (← classDecl g lo decs false)
    if (← isWord "const") && (← peekIsWord "enum") then
      bump
      bump
      return some (← enumRest g lo true)
    if (← isWord "const") || (← isWord "var") || (← isWord "let") then return some (← varDecl g false)
    if ← isWord "global" then return some (← ambientModule g lo)
    match ← token with
    | .word text _ => typeDecl g lo decs text true
    | _ => return none
  return found.map (makeAmbient lo)

/-! ### Loops -/

/-- The statement of a loop. -/
def loopBody (g : Grammar) : Parser Stmt :=
  nested <| inContext ({ · with
    breakAllowed := true, continueAllowed := true, forLoopInit := false, forAwaitInit := false }) g.stmt

/-- The head of a loop. -/
inductive LoopHead where
  | plain (init : Option Stmt) (test update : Option Expr)
  | each (isOf : Bool) (left : Stmt) (right : Expr)

def eachHead (g : Grammar) (left : Stmt) : Parser LoopHead := do
  let isOf ← isWord "of"
  bump
  if isOf then return .each true left (← allowIn g.assign)
  else
    match left with
    | .usingDecl span _ _ => emit .usingInForIn span
    | _ => pure ()
    return .each false left (← allowIn g.expr)

def plainHead (g : Grammar) (init : Option Stmt) : Parser LoopHead := do
  let test ← if ← eatPunct ";" then pure none else do
    let e ← allowIn g.expr
    expectPunct ";"
    pure (some e)
  let update ← if ← isPunct ")" then pure none else some <$> allowIn g.expr
  return .plain init test update

/-- A loop head that starts with a declaration. -/
def varHead (g : Grammar) : Parser LoopHead := do
  let decl ← varDecl g true
  if (← isWord "of") || (← isWord "in") then
    match decl with
    | .varDecl _ _ _ [d] =>
      let nameSpan := d.typed.getD d.name.span
      if ((← context).strict || (← isWord "of")) && d.init.isSome then emit .forHeadInit nameSpan
      if d.typed.isSome then emit .forHeadTyped nameSpan
    | .varDecl _ _ _ (_ :: more) => for d in more do emit .forHeadBindings (d.typed.getD d.name.span)
    | _ => pure ()
    eachHead g decl
  else
    expectPunct ";"
    plainHead g (some decl)

/-- A loop head that starts with an expression. -/
def exprHead (g : Grammar) : Parser LoopHead := do
  let lo ← curLo
  let init ← inContext ({ · with includeIn := false }) g.expr
  let (maybeUsing, isAwait) := match init with
    | .ident id => (id.name == "using", false)
    | .await _ (.ident id) => (id.name == "using", id.name == "using")
    | _ => (false, false)
  let isUsing ← if maybeUsing && !(← isWord "of") then do
      let (next, _) ← peek
      pure (tokenIsWord "of" next || tokenIsWord "in" next)
    else pure false
  if isUsing then
    let id ← bindingIdent false
    let span ← spanFrom lo
    let d : Declarator := { span, name := .ident id, init := none, definite := false }
    return ← eachHead g (.usingDecl span isAwait [d])
  if (← isWord "of") || (← isWord "in") then
    let pat ← g.asPattern .assign init
    if ← isWord "in" then
      match pat with
      | .ident _ | .expr _ => pure ()
      | p => emit .forInPattern p.span
    return ← eachHead g (.forTarget pat)
  expectPunct ";"
  let init ← verifyExpr init
  plainHead g (some (.expr init.span init))

def forStmt (g : Grammar) : Parser Stmt := do
  let lo ← curLo
  bump
  let awaitLo ← curLo
  let isAwait ← eatWord "await"
  let awaitSpan ← spanFrom awaitLo
  expectPunct "("
  let head ← inContext ({ · with forLoopInit := true, forAwaitInit := isAwait }) do
    if (← isWord "const") || (← isWord "var") || (← atLexicalLet) then varHead g
    else if ← eatPunct ";" then plainHead g none
    else exprHead g
  expectPunct ")"
  let body ← loopBody g
  let span ← spanFrom lo
  match head with
  | .plain init test update =>
    if isAwait then failAt .forAwaitNotOf awaitSpan
    return .forLoop span init test update body
  | .each false left right =>
    if isAwait then failAt .forAwaitNotOf awaitSpan
    return .forIn span left right body
  | .each true left right => return .forOf span isAwait left right body

def whileStmt (g : Grammar) : Parser Stmt := do
  let lo ← curLo
  bump
  expectPunct "("
  let test ← allowIn g.expr
  expectPunct ")"
  let body ← loopBody g
  return .whileLoop (← spanFrom lo) test body

def doStmt (g : Grammar) : Parser Stmt := do
  let lo ← curLo
  bump
  let body ← loopBody g
  expectWord "while"
  expectPunct "("
  let test ← allowIn g.expr
  expectPunct ")"
  let _ ← eatSemicolon
  return .doWhile (← spanFrom lo) body test

/-! ### Jumps and branches -/

def jumpStmt : Parser Stmt := do
  let lo ← curLo
  let isBreak ← isWord "break"
  bump
  let label ← if ← eatSemicolon then pure none else do
    let c ← context
    let id ← ident (!c.inGenerator) (!c.inAsync)
    expectSemicolon
    pure (some id)
  let span ← spanFrom lo
  let c ← context
  let known := match label with
    | some _ => true
    | none => false
  let declared ← match label with
    | some id => do pure ((← get).labels.contains id.name)
    | none => pure false
  if isBreak then
    if known && !declared then emit .breakUnknownLabel span
    else if !known && !c.breakAllowed then emit .breakOutside span
    return .breakStmt span label
  else
    if !c.continueAllowed then emit .continueOutside span
    else if known && !declared then emit .jumpAcrossFunction span
    return .continueStmt span label

def ifStmt (g : Grammar) : Parser Stmt := do
  let lo ← curLo
  bump
  expectPunct "("
  let test ← allowIn g.expr
  expectPunct ")"
  let whenTrue ← nested g.stmt
  let whenFalse ← if ← eatWord "else" then some <$> nested g.stmt else pure none
  return .ifStmt (← spanFrom lo) test whenTrue whenFalse

def returnStmt (g : Grammar) : Parser Stmt := do
  let lo ← curLo
  bump
  let arg ← if ← isSemicolon then pure none else some <$> allowIn g.expr
  expectSemicolon
  let span ← spanFrom lo
  unless (← context).inFunction do emit .returnOutside span
  return .returnStmt span arg

def throwStmt (g : Grammar) : Parser Stmt := do
  let lo ← curLo
  bump
  if ← hadLineBreak then failAt .throwLineBreak (← curSpan)
  let arg ← allowIn g.expr
  expectSemicolon
  return .throwStmt (← spanFrom lo) arg

def switchCases (g : Grammar) : Parser (List Stmt) := do
  let (cases, _) ← iterate (fun ((acc : List Stmt), (hasDefault : Bool)) => do
    let isCase ← isWord "case"
    unless isCase || (← isWord "default") do return ((acc, hasDefault), false)
    let lo ← curLo
    bump
    let test ← if isCase then some <$> allowIn g.expr else do
      if hasDefault then failAt .multipleDefaults (← curSpan)
      pure none
    expectPunct ":"
    let body ← collect (do
      if (← isEof) || (← isWord "case") || (← isWord "default") || (← isPunct "\x7d") then return none
      return some (← nested g.stmtListItem)) (← loopFuel)
    return ((.switchCase (← spanFrom lo) test body :: acc, hasDefault || !isCase), true))
    (← loopFuel) (([] : List Stmt), false)
  return cases.reverse

def switchStmt (g : Grammar) : Parser Stmt := do
  let lo ← curLo
  bump
  expectPunct "("
  let subject ← allowIn g.expr
  expectPunct ")"
  expectPunct "\x7b"
  let cases ← inContext ({ · with breakAllowed := true }) (switchCases g)
  expectPunct "\x7d"
  return .switch (← spanFrom lo) subject cases

def catchClause (g : Grammar) : Parser (Option Stmt) := do
  let lo ← curLo
  unless ← eatWord "catch" do return none
  let param ← if ← eatPunct "(" then do
      let p ← g.bindingPat false
      let type ← optTypeAnn g
      expectPunct ")"
      pure (some (withType type p))
    else pure none
  let body ← block g false
  return some (.catchClause (← spanFrom lo) param body)

def finallyBlock (g : Grammar) : Parser (Option Block) := do
  if ← eatWord "finally" then return some (← block g false) else return none

def tryStmt (g : Grammar) : Parser Stmt := do
  let lo ← curLo
  bump
  let body ← block g false
  let after ← curLo
  let handler ← catchClause g
  let finalizer ← finallyBlock g
  if handler.isNone && finalizer.isNone then emit .semicolonExpected ⟨after, after⟩
  return .tryStmt (← spanFrom lo) body handler finalizer

def withStmt (g : Grammar) : Parser Stmt := do
  let lo ← curLo
  let span ← curSpan
  emit .withUnsupported span
  emitStrict .withInStrict span
  bump
  expectPunct "("
  let obj ← allowIn g.expr
  expectPunct ")"
  let body ← nested (inContext ({ · with inFunction := true }) g.stmt)
  return .withStmt (← spanFrom lo) obj body

/-- A statement with a label, after its colon. -/
def labeledStmt (g : Grammar) (label : Ident) : Parser Stmt :=
  inContext ({ · with breakAllowed := true }) do
    let outer := (← get).labels
    modify ({ · with labels := label.name :: outer })
    let body ← if ← isWord "function" then do
        let s ← funcDecl g none
        match s with
        | .funcDecl _ _ f =>
          if (← context).strict then emit .labelledFunction f.span
          if f.isGenerator || f.isAsync then emit .labelledAsync f.span
        | _ => pure ()
        pure s
      else nested g.stmt
    if outer.contains label.name then emit (.duplicateLabel label.name) label.span
    modify ({ · with labels := outer })
    return .labeled (← spanFrom label.span.lo) label body

/-! ### Expression statements -/

/-- What a name begins, when a statement is only that name so far. -/
def nameStmt (g : Grammar) (lo : Nat) (decs : List Expr) (id : Ident) : Parser (Option Stmt) := do
  if ← eatPunct ":" then return some (← labeledStmt g id)
  if id.name == "interface" && (← hadLineBreak) then
    emitStrict (.identInStrict "interface") id.span
    let _ ← eatSemicolon
    return some (.expr (← spanFrom lo) (.ident id))
  if id.name == "declare" then return ← ambientDecl g id.span.lo decs
  if id.name == "global" then
    if ← isPunct "\x7b" then
      let body ← namespaceBlock g
      return some (.namespaceDecl (← spanFrom lo) false true (.ident id) (some body))
    return none
  typeDecl g id.span.lo decs id.name false

/-- The end of an expression statement. -/
def exprStmtEnd (g : Grammar) (lo : Nat) (e : Expr) : Parser Stmt := do
  if ← eatSemicolon then return .expr (← spanFrom lo) e
  match ← token with
  | .punct p =>
    if (binaryOp p).isSome then
      emit .semicolonExpected (← curSpan)
      let joined ← g.binaryRest e 0
      return .expr (← spanFrom lo) joined
    else failAt .expectedSemicolonAfterExpr (← curSpan)
  | _ => failAt .expectedSemicolonAfterExpr (← curSpan)

def exprStmt (g : Grammar) (lo : Nat) (decs : List Expr) : Parser Stmt := do
  let e ← allowIn g.expr
  match e with
  | .ident id =>
    match ← nameStmt g lo decs id with
    | some s => return s
    | none =>
      if ["public", "static", "abstract"].contains id.name && (← eatWord "interface") then
        emit .interfaceName id.span
        interfaceRest g lo
      else exprStmtEnd g lo e
  | e =>
    let e ← verifyExpr e
    exprStmtEnd g lo e

/-- A statement that starts with `await using`: a declaration, or an expression that ends where it
can. -/
def awaitUsing (g : Grammar) (lo : Nat) : Parser Stmt := do
  bump
  match ← usingDecl g lo true with
  | some s => return s
  | none =>
    let e ← awaitRest g lo
    let e ← allowIn (g.binaryRest e 0)
    let _ ← eatSemicolon
    return .expr (← spanFrom lo) e

/-- The keyword statements. -/
def keywordStmt (g : Grammar) (lo : Nat) (decs : List Expr) (withDecl : Bool) (word : String) :
    Parser (Option Stmt) := do
  match word with
  | "break" | "continue" => return some (← jumpStmt)
  | "debugger" =>
    bump
    expectSemicolon
    return some (.debugger (← spanFrom lo))
  | "do" => return some (← doStmt g)
  | "for" => return some (← forStmt g)
  | "function" =>
    unless withDecl do emit .declarationMisplaced (← curSpan)
    return some (← funcDecl g none)
  | "class" =>
    unless withDecl do emit .declarationMisplaced (← curSpan)
    return some (← classDecl g lo decs false)
  | "if" => return some (← ifStmt g)
  | "return" => return some (← returnStmt g)
  | "switch" => return some (← switchStmt g)
  | "throw" => return some (← throwStmt g)
  | "catch" =>
    let span ← curSpan
    emit .semicolonExpected span
    let _ ← orElse (catchClause g) fun _ => return none
    let _ ← orElse (finallyBlock g) fun _ => return none
    return some (.expr span (.invalid span))
  | "finally" =>
    let span ← curSpan
    emit .semicolonExpected span
    let _ ← orElse (finallyBlock g) fun _ => return none
    return some (.expr span (.invalid span))
  | "try" => return some (← tryStmt g)
  | "with" => return some (← withStmt g)
  | "while" => return some (← whileStmt g)
  | "var" => return some (← varDecl g false)
  | "const" =>
    if ← peekIsWord "enum" then
      bump
      bump
      return some (← enumRest g lo true)
    if withDecl then return some (← varDecl g false) else return none
  | "let" => if withDecl && (← atLexicalLet) then return some (← varDecl g false) else return none
  | "using" => if withDecl then usingDecl g lo false else return none
  | "await" =>
    let isTop := (← context).topLevel
    if isTop then modify ({ · with foundModuleItem := true })
    if (isTop || withDecl) && (← peekIsWord "using") then return some (← awaitUsing g lo) else return none
  | "async" =>
    if ← isWordsOnLine "async" "function" then
      bump
      return some (← funcDecl g (some lo))
    else return none
  | _ => return none

/-- One statement, after its decorators. -/
def stmtRest (g : Grammar) (lo : Nat) (decs : List Expr) (withDecl : Bool) : Parser Stmt := do
  match ← token with
  | .word word false =>
    match ← keywordStmt g lo decs withDecl word with
    | some s => return s
    | none =>
      if word == "enum" || word == "interface" then
        let (next, broken) ← peek
        if tokenIsIdentRef (← context) next && !broken then
          bump
          return ← if word == "enum" then enumRest g lo false else interfaceRest g lo
        else exprStmt g lo decs
      else exprStmt g lo decs
  | .punct "\x7b" => return .block (← block g false)
  | .punct ";" =>
    bump
    return .empty (← spanFrom lo)
  | _ => exprStmt g lo decs

/-- A statement where imports and exports cannot stand. -/
def stmtRule (g : Grammar) (withDecl : Bool) : Parser Stmt :=
  inContext ({ · with willExpectColon := false }) do
    let lo ← curLo
    let decs ← decorators g (subscripts g false true)
    if ← isWord "import" then
      let (next, _) ← peek
      if tokenIsPunct "(" next || tokenIsPunct "." next then
        let e ← allowIn g.expr
        let _ ← eatSemicolon
        return .expr (← spanFrom lo) e
      else failAt .importExportInScript (← curSpan)
    else if ← isWord "export" then failAt .importExportInScript (← curSpan)
    else stmtRest g lo decs withDecl

end Detype.Parser
