import Detype.Parser.Basic

/-
**Names.**

Identifiers in their several roles, property names and the names of imports and exports.

* `Parser.ident` — a variable name, with the checks that strict and asynchronous code ask for.
* `Parser.propName` — a property name, written, quoted, numeric or computed.
* `Parser.modifier` — a modifier word, if what follows lets it be one.
-/

namespace Detype.Parser

/-- Any word, reserved or not. -/
def identName : Parser Ident := do
  match ← token with
  | .word text _ =>
    let span ← curSpan
    bump
    return { name := text, span }
  | _ => failAt .expectedIdent (← curSpan)

/-- Words that strict code may not use as names. -/
def strictWords : List String :=
  ["yield", "let", "static", "implements", "interface", "package", "private", "protected", "public"]

/-- A variable name. -/
def ident (withYield withAwait : Bool) : Parser Ident := do
  match ← token with
  | .word text escaped =>
    let span ← curSpan
    bump
    if escaped then return { name := text, span }
    let c ← context
    if text == "enum" then emit (.identInStrict text) span
    if strictWords.contains text then emitStrict (.identInStrict text) span
    if text == "await" then
      if c.inDeclare then return { name := text, span }
      if c.inStaticBlock then failAt .expectedIdent span
      if c.inAsync || c.isModule then failAt .awaitAsIdent span
      unless withAwait do failAt .expectedIdent span
    else if text == "yield" then
      unless withYield do failAt .expectedIdent span
    else if text == "this" then pure ()
    else if text != "let" && Token.reservedWords.contains text then failAt .expectedIdent span
    if text == "arguments" && c.inClassField then emit .argumentsInField span
    return { name := text, span }
  | _ => failAt .expectedIdent (← curSpan)

/-- A name that is being declared. -/
def bindingIdent (disallowLet : Bool) : Parser Ident := do
  if disallowLet then
    if ← isWord "let" then failAt .letReserved (← curSpan)
  let id ← ident true true
  if id.name == "eval" || id.name == "arguments" then emitStrict .evalOrArgumentsInStrict id.span
  let c ← context
  if (c.inAsync || c.inStaticBlock) && id.name == "await" then emit .expectedIdent id.span
  if c.inGenerator && id.name == "yield" then emit .expectedIdent id.span
  return id

/-- A declared name that may be missing. -/
def optBindingIdent (required disallowLet : Bool) : Parser (Option Ident) := do
  if required || (← isIdentRef) || (← isWord "this") then return some (← bindingIdent disallowLet)
  else return none

/-- A name after a hash sign, which is the current token. -/
def privateName : Parser Ident := do
  let lo ← curLo
  let hashSpan ← curSpan
  bump
  if (← curLo) != hashSpan.hi then failAt .spaceAfterHash (← spanFrom lo)
  let id ← identName
  return { name := id.name, span := ← spanFrom lo }

/-- The name after a dot: plain or private. -/
def memberName : Parser Expr := do
  if ← isPunct "#" then return .keyPrivate (← privateName)
  else return .keyName (← identName)

def allowIn (p : Parser α) : Parser α := inContext ({ · with includeIn := true }) p

/-- A property name. -/
def propName (g : Grammar) : Parser Expr := do
  let lo ← curLo
  match ← token with
  | .str value raw =>
    let span ← curSpan
    bump
    return .str { value, span, raw := some raw }
  | .num value raw =>
    let span ← curSpan
    bump
    return .num { value, span, raw := some raw }
  | .bigint raw =>
    let span ← curSpan
    bump
    return .bigint span raw
  | .word _ _ => return .keyName (← identName)
  | .punct "[" =>
    bump
    let innerLo ← curLo
    let first ← allowIn g.assign
    let e ← if ← isPunct "," then do
        let rest ← collect (do
          if ← eatPunct "," then return some (← allowIn g.assign) else return none) (← loopFuel)
        let span ← spanFrom innerLo
        emit .commaInComputedKey span
        pure (.seq span (first :: rest))
      else pure first
    expectPunct "]"
    return .keyComputed (← spanFrom lo) e
  | _ => unexpected "identifier, string literal, numeric literal or [ for the computed key"

/-- A property name of a class. -/
def classPropName (g : Grammar) : Parser Expr := do
  if ← isPunct "#" then
    let id ← privateName
    if id.name == "constructor" then emit .privateConstructor id.span
    return .keyPrivate id
  else propName g

/-- The name of an export: a word or a string. -/
def exportName : Parser ExportName := do
  match ← token with
  | .str value raw =>
    let span ← curSpan
    bump
    return .str { value, span, raw := some raw }
  | .word _ _ => return .ident (← identName)
  | _ => unexpected "identifier or string"

/-- Whether the current token, on the line of the one before, can follow a modifier. -/
def canFollowModifier : Parser Bool := do
  if ← hadLineBreak then return false
  match ← token with
  | .word _ _ | .str _ _ | .num _ _ | .bigint _ => return true
  | .punct p => return p == "[" || p == "\x7b" || p == "*" || p == "..." || p == "#"
  | _ => return false

/-- One of the given modifiers, if what follows lets the word be one. Where a modifier may stand the
text cannot end. -/
def modifier (allowed : List String) (stopAtStaticBlock : Bool) : Parser (Option String) := do
  match ← token with
  | .error e => stopAtError e
  | .eof => failAt .unexpectedEof (← curSpan)
  | .word text false =>
    if allowed.contains text then
      if stopAtStaticBlock && text == "static" && (← peekIsPunct "\x7b") then return none
      tryParse do
        bump
        if ← canFollowModifier then return some text else return none
    else return none
  | _ => return none

def accessModifier : Parser (Option String) := modifier ["public", "protected", "private"] false

/-- Skips a modifier of a parameter. -/
def eatParamModifier : Parser Bool := do
  match ← token with
  | .word text false =>
    if ["public", "protected", "private", "readonly"].contains text then
      let (next, _) ← peek
      if tokenIsAnyWord next || tokenIsPunct "\x7b" next || tokenIsPunct "[" next then
        let _ ← modifier ["public", "protected", "private", "readonly"] false
        return true
      else return false
    else return false
  | _ => return false

/-- A string literal. -/
def strLit : Parser Str := do
  match ← token with
  | .str value raw =>
    let span ← curSpan
    bump
    return { value, span, raw := some raw }
  | _ => unexpected "a string literal"

end Detype.Parser
