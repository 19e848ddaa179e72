import Detype.Parser.Functions

/-
**Literals and arguments.**

Templates, arrays, objects and argument lists.
-/

namespace Detype.Parser

/-- An element or argument, spread or not. -/
def exprOrSpread (g : Grammar) : Parser Expr := do
  if ← eatPunct "..." then
    let dots ← prevSpan
    let e ← allowIn g.assign
    return .spread dots e
  else allowIn g.assign

/-- The arguments of a call, with their parentheses. -/
def arguments (g : Grammar) : Parser (List Expr) :=
  inContext ({ · with willExpectColon := false }) do
    expectPunct "("
    let args ← collect (do
      if ← isPunct ")" then return none
      let e ← exprOrSpread g
      unless ← isPunct ")" do expectPunct ","
      return some e) (← loopFuel)
    expectPunct ")"
    return args

/-- The pieces of a template literal. In an untagged one every escape has to be valid. -/
def templateParts (g : Grammar) (tagged : Bool) : Parser (List Quasi × List Expr) := do
  let fuel ← loopFuel
  let (quasis, exprs) ← iterate (fun ((qs : List Quasi), (es : List Expr)) => do
    match ← token with
    | .template raw cooked isTail =>
      let whole ← curSpan
      let cookedValue ← match cooked with
        | .ok v => pure (some v)
        | .error e => if tagged then pure none else failWith e
      let span : Span := ⟨whole.lo + 1, whole.hi - (if isTail then 1 else 2)⟩
      let q : Quasi := { span, raw, cooked := cookedValue }
      bump
      if isTail then return ((q :: qs, es), false)
      let e ← allowIn g.expr
      unless ← isPunct "\x7d" do unexpected "\x60\x7d\x60"
      rescan Lexer.scanTemplate
      match ← token with
      | .error fault => failWith fault
      | _ => return ((q :: qs, e :: es), true)
    | _ => return ((qs, es), false)) fuel (([] : List Quasi), ([] : List Expr))
  return (quasis.reverse, exprs.reverse)

/-- A template literal. -/
def templateLit (g : Grammar) (tagged : Bool) : Parser Expr := do
  let lo ← curLo
  let (quasis, exprs) ← inContext ({ · with willExpectColon := false }) (templateParts g tagged)
  return .template (← spanFrom lo) quasis exprs

/-- Remembers the comma before a closing bracket. -/
def rememberComma (lo : Nat) (comma : Span) : Parser Unit :=
  modify fun s => { s with trailingCommas := (lo, comma) :: s.trailingCommas }

def arrayLit (g : Grammar) : Parser Expr := do
  let lo ← curLo
  bump
  let elems ← inContext ({ · with willExpectColon := false }) do
    collect (do
      if ← isPunct "]" then return none
      let e ← if ← isPunct "," then pure .hole else exprOrSpread g
      unless ← isPunct "]" do
        expectPunct ","
        if ← isPunct "]" then rememberComma lo (← prevSpan)
      return some e) (← loopFuel)
  expectPunct "]"
  return .array (← spanFrom lo) elems

/-- Whether a parameter is a `this` annotation. -/
def isThisParam (p : Pat) : Bool :=
  match p.undecorated.untyped with
  | .ident id => id.name == "this"
  | _ => false

/-- The parameters of a getter, which has none. -/
def getterParams (g : Grammar) (keySpan : Span) : Parser (List Pat) := do
  let ps ← g.params
  if ps.any (!isThisParam ·) then emit .getterParams keySpan
  return ps

/-- The parameters of a setter, which has one. -/
def setterParams (g : Grammar) (keySpan : Span) : Parser (List Pat) := do
  let ps ← g.params
  if (ps.filter (!isThisParam ·)).length != 1 then emit .setterParams keySpan
  if let some (.rest span _ _) := ps.head?.map fun p : Pat => p.undecorated.untyped then emit .restInSetter span
  return ps

/-- A getter, setter or asynchronous method, after its first word. -/
def accessorProp (g : Grammar) (lo : Nat) (word : String) : Parser Expr := do
  let isGenerator ← if word == "async" then eatPunct "*" else pure false
  let key ← propName g
  let keySpan := key.span
  if word == "get" then
    let f ← g.functionRest lo false false (getterParams g keySpan)
    return .propMethod (← spanFrom lo) .getter key { f with params := [], types := Ty.withoutParams f.types }
  else if word == "set" then
    let f ← g.functionRest lo false false (setterParams g keySpan)
    let params := match f.params.map Pat.undecorated with
      | [] => [.invalid {}]
      | ps => ps.take 2
    return .propMethod (← spanFrom lo) .setter key { f with params, types := [] }
  else
    let f ← g.functionRest lo true isGenerator g.params
    return .propMethod (← spanFrom lo) .method key f

/-- A property of an object literal. -/
def objectProp (g : Grammar) : Parser Expr := do
  let lo ← curLo
  if ← eatPunct "..." then
    let dots ← prevSpan
    return .spread dots (← allowIn g.assign)
  if ← eatPunct "*" then
    let key ← propName g
    let f ← g.functionRest lo false true g.params
    return .propMethod (← spanFrom lo) .method key f
  let hasModifier ← eatParamModifier
  let modifierSpan ← prevSpan
  let key ← propName g
  let isName := match key with | .keyName _ => true | _ => false
  let known ← match ← token with
    | .punct "\x7d" => pure isName
    | .punct p => pure (["(", "[", ":", ",", "?", "=", "*", "<"].contains p)
    | .word _ _ | .str _ _ | .num _ _ => pure true
    | _ => pure false
  if !known then
    emit .semicolonExpected (← curSpan)
    return .propValue key (.invalid (← spanFrom lo))
  if ← eatPunct ":" then
    let value ← allowIn g.assign
    return .propValue key value
  if (← isPunct "(") || (← isOpenAngle) then
    let f ← g.functionRest lo false false g.params
    return .propMethod (← spanFrom lo) .method key f
  match key with
  | .keyName id =>
    if ← eatPunct "?" then emit .optionalMember (← prevSpan)
    if (← isPunct "=") || (← isPunct ",") || (← isPunct "\x7d") then
      if ← eatPunct "=" then
        let value ← allowIn g.assign
        return .propDefault (← spanFrom lo) id value
      return .propShorthand id
    if id.name == "get" || id.name == "set" || id.name == "async" then
      if hasModifier then emit .modifierBeforeAccessor modifierSpan
      accessorProp g lo id.name
    else unexpected "... , *,  (, [, :, , ?, =, an identifier, public, protected, private, readonly, <."
  | _ => unexpected "identifier"

def objectLit (g : Grammar) : Parser Expr := do
  let lo ← curLo
  expectPunct "\x7b"
  let props ← inContext ({ · with willExpectColon := false }) do
    collect (do
      if ← isPunct "\x7d" then return none
      let p ← objectProp g
      unless ← isPunct "\x7d" do
        expectPunct ","
        if ← isPunct "\x7d" then rememberComma lo (← prevSpan)
      return some p) (← loopFuel)
  expectPunct "\x7d"
  return .object (← spanFrom lo) props

/-- Decorators in front of a class, a member or a parameter. -/
def decorators (g : Grammar) (subscripts : Expr → Parser Expr) : Parser (List Expr) := do
  let one : Parser Expr := do
    bump
    let e ← if ← eatPunct "(" then do
        let e ← g.expr
        expectPunct ")"
        pure e
      else do
        let id ← ident false false
        subscripts (.ident id)
    let generic ← isPunct "<"
    let types ← if generic then typeArgs g else pure []
    if generic || (← isPunct "(") then
      let args ← arguments g
      return .call (← spanFrom e.span.lo) e args types
    return e
  collect (do if ← isPunct "@" then return some (← one) else return none) (← loopFuel)

end Detype.Parser
