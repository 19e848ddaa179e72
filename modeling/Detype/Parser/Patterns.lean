import Detype.Parser.Types

/-
**Patterns.**

Binding patterns, formal parameters, and expressions that turn out to be patterns.

* `Parser.bindingPatRule` — a pattern that declares names.
* `Parser.asPatternRule` — an expression read again as a pattern.
* `Parser.paramList` — parameters, such as those of a function (`Parser.formalParam`).
-/

namespace Detype.Parser

/-- A pattern with a default value, if one follows. -/
def withDefault (g : Grammar) (lo : Nat) (left : Pat) : Parser Pat := do
  if ← eatPunct "=" then
    let right ← allowIn g.assign
    if (← context).inDeclare then emit .paramInitializer (← spanFrom lo)
    return .assign (← spanFrom lo) left right
  else return left

/-- One element of an array pattern. -/
def arrayPatElement (g : Grammar) : Parser Pat := do
  let lo ← curLo
  if ← eatPunct "..." then
    let dots ← prevSpan
    let arg ← g.bindingPat false
    return .rest (← spanFrom lo) dots arg
  let left ← g.bindingPat false
  withDefault g lo left

/-- The question mark after a pattern, which only ambient code may have. -/
def eatAmbientQuestion : Parser Unit := do
  if (← context).inDeclare then
    let _ ← eatPunct "?"

def arrayPat (g : Grammar) : Parser Pat := do
  let lo ← curLo
  bump
  let (elems, _) ← iterate (fun ((acc : List Pat), (restSpan : Option Span)) => do
    if ← isPunct "]" then return ((acc, restSpan), false)
    if ← eatPunct "," then return ((.hole :: acc, restSpan), true)
    match restSpan with
    | some span => emit .restNotLast span
    | none => pure ()
    let e ← arrayPatElement g
    let isRest := match e with | .rest _ _ _ => true | _ => false
    unless ← isPunct "]" do
      expectPunct ","
      if isRest && (← isPunct "]") then emit .commaAfterRest (← prevSpan)
    return ((e :: acc, bif isRest then some e.span else restSpan), true))
    (← loopFuel) (([] : List Pat), none)
  expectPunct "]"
  eatAmbientQuestion
  return .array (← spanFrom lo) elems.reverse

/-- One property of an object pattern. -/
def objectPatProp (g : Grammar) : Parser Pat := do
  let lo ← curLo
  if ← eatPunct "..." then
    let dots ← prevSpan
    let arg ← g.bindingPat false
    return .rest (← spanFrom lo) dots arg
  let key ← propName g
  if ← eatPunct ":" then
    let valueLo ← curLo
    let value ← g.bindingPat false
    return .propValue key (← withDefault g valueLo value)
  match key with
  | .keyName id =>
    let default ← if ← eatPunct "=" then some <$> allowIn g.assign else pure none
    return .propShorthand (← spanFrom lo) id default
  | _ => unexpected "an identifier"

/-- Checks the rest among the properties of an object pattern, which comes last and has a name. -/
def checkObjectRest (comma : Option Span) : List Pat → Parser Unit
  | [] => return
  | [.rest _ _ (.ident _)] => do
    match comma with
    | some span => emit .commaAfterRest span
    | none => pure ()
  | [.rest span _ _] => failAt .restWithoutName span
  | .rest span _ _ :: rest => do
    emit .restNotLast span
    checkObjectRest comma rest
  | _ :: rest => checkObjectRest comma rest

def objectPat (g : Grammar) : Parser Pat := do
  let lo ← curLo
  bump
  let (props, comma) ← iterate (fun ((acc : List Pat), (comma : Option Span)) => do
    if ← isPunct "\x7d" then return ((acc, comma), false)
    let p ← objectPatProp g
    if ← isPunct "\x7d" then return ((p :: acc, comma), true)
    expectPunct ","
    let comma ← if ← isPunct "\x7d" then some <$> prevSpan else pure none
    return ((p :: acc, comma), true)) (← loopFuel) (([] : List Pat), none)
  expectPunct "\x7d"
  let span ← spanFrom lo
  checkObjectRest comma props.reverse
  eatAmbientQuestion
  return .object span props.reverse

/-- A pattern that declares names. -/
def bindingPatRule (g : Grammar) (disallowLet : Bool) : Parser Pat := do
  match ← token with
  | .word _ _ => return .ident (← bindingIdent disallowLet)
  | .punct "[" => arrayPat g
  | .punct "\x7b" => objectPat g
  | .error e => stopAtError e
  | _ => unexpected "yield, an identifier, [ or \x7b"

/-- A pattern with the type after it, if there is one. -/
def withType : Option Ty → Pat → Pat
  | some type, p => .typed p type
  | none, p => p

/-- Gives a pattern a longer extent. -/
def respan (span : Span) : Pat → Pat
  | .ident id => .ident { id with span }
  | .array _ es => .array span es
  | .object _ ps => .object span ps
  | .rest _ d a => .rest span d a
  | p => p

/-- A type annotation after a pattern, which then belongs to its extent. -/
def typedPat (g : Grammar) (lo : Nat) (p : Pat) : Parser Pat := do
  match ← optTypeAnn g with
  | some type => return .typed (respan (← spanFrom lo) p) type
  | none => return p

/-- A parameter without its decorators. -/
def paramPat (g : Grammar) : Parser Pat := do
  let lo ← curLo
  let hasModifier ← eatParamModifier
  let patLo ← curLo
  let pat ← g.bindingPat false
  let optional ← eatPunct "?"
  let pat ← typedPat g patLo pat
  let result ← if ← eatPunct "=" then do
      if optional then emit .optionalWithDefault pat.span
      let right ← g.assign
      let span ← spanFrom lo
      if (← context).inDeclare then emit .paramInitializer span
      pure (.assign span pat right)
    else pure pat
  if hasModifier then emit .paramProperty (← spanFrom lo)
  return result

/-- A rest parameter, after its dots. -/
def restParam (g : Grammar) (lo : Nat) : Parser Pat := do
  let dots ← prevSpan
  let arg ← g.bindingPat false
  let arg ← if ← eatPunct "=" then do
      let right ← g.assign
      emit .restDefault arg.span
      pure (.assign (← spanFrom lo) arg right)
    else pure arg
  let type ← optTypeAnn g
  let span ← spanFrom lo
  if ← eatPunct "?" then emit .restOptional (← prevSpan)
  return withType type (.rest span dots arg)

/-- Parameters up to the closing parenthesis, each read by a given rule after its decorators. -/
def paramList (decorators : Parser (List Expr)) (one : Nat → List Expr → Parser Pat) :
    Parser (List Pat) := do
  let step (restSpan : Option Span) : Parser (Option (Pat × Option Span)) := do
    if ← isPunct ")" then return none
    match restSpan with
    | some span => emit .restParamNotLast span
    | none => pure ()
    let lo ← curLo
    let decs ← decorators
    let p ← one lo decs
    let rest : Option Span := match p.undecorated.untyped with
      | .rest s _ _ => some s
      | _ => none
    unless ← isPunct ")" do
      expectPunct ","
      if rest.isSome && (← isPunct ")") then emit .commaAfterRest (← prevSpan)
    return some (p, rest)
  let (ps, _) ← iterate (fun (acc, rest) => do
    match ← step rest with
    | none => return ((acc, rest), false)
    | some (p, rest') => return ((p :: acc, rest'), true)) (← loopFuel) (([] : List Pat), none)
  return ps.reverse

/-- A parameter of an ordinary function. -/
def formalParam (g : Grammar) (lo : Nat) (decorators : List Expr) : Parser Pat := do
  let patLo ← curLo
  let pat ← if ← eatPunct "..." then restParam g patLo else paramPat g
  return .param (← spanFrom lo) decorators false pat

/-- A parameter of a constructor, which may declare a field. -/
def constructorParam (g : Grammar) (lo : Nat) (decorators : List Expr) : Parser Pat := do
  let patLo ← curLo
  if ← eatPunct "..." then
    let dots ← prevSpan
    let arg ← g.bindingPat false
    let type ← optTypeAnn g
    let pat := withType type (.rest (← spanFrom patLo) dots arg)
    return .param (← spanFrom lo) decorators false pat
  let access ← accessModifier
  let isOverride := (← modifier ["override"] false).isSome
  let isReadonly := (← modifier ["readonly"] false).isSome
  let declares := access.isSome || isOverride || isReadonly
  let pat ← paramPat g
  if declares then
    match pat.untyped with
    | .ident _ | .assign _ _ _ => pure ()
    | p => failAt .paramPropertyPattern p.span
  return .param (← spanFrom lo) decorators declares pat

/-! ### Expressions read again as patterns -/

mutual

/-- The names that a pattern declares. -/
def boundNames : Pat → List Ident
  | .ident id => [id]
  | .array _ ps | .object _ ps => boundNamesAll ps
  | .rest _ _ p | .assign _ p _ | .propValue _ p | .param _ _ _ p | .typed p _ => boundNames p
  | .propShorthand _ id _ => [id]
  | .expr _ | .invalid _ | .hole => []

def boundNamesAll : List Pat → List Ident
  | [] => []
  | p :: ps => boundNames p ++ boundNamesAll ps

end

/-- Notes parameters with a name that strict code keeps for itself. -/
def checkStrictParams (params : List Pat) : Parser Unit := do
  if (← context).strict then
    for id in boundNamesAll params do
      if id.name == "eval" || id.name == "arguments" then emitStrict .evalOrArgumentsInStrict id.span

/-- Whether assignment to an expression is allowed. -/
def isSimpleTarget (strict : Bool) : Expr → Bool
  | .ident id => !(strict && (id.name == "eval" || id.name == "arguments"))
  | .typed _ .asConst _ _ => false
  | .paren _ e | .typed _ _ e _ => isSimpleTarget strict e
  | .member _ obj _ =>
    match obj with
    | .member _ _ _ => isSimpleTarget strict obj
    | .optChain _ _ _ => false
    | _ => true
  | _ => false

/-- Notes an operand that cannot be assigned to. -/
def checkTarget (e : Expr) : Parser Unit := do
  unless isSimpleTarget (← context).strict e do emit .invalidOperand e.span
  match e with
  | .ident id => if id.name == "eval" || id.name == "arguments" then emitStrict .argumentsInStrict e.span
  | _ => pure ()

/-- The last comma of a bracketed list, if it ended with one. -/
def trailingComma (lo : Nat) : Parser (Option Span) := do
  return ((← get).trailingCommas.find? (·.1 == lo)).map (·.2)

/-- A property of an object literal, read again. -/
def propAsPattern (g : Grammar) (use : PatternUse) (objectLo : Nat) (isLast : Bool) (prop : Expr) :
    Parser Pat := do
  match prop with
  | .propShorthand id => return .propShorthand id.span id none
  | .propValue key value => return .propValue key (← g.asPattern use.element value)
  | .propDefault span id value => return .propShorthand span id (some value)
  | .spread dots e =>
    let span := prop.span
    if !isLast then emit .restNotLast span
    else
      match ← trailingComma objectLo with
      | some comma => emit .commaAfterRest comma
      | none => pure ()
    let arg ← match use.element, e with
      | .bindingElement, .ident id => pure (.ident id)
      | .bindingElement, _ => do
        emit .restWithoutName span
        pure (.invalid span)
      | use, e => g.asPattern use e
    match arg with
    | .assign _ _ _ => emit .restDefault span
    | _ => pure ()
    return .rest span dots arg
  | p => failAt .notAPattern p.span

/-- The elements of an array literal, read again. A rest may only be the very last of them; elements
left out at the end count, though they are dropped. -/
def elementsAsPatterns (g : Grammar) (use : PatternUse) (arraySpan : Span) (holesDropped : Bool) :
    List Expr → Parser (List Pat)
  | [] => return []
  | .spread dots e :: rest => do
    if holesDropped || !rest.isEmpty then
      emit .restNotLast e.span
      elementsAsPatterns g use arraySpan holesDropped rest
    else
      match e with
      | .assign _ _ _ _ => emit .restDefault ⟨dots.lo, e.span.hi⟩
      | _ => pure ()
      match ← trailingComma arraySpan.lo with
      | some comma => emit .commaAfterRest comma
      | none => pure ()
      return [.rest e.span dots (← g.asPattern use.element e)]
  | .hole :: rest => return .hole :: (← elementsAsPatterns g use arraySpan holesDropped rest)
  | e :: rest =>
    return (← g.asPattern use.element e) :: (← elementsAsPatterns g use arraySpan holesDropped rest)

/-- The target of a plain assignment as an expression or pattern. -/
def invalidPat (span : Span) : Parser Pat := do
  emit .notAPattern span
  return .invalid span

/-- Drops the holes at the end of a list of elements. -/
def dropTrailingHoles (elems : List Expr) : List Expr :=
  (elems.reverse.dropWhile fun e => match e with | .hole => true | _ => false).reverse

/-- An expression read again as a pattern, once its form is known to allow that. -/
def shapeAsPattern (g : Grammar) (use : PatternUse) (e : Expr) : Parser Pat := do
  match e with
  | .ident id => return .ident id
  | .assign span .assign target value =>
    let left ← match target with
      | .expr inner => g.asPattern use.element inner
      | p => pure p
    return .assign span left value
  | .object span props =>
    let count := props.length
    let rec go (i : Nat) : List Expr → Parser (List Pat)
      | [] => return []
      | p :: ps => do
        let q ← propAsPattern g use span.lo (i + 1 == count) p
        return q :: (← go (i + 1) ps)
    return .object span (← go 0 props)
  | .array span elems =>
    let kept := dropTrailingHoles elems
    return .array span (← elementsAsPatterns g use span (kept.length < elems.length) kept)
  | e => invalidPat e.span

/-- An expression read again as a pattern. -/
def asPatternRule (g : Grammar) (use : PatternUse) (e : Expr) : Parser Pat := do
  match use, e with
  | _, .invalid span => return .invalid span
  | .assign, .object _ _ | .assign, .array _ _ => shapeAsPattern g use e
  | .assign, .ident id =>
    checkTarget e
    return .ident id
  | .assign, _ =>
    checkTarget e
    return .expr e
  | .assignElement, .member _ _ _ | .assignElement, .call _ _ _ _ | .assignElement, .new _ _ _ _ _
  | .assignElement, .null _ | .assignElement, .bool _ _ | .assignElement, .num _
  | .assignElement, .str _ | .assignElement, .bigint _ _ | .assignElement, .regex _ _ _
  | .assignElement, .ident _ | .assignElement, .func _ _ | .assignElement, .classExpr _ _
  | .assignElement, .paren _ _ | .assignElement, .template _ _ _ | .assignElement, .typed _ _ _ _ =>
    unless isSimpleTarget (← context).strict e do emit .assignToThis e.span
    match e with
    | .ident id => return .ident id
    | e => return .expr e
  | _, _ => shapeAsPattern g use e

end Detype.Parser
