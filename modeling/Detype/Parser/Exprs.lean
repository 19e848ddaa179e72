import Detype.Parser.Literals

/-
**Expressions.**

Operators by precedence, member access and calls, parentheses and arrow functions.

* `Parser.assignRule` — an expression without commas.
* `Parser.parenOrArrow` — a parenthesis, which may begin an arrow function.
* `Parser.subscripts` — what follows an operand without an operator.
-/

namespace Detype.Parser

/-! ### Operators -/

def binaryOp : String → Option BinaryOp
  | "==" => some .eqEq | "!=" => some .notEq | "===" => some .eqEqEq | "!==" => some .notEqEq
  | "<" => some .lt | "<=" => some .ltEq | ">" => some .gt | ">=" => some .gtEq
  | "<<" => some .shl | ">>" => some .shr | ">>>" => some .ushr
  | "+" => some .add | "-" => some .sub | "*" => some .mul | "/" => some .div | "%" => some .mod
  | "|" => some .bitOr | "^" => some .bitXor | "&" => some .bitAnd
  | "||" => some .or | "&&" => some .and | "**" => some .exp | "??" => some .nullish
  | _ => none

/-- How strongly a binary operator binds. -/
def precedence : BinaryOp → Nat
  | .nullish | .or => 1
  | .and => 2
  | .bitOr => 3
  | .bitXor => 4
  | .bitAnd => 5
  | .eqEq | .notEq | .eqEqEq | .notEqEq => 6
  | .lt | .ltEq | .gt | .gtEq | .isIn | .instanceOf => 7
  | .shl | .shr | .ushr => 8
  | .add | .sub => 9
  | .mul | .div | .mod => 10
  | .exp => 11

def assignOp : String → Option AssignOp
  | "=" => some .assign
  | "+=" => some (.compound .add) | "-=" => some (.compound .sub) | "*=" => some (.compound .mul)
  | "/=" => some (.compound .div) | "%=" => some (.compound .mod) | "<<=" => some (.compound .shl)
  | ">>=" => some (.compound .shr) | ">>>=" => some (.compound .ushr) | "|=" => some (.compound .bitOr)
  | "^=" => some (.compound .bitXor) | "&=" => some (.compound .bitAnd) | "**=" => some (.compound .exp)
  | "&&=" => some (.compound .and) | "||=" => some (.compound .or) | "??=" => some (.compound .nullish)
  | _ => none

/-- The binary operator at the current token. -/
def tokenBinaryOp (c : Context) : Token → Option BinaryOp
  | .punct p => binaryOp p
  | .word "in" false => if c.includeIn then some .isIn else none
  | .word "instanceof" false => some .instanceOf
  | _ => none

def isArrow : Expr → Bool
  | .arrow _ _ _ _ _ => true
  | _ => false

def isOptChain : Expr → Bool
  | .optChain _ _ _ => true
  | .typed _ .nonNull e _ => isOptChain e
  | _ => false

/-! ### Expressions in full -/

/-- Expressions divided by commas. -/
def exprRule (g : Grammar) : Parser Expr := do
  let first ← g.assign
  if ← isPunct "," then
    let rest ← collect (do
      if ← eatPunct "," then return some (← g.assign) else return none) (← loopFuel)
    return .seq (← spanFrom first.span.lo) (first :: rest)
  return first

/-- Whether an expression has the form of something to assign to. -/
def isAssignTarget : Expr → Bool
  | .typed _ .asConst _ _ => false
  | .member _ _ _ | .paren _ _ | .optChain _ _ _ | .typed _ _ _ _ | .ident _ => true
  | _ => false

/-- The assignment that an expression starts, if an assignment operator follows. -/
def finishAssign (g : Grammar) (lo : Nat) (left : Expr) : Parser Expr := do
  match ← token with
  | .punct p =>
    match assignOp p with
    | none => return left
    | some .assign =>
      let target ← g.asPattern .assign left
      match target with
      | .expr e =>
        unless isAssignTarget e do failAt .invalidAssignTarget e.span
      | _ => pure ()
      bump
      let value ← g.assign
      return .assign (← spanFrom lo) .assign target value
    | some op =>
      let strict := (← context).strict
      unless isSimpleTarget strict left do emit .invalidOperand left.span
      match left with
      | .ident id =>
        if id.name == "eval" || id.name == "arguments" then emitStrict .argumentsInStrict left.span
      | e => unless isAssignTarget e do failAt .invalidAssignTarget e.span
      bump
      let value ← g.assign
      let target : Pat := match left with
        | .ident id => .ident id
        | e => .expr e
      return .assign (← spanFrom lo) op target value
  | _ => return left

/-- A conditional expression, once its test has been read. -/
def condRest (g : Grammar) (lo : Nat) (test : Expr) : Parser Expr := do
  let whenTrue ← inContext ({ · with inCond := true, willExpectColon := true, includeIn := true }) g.assign
  expectPunct ":"
  let whenFalse ← inContext ({ · with inCond := true, willExpectColon := false }) g.assign
  return .cond ⟨lo, whenFalse.span.hi⟩ test whenTrue whenFalse

def condRule (g : Grammar) : Parser Expr := do
  let lo ← curLo
  let test ← g.binary
  if isArrow test then return test
  if ← eatPunct "?" then condRest g lo test else return test

/-- The reserved words that an expression can start with. -/
def exprWords : List String :=
  ["await", "class", "delete", "false", "function", "import", "new", "null", "super", "this", "throw", "true",
   "typeof", "void", "yield"]

/-- Whether an expression can start at the current token. -/
def startsExpr : Parser Bool := do
  match ← token with
  | .word t escaped => return escaped || exprWords.contains t || !Token.reservedWords.contains t
  | .num _ _ | .str _ _ | .bigint _ | .template _ _ _ | .regex _ _ => return true
  | .punct p =>
    return ["(", "[", "\x7b", "+", "-", "!", "~", "++", "--", "/", "/=", "<", "@", "#"].contains p
  | _ => return false

def yieldRule (g : Grammar) : Parser Expr := do
  let lo ← curLo
  bump
  let c ← context
  if c.inParameters && !c.inFunction then failAt .yieldParam (← prevSpan)
  if (← isSemicolon) || !((← isPunct "*") || (← startsExpr)) then
    return .yield (← spanFrom lo) false none
  let delegate ← eatPunct "*"
  let arg ← g.assign
  return .yield (← spanFrom lo) delegate (some arg)

/-- An arrow function that starts with type parameters, if there is one. -/
def genericArrow (g : Grammar) : Parser (Option Expr) := do
  if ← isPunct "<" then
    let (next, _) ← peek
    if tokenIsAnyWord next then
      inContext ({ · with willExpectColon := false }) <| tryParse do
        let lo ← curLo
        let generics ← typeParams g false true
        match ← g.assign with
        | .arrow span isAsync params body types =>
          let types := generics.map Prod.fst ++ Ty.withoutParams types
          return some (.arrow ⟨lo, span.hi⟩ isAsync params body types)
        | _ => unexpected "("
    else return none
  else return none

/-- Marks the current place as one where an arrow function may begin. -/
def markArrow : Parser Unit := do
  let lo ← curLo
  let starts ← match ← token with
    | .word _ _ => pure true
    | .punct p => pure (p == "(" || p == "<")
    | _ => pure false
  modify ({ · with arrowStart := if starts then some lo else none })

/-- An expression without commas. -/
def assignRule (g : Grammar) : Parser Expr := do
  match ← genericArrow g with
  | some e => return e
  | none =>
    if (← context).inGenerator && (← isWord "yield") then return ← yieldRule g
    if let .error e ← token then stopAtError e
    markArrow
    let lo ← curLo
    let e ← condRule g
    match e with
    | .arrow _ _ _ _ _ | .cond _ _ _ _ | .binary _ _ _ _ | .unary _ _ _ | .update _ _ _ _ => return e
    | e => finishAssign g lo e

/-! ### Binary operators -/

def isLogical : BinaryOp → Bool
  | .or | .and => true
  | _ => false

/-- One more binary operator to the right of an operand, if it binds more strongly than `min`. -/
def binaryStep (g : Grammar) (min : Nat) (left : Expr) : Parser (Expr × Bool) := do
  let broken ← hadLineBreak
  if !broken && precedence .isIn > min && (← isWord "as") then
    if ← peekIsWord "const" then
      bump
      bump
      return (.typed (← spanFrom left.span.lo) .asConst left [], true)
    bump
    let type ← g.type
    return (.typed (← spanFrom left.span.lo) .asType left [type], true)
  if !broken && (← isWord "satisfies") then
    bump
    let type ← g.type
    return (.typed (← spanFrom left.span.lo) .satisfies left [type], true)
  match tokenBinaryOp (← context) (← token) with
  | none => return (left, false)
  | some op =>
    if precedence op ≤ min then return (left, false)
    bump
    if op == .exp then
      match left with
      | .unary _ _ _ | .await _ _ => failAt .unaryBeforePower (← curSpan)
      | _ => pure ()
    let operand ← g.unary
    let right ← g.binaryRest operand (if op == .exp then precedence op - 1 else precedence op)
    if op == .nullish then
      for side in [left, right] do
        match side with
        | .binary span inner _ _ => if isLogical inner then emit .nullishMix span
        | _ => pure ()
    let span : Span := ⟨left.span.lo, right.span.hi⟩
    if isLogical op then
      match left with
      | .binary _ .nullish _ _ => emit .nullishMix span
      | _ => pure ()
    return (.binary span op left right, true)

def binaryRestRule (g : Grammar) (left : Expr) (min : Nat) : Parser Expr := do
  iterate (binaryStep g min) (← loopFuel) left

/-- Operands joined by binary operators. A missing first operand is noted and passed over. -/
def binaryRule (g : Grammar) : Parser Expr := do
  let left ← orElse g.unary fun e => do
    if let .error inner ← token then stopAtError inner
    if (tokenBinaryOp (← context) (← token)).isSome then
      emit .expressionExpected (← curSpan)
      return .invalid e.span
    else failWith e
  if isArrow left then return left
  g.binaryRest left 0

/-! ### Member access and calls -/

/-- A member access or call, part of an optional chain where its object is. -/
def chained (optional : Bool) (obj : Expr) (span : Span) (e : Expr) : Expr :=
  if optional || isOptChain obj then .optChain span optional e else e

/-- Parameters and body of a generic asynchronous arrow function, after its word `async`. -/
def genericAsyncArrow (g : Grammar) (lo : Nat) : Parser (Option Expr) := tryParse do
  let generics ← typeParams g false true
  expectPunct "("
  let ps ← inContext ({ · with inAsync := true, inParameters := true }) g.params
  expectPunct ")"
  let result ← optReturnType g
  expectPunct "=>"
  return some (← arrowRest g lo true (ps.map Pat.undecorated) (generics.map Prod.fst ++ result.toList))

/-- Type arguments after an operand: of a call, of a template, or by themselves. -/
def typeArgsSubscript (g : Grammar) (noCall : Bool) (obj : Expr) : Parser (Option (Expr × Bool)) := tryParse do
  let lo := obj.span.lo
  if !noCall then
    match obj with
    | .ident id =>
      if id.name == "async" then
        match ← genericAsyncArrow g lo with
        | some e => return some (e, true)
        | none => pure ()
    | _ => pure ()
  let types ← typeArgs g
  if !noCall && (← isPunct "(") then
    let args ← arguments g
    let span ← spanFrom lo
    return some (chained false obj span (.call span obj args types), true)
  match ← token with
  | .template _ _ _ =>
    let t ← templateLit g true
    return some (.tagged (← spanFrom lo) obj t types, true)
  | _ =>
    if (← isPunct "=") || (← isWord "as") || (← isWord "satisfies") then
      return some (.typed (← spanFrom lo) .instantiation obj types, false)
    unexpected "( or \x60"

/-- One member access, call or template after an operand. -/
def subscript (g : Grammar) (noCall noComputed : Bool) (obj : Expr) : Parser (Expr × Bool) := do
  let lo := obj.span.lo
  if (← isPunct "!") && !(← hadLineBreak) then
    bump
    match obj with
    | .superRef _ => failAt (.nonNullTarget "super") (← curSpan)
    | .importRef _ _ => failAt (.nonNullTarget "import") (← curSpan)
    | _ => return (.typed (← spanFrom lo) .nonNull obj [], true)
  if ← isOpenAngle then
    match ← typeArgsSubscript g noCall obj with
    | some r => return r
    | none => pure ()
  let optional ← eatPunct "?."
  let optionalSpan ← prevSpan
  let checkSuper : Parser Unit := match obj with
    | .superRef _ =>
      if !optional then pure ()
      else if noCall then failAt .superCallMisplaced optionalSpan
      else failAt .superMisplaced optionalSpan
    | _ => pure ()
  let types ← if optional && (← isOpenAngle) then typeArgs g else pure []
  if !noComputed && (← isPunct "[") then
    let bracketLo ← curLo
    bump
    let key ← inContext ({ · with willExpectColon := false }) (allowIn g.expr)
    expectPunct "]"
    checkSuper
    let span ← spanFrom lo
    let member : Expr := .member span obj (.keyComputed (← spanFrom bracketLo) key)
    return (chained optional obj span member, true)
  if (optional || !noCall) && (← isPunct "(") then
    let args ← arguments g
    match obj with
    | .superRef _ | .importRef _ _ => if optional then failAt .superCallOptional (← curSpan)
    | _ => pure ()
    let span ← spanFrom lo
    return (chained optional obj span (.call span obj args types), true)
  if optional || (← isPunct ".") then
    unless optional do bump
    let key ← memberName
    checkSuper
    match obj, key with
    | .superRef _, .keyPrivate _ => failAt .superPrivateName (← curSpan)
    | _, _ => pure ()
    let span ← spanFrom lo
    return (chained optional obj span (.member span obj key), true)
  match obj with
  | .superRef _ =>
    if noCall then failAt .superCallMisplaced (← curSpan) else failAt .superMisplaced (← curSpan)
  | .importRef _ _ => expectPunct "("; return (obj, false)
  | _ =>
    match ← token with
    | .template _ _ _ =>
      let t ← inContext ({ · with willExpectColon := false }) (templateLit g true)
      if isOptChain obj then emit .optionalChainTemplate (← spanFrom lo)
      return (.tagged (← spanFrom lo) obj t [], true)
    | _ => return (obj, false)

def subscripts (g : Grammar) (noCall noComputed : Bool) (obj : Expr) : Parser Expr := do
  iterate (subscript g noCall noComputed) (← loopFuel) obj

/-- `import(…)` or `import.meta`, after the word. -/
def importCall (g : Grammar) (lo : Nat) (noCall : Bool) : Parser Expr := do
  let wordSpan ← prevSpan
  if ← eatPunct "." then
    modify ({ · with foundModuleItem := true })
    let id ← identName
    if id.name == "meta" then
      let span ← spanFrom lo
      subscripts g noCall false (.metaProp span .importMeta)
    else if id.name == "defer" then subscripts g noCall false (.importRef ⟨lo, id.span.hi⟩ .deferred)
    else if id.name == "source" then subscripts g noCall false (.importRef ⟨lo, id.span.hi⟩ .source)
    else unexpected "meta"
  else subscripts g noCall false (.importRef ⟨lo, wordSpan.hi⟩ .evaluation)

/-- Type arguments of an operand that is not called. -/
def instantiation (g : Grammar) : Parser (Option (List Ty)) := tryParse do
  let types ← typeArgs g
  match ← token with
  | .punct p => if p.startsWith "<" || p.startsWith ">" || p == "+" || p == "-" || p == "(" then return none
  | .template _ _ _ => return none
  | _ => pure ()
  let isOperator := (tokenBinaryOp { (← context) with includeIn := true } (← token)).isSome
  if (← hadLineBreak) || isOperator || !(← startsExpr) then return some types else return none

/-! ### Parentheses -/

/-- Whether an item between parentheses can be a parameter with a type. -/
def canBeTyped : Expr → Bool
  | .ident _ | .array _ _ | .object _ _ | .assign _ .assign _ _ => true
  | .spread _ e => canBeTyped e
  | _ => false

/-- An item between parentheses: an expression, or a parameter that only an arrow function has. -/
inductive ParenItem where
  | expr (e : Expr)
  | pat (p : Pat)

/-- A conditional or optional mark after an item. -/
def itemQuestion (g : Grammar) (lo : Nat) (arg : Expr) : Parser (Expr × Bool) := do
  unless ← isPunct "?" do return (arg, false)
  let (next, _) ← peek
  if [",", ":", ")", "="].any (tokenIsPunct · next) then
    bump
    match arg with
    | .spread _ _ => emit .restOptional (← prevSpan)
    | .ident _ | .array _ _ | .object _ _ => pure ()
    | e => failAt .optionalPattern e.span
    return (arg, true)
  match arg with
  | .spread _ _ => return (arg, false)
  | test =>
    bump
    return (← condRest g lo test, false)

/-- An item with its type and default. -/
def typedItem (g : Grammar) (lo : Nat) (arg : Expr) : Parser Pat := do
  let pat ← match arg with
    | .spread dots e => do
      let p ← g.asPattern .binding e
      pure (.rest (← spanFrom lo) dots p)
    | e => g.asPattern .binding e
  let pat ← match pat with
    | .assign _ left value => do
      if (← optTypeAnn g).isSome then emit .typeAnnotationAfterDefault (← spanFrom lo)
      pure (.assign (← spanFrom lo) left value)
    | p => typedPat g lo p
  if ← eatPunct "=" then
    let right ← g.assign
    return .assign (← spanFrom lo) pat right
  return pat

/-- One item between parentheses. -/
def parenItem (g : Grammar) : Parser ParenItem := do
  let lo ← curLo
  modify ({ · with arrowStart := some lo })
  let hasModifier ← eatParamModifier
  let patLo ← curLo
  let dotsThenName ← if ← isPunct "..." then do
      let (next, _) ← peek
      pure (tokenIsIdentRef (← context) next)
    else pure false
  let arg ← if (← isIdentRef) || dotsThenName then do
      if ← eatPunct "..." then
        let dots ← prevSpan
        pure (.spread dots (← g.binary))
      else if (← context).inGenerator && (← isWord "yield") then yieldRule g
      else
        let e ← g.binary
        finishAssign g lo e
    else exprOrSpread g
  let (arg, optional) ← itemQuestion g lo arg
  let result ← if optional || ((← isPunct ":") && canBeTyped arg) then
      ParenItem.pat <$> typedItem g patLo arg
    else pure (.expr arg)
  if hasModifier then emit .paramProperty (← spanFrom lo)
  return result

/-- The items between parentheses, and the comma after the last one. -/
def parenItems (g : Grammar) : Parser (List ParenItem × Option Span) := do
  expectPunct "("
  let (items, comma) ← iterate (fun ((acc : List ParenItem), (comma : Option Span)) => do
    if ← isPunct ")" then return ((acc, comma), false)
    let item ← parenItem g
    if ← isPunct ")" then return ((item :: acc, comma), true)
    expectPunct ","
    let comma ← if ← isPunct ")" then some <$> prevSpan else pure none
    return ((item :: acc, comma), true)) (← loopFuel) (([] : List ParenItem), none)
  expectPunct ")"
  return (items.reverse, comma)

/-- Items between parentheses read again as parameters. -/
def itemsAsParams (g : Grammar) (comma : Option Span) : List ParenItem → Parser (List Pat)
  | [] => return []
  | [.expr (.spread dots e)] => do
    match e with
    | .assign _ _ _ _ => emit .restDefault ⟨dots.lo, e.span.hi⟩
    | _ => pure ()
    match comma with
    | some span => emit .commaAfterRest span
    | none => pure ()
    return [.rest e.span dots (← g.asPattern .binding e)]
  | [.pat p] => do
    match p.untyped, comma with
    | .rest _ _ _, some span => emit .commaAfterRest span
    | _, _ => pure ()
    return [p]
  | .expr (.spread dots e) :: rest => do
    emit .restParamNotLast ⟨dots.lo, e.span.hi⟩
    itemsAsParams g comma rest
  | .pat p :: rest => do
    match p.untyped with
    | .rest span _ _ =>
      emit .restParamNotLast span
      itemsAsParams g comma rest
    | _ => return p :: (← itemsAsParams g comma rest)
  | .expr e :: rest => do
    let p ← g.asPattern .binding e
    return p :: (← itemsAsParams g comma rest)

/-- The arrow function that parenthesized items begin, from its return type on. It is read as such
inside a conditional only if the colon of that conditional remains. -/
def arrowInCond (g : Grammar) (lo : Nat) (isAsync : Bool) (items : List ParenItem) (comma : Option Span) :
    Parser (Option Expr) := do
  let expectsColon := (← context).willExpectColon
  tryParse do
    let result ← returnTypeAnn g ":"
    expectPunct "=>"
    let params ← itemsAsParams g comma items
    checkStrictParams params
    let e ← arrowRest g lo isAsync params [result]
    if expectsColon && !(← isPunct ":") then unexpected "fail"
    return some e

/-- The value of parenthesized items that begin no arrow function. -/
def parenValue (lo : Nat) (items : List ParenItem) : Parser Expr := do
  let exprs ← items.mapM fun item => match item with
    | .expr (.spread _ e) => failAt .spreadInParens e.span
    | .expr e => pure e
    | .pat p => failAt .notAnExpression p.span
  match exprs with
  | [] => failAt .emptyParens (← spanFrom lo)
  | [e] => return .paren (← spanFrom lo) e
  | first :: rest =>
    let last := rest.getLast?.getD first
    return .paren (← spanFrom lo) (.seq ⟨first.span.lo, last.span.hi⟩ (first :: rest))

/-- Notes default values in object literals that are no patterns. -/
def noteDefaults (e : Expr) : Parser Unit := do
  match e with
  | .object _ props =>
    for p in props do
      match p with
      | .propDefault span _ _ => emit .defaultInObject span
      | _ => pure ()
  | _ => pure ()

/-- A parenthesized expression, an arrow function, or after the word `async` a call. -/
def parenOrArrow (g : Grammar) (canBeArrow : Bool) (async : Option Span) : Parser Expr := do
  let lo ← match async with
    | some span => pure span.lo
    | none => curLo
  let (items, comma) ← inContext ({ · with willExpectColon := false, includeIn := true }) (parenItems g)
  let hasPattern := items.any fun i => match i with | .pat _ => true | .expr _ => false
  let isAsync := async.isSome
  if (← context).inCond && (← isPunct ":") then
    match ← arrowInCond g lo isAsync items comma with
    | some e => return e
    | none => pure ()
  let result ← if !(← context).willExpectColon && (← isPunct ":") then tryParse do
      let result ← returnTypeAnn g ":"
      unless ← isPunct "=>" do unexpected "fail"
      return some result
    else pure none
  if hasPattern || result.isSome || (← isPunct "=>") then
    if (← hadLineBreak) && (← isPunct "=>") then failAt .arrowAfterLineBreak (← spanFrom lo)
    unless canBeArrow do expectSemicolon
    expectPunct "=>"
    let params ← itemsAsParams g comma items
    checkStrictParams params
    let e ← arrowRest g lo isAsync params result.toList
    match e with
    | .arrow _ _ _ (.block _) _ =>
      let isOperator ← match ← token with
        | .punct p => pure (binaryOp p).isSome
        | _ => pure false
      if isOperator then
        emit .semicolonExpected (← curSpan)
        let joined ← g.binaryRest e 0
        unless ← isSemicolon do emit .semicolonExpected (← curSpan)
        return joined
      return e
    | _ => return e
  for i in items do
    match i with
    | .expr e => noteDefaults e
    | .pat _ => pure ()
  match async with
  | some span =>
    let args ← items.mapM fun item => match item with
      | .expr e => pure e
      | .pat p => failAt .notAnExpression p.span
    return .call (← spanFrom lo) (.ident { name := "async", span }) args []
  | none => parenValue lo items

/-! ### Operands -/

/-- An arrow function with a single bare parameter, or the name alone. -/
def nameOrArrow (g : Grammar) (lo : Nat) (canBeArrow : Bool) : Parser Expr := do
  let c ← context
  let id ← ident (!c.inGenerator) (!c.inAsync)
  let broken ← hadLineBreak
  if canBeArrow && id.name == "async" && !broken then
    if c.forLoopInit && (← isWord "of") && !(← peekIsPunct "=>") then
      unless c.forAwaitInit do emit .forOfAsync (← prevSpan)
      return .ident id
    if ← isIdentRef then
      let param ← bindingIdent false
      if param.name == "as" && !(← isPunct "=>") then
        let type ← g.type
        return .typed (← spanFrom lo) .asType (.ident id) [type]
      expectPunct "=>"
      return ← arrowRest g lo true [.ident param] []
    if ← isPunct "=>" then
      bump
      return ← arrowRest g lo false [.ident id] []
    return .ident id
  if canBeArrow && !broken && id.name != "let" && (← isPunct "=>") then
    bump
    if id.name == "eval" || id.name == "arguments" then emitStrict .evalOrArgumentsInStrict id.span
    return ← arrowRest g lo false [.ident id] []
  return .ident id

/-- An expression that starts with `async`: a function, an arrow function, or none of these. -/
def asyncStart (g : Grammar) (lo : Nat) (canBeArrow : Bool) : Parser (Option Expr) := do
  let (next, broken) ← peek
  if tokenIsWord "function" next && !broken then
    bump
    let (id, f) ← functionFrom g (some lo) true false
    return some (.func id f)
  if canBeArrow && tokenIsPunct "<" next then
    let found ← tryParse do
      bump
      genericAsyncArrow g lo
    if found.isSome then return found
  if canBeArrow && tokenIsPunct "(" next && !broken then
    let span ← curSpan
    bump
    return some (← parenOrArrow g canBeArrow (some span))
  return none

/-- The flags of regular expressions. -/
def regexFlags : List Char := ['d', 'g', 'i', 'm', 's', 'u', 'v', 'y']

/-- A regular expression at the current slash. -/
def regexLit : Parser Expr := do
  rescan Lexer.scanRegex
  match ← token with
  | .regex pattern flags =>
    let span ← curSpan
    bump
    if flags.any (! regexFlags.contains ·) then emit .unknownRegexFlags span
    match regexFlags.find? (flags.toList.count · > 1) with
    | some flag => emit (.duplicatedRegexFlag flag) span
    | none => pure ()
    return .regex span pattern flags
  | .error e => failWith e
  | _ => failAt .expressionExpected (← curSpan)

/-- An operand without operators. -/
def primary (g : Grammar) (classExpr : Nat → List Expr → Parser Expr) : Parser Expr := do
  let lo ← curLo
  let canBeArrow := (← get).arrowStart == some lo
  match ← token with
  | .error e => stopAtError e
  | .num value raw =>
    let span ← curSpan
    bump
    return .num { value, span, raw := some raw }
  | .str value raw =>
    let span ← curSpan
    bump
    return .str { value, span, raw := some raw }
  | .bigint raw =>
    let span ← curSpan
    bump
    return .bigint span raw
  | .template _ _ _ => templateLit g false
  | .punct "/" | .punct "/=" => regexLit
  | .punct "[" => arrayLit g
  | .punct "\x7b" => objectLit g
  | .punct "(" => parenOrArrow g canBeArrow none
  | .punct "@" =>
    let ds ← decorators g (subscripts g false true)
    classExpr lo ds
  | .punct "#" => return .keyPrivate (← privateName)
  | .word "this" false =>
    let span ← curSpan
    bump
    return .thisRef span
  | .word "null" false =>
    let span ← curSpan
    bump
    return .null span
  | .word "true" false =>
    let span ← curSpan
    bump
    return .bool span true
  | .word "false" false =>
    let span ← curSpan
    bump
    return .bool span false
  | .word "function" false =>
    let (id, f) ← functionFrom g none true false
    return .func id f
  | .word "class" false => classExpr lo []
  | .word "async" false =>
    match ← asyncStart g lo canBeArrow with
    | some e => return e
    | none => nameOrArrow g lo canBeArrow
  | .word text escaped =>
    if escaped || text == "let" || text == "await" || !(← context).isReserved text then
      nameOrArrow g lo canBeArrow
    else failAt .expressionExpected (← curSpan)
  | _ => failAt .expressionExpected (← curSpan)

/-- An operand with member accesses, also after `new`; calls are left over when `noCall` holds. -/
def memberExpr (g : Grammar) (classExpr : Nat → List Expr → Parser Expr) (isNew : Bool) : Nat → Parser Expr
  | 0 => failAt .expressionExpected {}
  | fuel + 1 => do
    let lo ← curLo
    if ← eatWord "new" then
      if ← eatPunct "." then
        if ← eatWord "target" then
          let span ← spanFrom lo
          let c ← context
          if !c.insideNonArrow && !c.inParameters && !c.inClass then emit .newTargetMisplaced span
          return ← subscripts g true false (.metaProp span .newTarget)
        unexpected "target"
      modify ({ · with arrowStart := none })
      let callee ← memberExpr g classExpr isNew fuel
      if isArrow callee then return callee
      if isNew then
        match callee with
        | .optChain span _ _ => failAt .optionalChainInNew span
        | .member span obj _ => if isOptChain obj then failAt .optionalChainInNew span
        | _ => pure ()
      let types ← if ← isOpenAngle then tryParse do
          let types ← typeArgs g
          unless ← isPunct "(" do expectPunct "("
          return some types
        else pure none
      if ← isPunct "(" then
        let args ← arguments g
        return ← subscripts g true false (.new (← spanFrom lo) callee args false (types.getD []))
      return .new (← spanFrom lo) callee [] true []
    if ← isWord "super" then
      bump
      return ← subscripts g true false (.superRef (← spanFrom lo))
    if ← isWord "import" then
      bump
      return ← importCall g lo true
    let obj ← primary g classExpr
    if isArrow obj then return obj
    let obj ← match ← if ← isPunct "<" then instantiation g else pure none with
      | some types => pure (.typed (← spanFrom lo) .instantiation obj types)
      | none => pure obj
    subscripts g true false obj

/-- An operand with member accesses and calls. -/
def leftHandSide (g : Grammar) (classExpr : Nat → List Expr → Parser Expr) : Parser Expr := do
  let lo ← curLo
  if (← env).jsx && (← isPunct "<") then
    let s ← get
    if (← env).source.at? s.stop == some '/' then
      rescan Lexer.scanJsxText
      failAt .expressionExpected ⟨lo + 1, lo + 2⟩
    return ← g.jsx .code
  if ← isWord "super" then
    bump
    return ← subscripts g false false (.superRef (← spanFrom lo))
  if ← isWord "import" then
    bump
    return ← importCall g lo false
  let callee ← memberExpr g classExpr true (← loopFuel)
  if isArrow callee then return callee
  let types ← if ← isOpenAngle then tryParse do
      let types ← typeArgs g
      if ← isPunct "(" then return some types else return none
    else pure none
  match callee with
  | .new _ _ _ true _ =>
    if types.isSome then expectPunct "("
    return callee
  | _ =>
    if ← isPunct "(" then
      let args ← arguments g
      let span ← spanFrom lo
      subscripts g false false (chained false callee span (.call span callee args (types.getD [])))
    else return callee

/-! ### Unary operators -/

def unaryOp : Token → Option UnaryOp
  | .punct "+" => some .plus
  | .punct "-" => some .minus
  | .punct "!" => some .bang
  | .punct "~" => some .tilde
  | .word "typeof" false => some .typeOf
  | .word "void" false => some .void
  | .word "delete" false => some .delete
  | _ => none

/-- What follows the word `await`, which ends at the previous token. Before the end of a statement
or of a bracket it is a plain name. -/
def awaitRest (g : Grammar) (lo : Nat) : Parser Expr := do
  let span ← spanFrom lo
  let c ← context
  if ← isPunct "*" then failAt .awaitStar (← curSpan)
  if !c.inAsync && ((← isSemicolon) || (← isPunct ")") || (← isPunct "]") || (← isPunct ",")) then
    if c.isModule then emit .awaitAsIdent span
    return .ident { name := "await", span }
  if c.topLevel then modify ({ · with foundModuleItem := true })
  if c.inFunction && !c.inAsync then emit .awaitInFunction span
  if c.inParameters && !c.inFunction then emit .awaitInParam span
  let arg ← g.unary
  return .await (← spanFrom lo) arg

/-- An operand with its unary operators. -/
def unaryRule (g : Grammar) (classExpr : Nat → List Expr → Parser Expr) : Parser Expr := do
  let lo ← curLo
  if !(← env).jsx && (← isOpenAngle) then
    splitPunct
    bump
    if ← isWord "const" then
      bump
      expectCloseAngle
      let e ← g.unary
      return .typed (← spanFrom lo) .asConst e []
    let type ← g.type
    expectCloseAngle
    let e ← g.unary
    return .typed (← spanFrom lo) .assertion e [type]
  if (← isPunct "++") || (← isPunct "--") then
    let op : UpdateOp := if ← isPunct "++" then .increment else .decrement
    bump
    let arg ← g.unary
    checkTarget arg
    return .update ⟨lo, arg.span.hi⟩ op true arg
  match unaryOp (← token) with
  | some op =>
    bump
    let argLo := (← curLo) - 1
    let arg ← orElse g.unary fun e => do
      emit e.fault e.span
      return .invalid ⟨argLo, argLo⟩
    if op == .delete then
      match arg with
      | .ident id => emitStrict .deleteIdent id.span
      | _ => pure ()
    return .unary ⟨lo, arg.span.hi⟩ op arg
  | none =>
    if ← isWord "await" then
      bump
      return ← awaitRest g lo
    let e ← leftHandSide g classExpr
    if isArrow e || (← hadLineBreak) then return e
    if (← isPunct "++") || (← isPunct "--") then
      checkTarget e
      let op : UpdateOp := if ← isPunct "++" then .increment else .decrement
      bump
      return .update (← spanFrom e.span.lo) op false e
    return e

end Detype.Parser
