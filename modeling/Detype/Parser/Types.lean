import Detype.Parser.Names

/-
**Types.**

Type syntax is read to find where it ends and what is wrong with it, and for what stands in it.

* `Parser.typeRule` — one type.
* `Parser.optTypeAnn`, `Parser.returnTypeAnn` — a type after a colon or an arrow.
* `Parser.typeArgs`, `Parser.typeParams` — the lists between angle brackets.
-/

namespace Detype.Parser

/-- A type after a colon, if there is one. -/
def optTypeAnn (g : Grammar) : Parser (Option Ty) := do
  if ← eatPunct ":" then some <$> g.type else return none

/-- A type or a type predicate after a colon or an arrow. -/
def returnTypeAnn (g : Grammar) (opener : String) : Parser Ty := do
  expectPunct opener
  let asserts ← do
    if ← isWord "asserts" then pure (tokenIsIdentRef (← context) (← peek).1) else pure false
  if asserts then bump
  let isPredicate ← do
    if ← isIdentRef then
      let (next, broken) ← peek
      pure (tokenIsWord "is" next && !broken)
    else pure false
  if asserts || isPredicate then
    let _ ← identName
    if isPredicate then
      bump
      return .predicate (some (← g.type))
    return .predicate none
  else g.type

/-- A result type after a colon, if there is one. -/
def optReturnType (g : Grammar) : Parser (Option Ty) := do
  if ← isPunct ":" then some <$> returnTypeAnn g ":" else return none

/-- Elements divided by commas, up to a closing token. -/
def delimited (atEnd : Parser Bool) (element : Parser α) : Nat → Parser (List α)
  | 0 => return []
  | fuel + 1 => do
    if ← atEnd then return []
    let a ← element
    if ← eatPunct "," then return a :: (← delimited atEnd element fuel)
    else if ← atEnd then return [a]
    else
      expectPunct ","
      return [a]

def typeArgs (g : Grammar) : Parser (List Ty) := do
  let lo ← curLo
  expectOpenAngle
  let args ← delimited isCloseAngle g.type (← loopFuel)
  expectCloseAngle
  if args.isEmpty then emit .emptyTypeArgs (← spanFrom lo)
  return args

/-- Type arguments on the current line, if there are any. -/
def optTypeArgs (g : Grammar) : Parser (List Ty) := do
  if (← isOpenAngle) && !(← hadLineBreak) then typeArgs g else return []

/-- A type parameter with its modifiers, bound and default, and its place. -/
def typeParam (g : Grammar) (permitVariance permitConst : Bool) : Parser (Ty × Span) := do
  let lo ← curLo
  let _ ← iterate (fun (seen : List String) => do
    let found ← modifier ["public", "private", "protected", "readonly", "abstract", "const", "override",
      "in", "out"] false
    match found with
    | none => return (seen, false)
    | some word =>
      let span ← prevSpan
      if word == "const" then
        unless permitConst do emit .typeParamConst span
      else if word == "in" || word == "out" then
        if !permitVariance then emit (.typeParamVariance word) span
        else if seen.contains word then emit (.modifierRepeated word) span
        else if word == "in" && seen.contains "out" then emit (.modifierOrder "in" "out") span
      else emit (.typeParamModifier word) span
      return (word :: seen, true)) (← loopFuel) []
  let _ ← identName
  let bound ← if ← eatWord "extends" then some <$> g.type else pure none
  let default ← if ← eatPunct "=" then some <$> g.type else pure none
  return (.typeParam bound default, ← spanFrom lo)

/-- Type parameters between angle brackets, with their places. -/
def typeParams (g : Grammar) (permitVariance permitConst : Bool) : Parser (List (Ty × Span)) := do
  unless ← isOpenAngle do unexpected "< (jsx tag start)"
  splitPunct
  bump
  let params ← collect (do
    if ← isCloseAngle then return none
    let param ← typeParam g permitVariance permitConst
    unless ← isCloseAngle do expectPunct ","
    return some param) (← loopFuel)
  expectCloseAngle
  return params

def optTypeParams (g : Grammar) (permitVariance permitConst : Bool) : Parser (List Ty) := do
  if ← isPunct "<" then return (← typeParams g permitVariance permitConst).map Prod.fst else return []

/-- A dotted name. A dot that no name follows is noted and passed over. -/
def entityName (allowReserved : Bool) : Parser (List Ident) := do
  let first ← identName
  if first.name == "void" then
    let lo ← curLo
    emit .semicolonExpected ⟨lo, lo⟩
  let rest ← collect (do
    unless ← eatPunct "." do return none
    if (← isPunct "#") || (← isAnyWord) then
      some <$> (if allowReserved then identName else ident false false)
    else
      let lo ← curLo
      emit .identExpected ⟨lo, lo⟩
      return none) (← loopFuel)
  return first :: rest

def typeRef (g : Grammar) : Parser Ty := do
  let lo ← curLo
  let hasModifier ← eatParamModifier
  let _ ← entityName true
  let args ← optTypeArgs g
  if hasModifier then emit .paramProperty (← spanFrom lo)
  return .named args

/-- Parameters of a signature, after the opening parenthesis. -/
def signatureParams (g : Grammar) : Parser (List Pat) := do
  let params := (← g.params).map Pat.undecorated
  for p in params do
    match p with
    | .assign _ _ _ =>
      unexpected "an identifier, [ for an array pattern, \x7b for an object patter or ... for a rest pattern"
    | _ => pure ()
  expectPunct ")"
  return params

/-- A function type, or a constructor type when `isFunction` fails. -/
def functionType (g : Grammar) (isFunction : Bool) : Parser Ty := do
  unless isFunction do
    let _ ← eatWord "abstract"
    expectWord "new"
  let typeParams ← optTypeParams g false true
  expectPunct "("
  let params ← signatureParams g
  return .function params typeParams (← returnTypeAnn g "=>")

/-- Skips the start of a parameter. -/
def skipParamStart (g : Grammar) : Parser Bool := do
  let _ ← eatParamModifier
  if ← isAnyWord then
    bump
    return true
  if (← isPunct "\x7b") || (← isPunct "[") then
    let _ ← g.bindingPat false
    return true
  return false

/-- Whether a function type starts here, and nothing else can. -/
def startsFunctionType (g : Grammar) : Parser Bool := do
  if ← isOpenAngle then return true
  if ← isPunct "(" then
    lookAhead do
      bump
      if (← isPunct ")") || (← isPunct "...") then return true
      if ← skipParamStart g then
        if (← isPunct ":") || (← isPunct ",") || (← isPunct "?") || (← isPunct "=") then return true
        if ← eatPunct ")" then return ← isPunct "=>"
      return false
  else return false

/-- The end of a member of an object type. -/
def typeMemberEnd : Parser Unit := do
  unless ← eatPunct "," do expectSemicolon

/-- The name of a member of an object type. -/
def typePropName (g : Grammar) : Parser Expr := do
  if ← eatPunct "[" then
    let key ← g.assign
    expectPunct "]"
    return key
  else
    let span ← curSpan
    match ← token with
    | .str value raw =>
      bump
      return .str { value, span, raw := some raw }
    | .num value raw =>
      bump
      return .num { value, span, raw := some raw }
    | _ =>
      let key ← memberName
      match key with
      | .keyPrivate id => emit .interfacePrivateName id.span
      | _ => pure ()
      return key

/-- An index signature, if one starts here. -/
def indexSignature (g : Grammar) : Parser (Option Ty) := do
  let starts ← if ← isPunct "[" then lookAhead do
      bump
      if ← isIdentRef then
        bump
        return (← isPunct ":") || (← isPunct ",")
      else return false
    else pure false
  if starts then
    bump
    let id ← identName
    if ← eatPunct "," then emit .indexParameters id.span else expectPunct ":"
    let bound ← g.type
    expectPunct "]"
    let type ← optTypeAnn g
    typeMemberEnd
    return some (.indexSignature [.typed (.ident id) bound] type)
  else return none

/-- A call or construct signature, or a method with its key. -/
def signatureMember (g : Grammar) (key : Option Expr) : Parser Ty := do
  let typeParams ← optTypeParams g false true
  expectPunct "("
  let params ← signatureParams g
  let result ← optReturnType g
  typeMemberEnd
  match key with
  | some key => return .method key params result typeParams
  | none => return .callSignature params result typeParams

/-- A getter or setter of an object type. A setter has its first parameter only. -/
def accessorSignature (g : Grammar) : Parser (Option Ty) := tryParse do
  let isGet ← eatWord "get"
  unless isGet do expectWord "set"
  let key ← typePropName g
  expectPunct "("
  if isGet then
    expectPunct ")"
    let type ← optTypeAnn g
    typeMemberEnd
    return some (.property key type)
  else
    match ← signatureParams g with
    | [] => return none
    | param :: _ =>
      typeMemberEnd
      return some (.setter key param)

/-- A member of an object type. -/
def typeMember (g : Grammar) : Parser Ty := do
  if (← isPunct "(") || (← isOpenAngle) then signatureMember g none
  else
    let isNew ← if ← isWord "new" then do
        let (next, _) ← peek
        pure (tokenIsPunct "(" next || tokenIsPunct "<" next)
      else pure false
    if isNew then
      bump
      signatureMember g none
    else
      let isReadonly := (← modifier ["readonly"] false).isSome
      if let some signature ← indexSignature g then return signature
      unless isReadonly do
        if let some accessor ← accessorSignature g then return accessor
      let key ← typePropName g
      let _ ← eatPunct "?"
      if (← isPunct "(") || (← isOpenAngle) then
        if isReadonly then failAt .readonlyMethod (← curSpan)
        signatureMember g (some key)
      else
        let type ← optTypeAnn g
        typeMemberEnd
        return .property key type

/-- The members of an object type or interface, with their braces. -/
def objectTypeMembers (g : Grammar) : Parser (List Ty) := do
  expectPunct "\x7b"
  let members ← collect (do
    if ← isPunct "\x7d" then return none
    some <$> typeMember g) (← loopFuel)
  expectPunct "\x7d"
  return members

/-- Whether a mapped type starts at the current brace. -/
def startsMappedType : Parser Bool := lookAhead do
  bump
  if (← eatPunct "+") || (← eatPunct "-") then return ← isWord "readonly"
  let _ ← eatWord "readonly"
  unless ← eatPunct "[" do return false
  unless ← isIdentRef do return false
  bump
  isWord "in"

/-- A type after a given word or sign, which has to be there. -/
def typeAfter (g : Grammar) (eat : Parser Bool) (sign : String) : Parser Ty := do
  unless ← eat do unexpected sign
  g.type

def mappedType (g : Grammar) : Parser Ty := do
  expectPunct "\x7b"
  if (← eatPunct "+") || (← eatPunct "-") then expectWord "readonly"
  else
    let _ ← eatWord "readonly"
  expectPunct "["
  let _ ← identName
  let keys ← typeAfter g (eatWord "in") "in"
  let name ← if ← eatWord "as" then some <$> g.type else pure none
  expectPunct "]"
  if (← eatPunct "+") || (← eatPunct "-") then expectPunct "?"
  else
    let _ ← eatPunct "?"
  let type ← optTypeAnn g
  expectSemicolon
  expectPunct "\x7d"
  return .mapped (.typeParam (some keys) none) name type

/-- The label of an element of a tuple type, if it has one. -/
def tupleLabel : Parser (Option Pat) := tryParse do
  let lo ← curLo
  let isRest ← eatPunct "..."
  let dots ← prevSpan
  let id ← identName
  let _ ← eatPunct "?"
  expectPunct ":"
  if isRest then return some (.rest (← spanFrom lo) dots (.ident id))
  return some (.ident id)

/-- An element of a tuple type. What its label says about leaving it out does not count. -/
def tupleElement (g : Grammar) : Parser Ty := do
  let label ← tupleLabel
  if ← eatPunct "..." then return .tupleElement label (.rest (← g.type))
  let type ← g.type
  if ← eatPunct "?" then return .tupleElement label (.optional type)
  return .tupleElement label type

def tupleType (g : Grammar) : Parser Ty := do
  let lo ← curLo
  expectPunct "["
  let elements ← collect (do
    if ← isPunct "]" then return none
    let e ← tupleElement g
    unless ← isPunct "]" do expectPunct ","
    return some e) (← loopFuel)
  expectPunct "]"
  let _ ← elements.foldlM (fun (seen : Bool) e => do
    match e with
    | .tupleElement _ (.optional _) => return true
    | .tupleElement _ (.rest _) => return seen
    | _ =>
      if seen then failAt .requiredAfterOptional (← spanFrom lo) else return seen) false
  return .tuple elements

def importType (g : Grammar) : Parser Ty := do
  bump
  expectPunct "("
  match ← token with
  | .str _ _ => bump
  | _ =>
    let span ← curSpan
    bump
    emit .importTypeArgument span
  let attributes ← if (← eatPunct ",") && (← eatPunct "\x7b") then do
      expectWord "with"
      expectPunct ":"
      let attributes ← g.assign
      let _ ← eatPunct ","
      expectPunct "\x7d"
      pure (some attributes)
    else pure none
  expectPunct ")"
  if ← eatPunct "." then
    let _ ← entityName false
  return .imported (← optTypeArgs g) attributes

/-- The pieces of a template literal type. -/
def templateType (g : Grammar) : Parser Ty := do
  let types ← iterate (fun (types : List Ty) => do
    match ← token with
    | .template _ _ true =>
      bump
      return (types, false)
    | .template _ _ false =>
      bump
      let type ← g.type
      unless ← isPunct "\x7d" do unexpected "\x60\x7d\x60"
      rescan Lexer.scanTemplate
      match ← token with
      | .error e => failWith e
      | _ => return (type :: types, true)
    | _ => return (types, false)) (← loopFuel) []
  return .template types.reverse

/-- Words that name a type by themselves. -/
def typeKeywords : List String :=
  ["void", "null", "any", "boolean", "bigint", "never", "number", "object", "string", "symbol", "unknown",
   "undefined", "intrinsic"]

/-- A type that no array brackets end. -/
def primaryType (g : Grammar) : Parser Ty := do
  let wanted := "an identifier, void, yield, null, await, break, a string literal, a numeric literal, true, false, \x60, -, import, this, typeof, \x7b, [, ("
  match ← token with
  | .word "import" false => importType g
  | .word "this" false =>
    bump
    if (← isWord "is") && !(← hadLineBreak) then
      bump
      return .predicate (some (← g.type))
    return .simple
  | .word "typeof" false =>
    bump
    if ← isWord "import" then return .query (some (← importType g)) []
    let _ ← entityName true
    return .query none (← optTypeArgs g)
  | .word "true" false | .word "false" false =>
    bump
    return .simple
  | .word text _ =>
    if text == "asserts" && (← peekIsWord "this") then
      bump
      bump
      return .predicate (← if ← eatWord "is" then some <$> g.type else pure none)
    else if Token.reservedWords.contains text && text != "void" && text != "null" && text != "break" then
      unexpected wanted
    else if typeKeywords.contains text && !(← peekIsPunct ".") then
      bump
      return .simple
    else typeRef g
  | .str _ _ | .num _ _ | .bigint _ =>
    bump
    return .simple
  | .template _ _ _ => templateType g
  | .punct "-" =>
    bump
    match ← token with
    | .num _ _ | .bigint _ =>
      bump
      return .simple
    | _ => unexpected "numeric literal or bigint literal"
  | .punct "\x7b" => if ← startsMappedType then mappedType g else return .object (← objectTypeMembers g)
  | .punct "[" => tupleType g
  | .punct "(" =>
    bump
    let inner ← g.type
    expectPunct ")"
    return .paren inner
  | _ => unexpected wanted

/-- A type with array and index brackets. -/
def arrayType (g : Grammar) : Parser Ty := do
  iterate (fun (type : Ty) => do
    if (← isPunct "[") && !(← hadLineBreak) then
      bump
      if ← eatPunct "]" then return (.array type, true)
      let index ← g.type
      expectPunct "]"
      return (.indexed type index, true)
    else return (type, false)) (← loopFuel) (← primaryType g)

/-- A type after `keyof`, `unique`, `readonly` or `infer`. -/
def operatorType (g : Grammar) : Nat → Parser Ty
  | 0 => arrayType g
  | fuel + 1 => do
    if (← isWord "keyof") || (← isWord "unique") || (← isWord "readonly") then
      bump
      return .operator (← operatorType g fuel)
    else if ← isWord "infer" then
      bump
      let _ ← identName
      let bound ← if ← isWord "extends" then tryParse do
          bump
          let bound ← inContext ({ · with noConditionalTypes := true }) g.plainType
          if !(← context).noConditionalTypes && (← isPunct "?") then return none
          return some bound
        else pure none
      return .infer (.typeParam bound none)
    else
      let _ ← modifier ["readonly"] false
      arrayType g

/-- Operands divided by a sign that may also come first. -/
def joinedType (sign : String) (join : List Ty → Ty) (operand : Parser Ty) : Parser Ty := do
  let _ ← eatPunct sign
  let first ← operand
  let more ← collect (do
    if ← eatPunct sign then some <$> operand else return none) (← loopFuel)
  return if more.isEmpty then first else join (first :: more)

/-- A type without a condition. -/
def plainType (g : Grammar) : Parser Ty := do
  if ← startsFunctionType g then functionType g true
  else if (← isWord "new") || ((← isWord "abstract") && (← peekIsWord "new")) then functionType g false
  else
    let fuel ← loopFuel
    joinedType "|" .union (joinedType "&" .intersection (operatorType g fuel))

/-- A type. -/
def typeRule (g : Grammar) : Parser Ty := inContext ({ · with noConditionalTypes := false }) do
  let type ← plainType g
  if (← isWord "extends") && !(← hadLineBreak) then
    bump
    let bound ← inContext ({ · with noConditionalTypes := true }) (plainType g)
    expectPunct "?"
    let whenTrue ← g.type
    expectPunct ":"
    return .conditional type bound whenTrue (← g.type)
  else return type

end Detype.Parser
