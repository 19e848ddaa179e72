import Detype.Parser.Exprs

/-
**Classes.**

Class heads and members with their modifiers.

* `Parser.classTail` — a class from the word `class` on.
* `Parser.classMember` — one member.
-/

namespace Detype.Parser

/-- One entry after `extends` or `implements`, with its place. -/
def heritageEntry (g : Grammar) : Parser (Ty × Span) := do
  let lo ← curLo
  let e ← subscripts g true true (.ident (← identName))
  let entry ← match e with
    | .typed _ .instantiation e types => pure (.heritage e types)
    | e => do
      match e with
      | .ident _ | .member _ _ _ => pure ()
      | _ => emit .interfaceExtends (← spanFrom lo)
      pure (.heritage e (← if ← isPunct "<" then typeArgs g else pure []))
  return (entry, ← spanFrom lo)

/-- The list after `extends` or `implements`, with the places of its entries. -/
def heritageClause (g : Grammar) : Parser (List (Ty × Span)) := do
  let atEnd : Parser Bool := return (← isPunct "\x7b") || (← isWord "implements") || (← isWord "extends")
  collect (do
    if ← atEnd then return none
    let entry ← heritageEntry g
    unless (← eatPunct ",") || (← atEnd) do expectPunct ","
    return some entry) (← loopFuel)

/-- Whether a method's parameters follow a member's name. -/
def atMethod : Parser Bool := return (← isPunct "(") || (← isOpenAngle)

/-- Whether a field ends or goes on after its name. With `asi`, it may also end without a sign. -/
def atField (asi : Bool) : Parser Bool := do
  match ← token with
  | .punct p =>
    if ["!", ":", "=", ";", "\x7d"].contains p then return true
  | _ => pure ()
  if asi then isSemicolon else return false

def isConstructorKey : Expr → Bool
  | .keyName id => id.name == "constructor"
  | .str s => s.text == "constructor"
  | _ => false

/-- What has been read of a member before its name. -/
structure MemberHead where
  start : Nat
  decorators : List Expr
  access : Option String := none
  declareSpan : Option Span := none
  staticSpan : Option Span := none
  isStatic : Bool := false
  isAbstract : Bool := false
  isOverride : Bool := false
  isAccessor : Bool := false
  readonlySpan : Option Span := none
  modifierSpan : Option Span := none

/-- A field, from its definiteness mark on. -/
def fieldRest (g : Grammar) (h : MemberHead) (key : Expr) (optional : Bool) : Parser Member := do
  if isConstructorKey key then failAt .fieldNamedConstructor key.span
  match key with
  | .keyPrivate id =>
    if h.declareSpan.isSome then emit (.modifierPrivate "declare") id.span
    if h.isAbstract then emit (.modifierPrivate "abstract") id.span
  | _ => pure ()
  unless optional do
    let _ ← eatPunct "!"
  let type ← optTypeAnn g
  let value ← inContext (fun c => { c with
      includeIn := true, inClassField := true, inFunction := c.inFunction }) do
    let v ← if ← eatPunct "=" then some <$> g.assign else pure none
    unless ← eatSemicolon do emit .semicolonExpected (← curSpan)
    return v
  let span ← spanFrom h.start
  let field : Field := {
    span, key, value, type, decorators := h.decorators, isStatic := h.isStatic, isAbstract := h.isAbstract
    isAmbient := false }
  if h.isAccessor then return .accessor field
  match key with
  | .keyPrivate id =>
    if h.access.isSome then emit .accessPrivate ⟨span.lo, id.span.hi⟩
    return .field { field with isAbstract := false }
  | _ =>
    if h.isAbstract && value.isSome then emit .abstractInitialized span
    return .field { field with isAmbient := h.declareSpan.isSome }

/-- A method, from its type parameters on. -/
def methodRest (g : Grammar) (h : MemberHead) (key : Expr) (kind : MethodKind) (isAsync isGenerator : Bool)
    (params : Parser (List Pat)) : Parser Member := do
  let func ← g.functionRest h.start isAsync isGenerator params
  let span ← spanFrom h.start
  match key with
  | .keyPrivate id => if h.access.isSome then emit .accessPrivate ⟨span.lo, id.span.hi⟩
  | _ => if h.isAbstract && func.body.isSome then emit .abstractImplemented span
  return .method {
    span, key, func, decorators := h.decorators, kind, isStatic := h.staticSpan.isSome
    isAbstract := h.isAbstract }

/-- A constructor, from its type parameters on. -/
def constructorRest (g : Grammar) (h : MemberHead) (key : Expr) : Parser Member := do
  if h.isOverride then emit (.modifierOnConstructor "override") (← spanFrom h.start)
  if ← isPunct "<" then
    let lo ← curLo
    if ← peekIsPunct ">" then
      bump
      let closeLo ← curLo
      bump
      emit .emptyTypeParams (← spanFrom lo)
      emit .constructorTypeParams (← spanFrom closeLo)
    else
      for (_, span) in ← typeParams g false true do emit .constructorTypeParams span
  expectPunct "("
  let decs := decorators g (subscripts g false true)
  let params ← inContext (fun c => { c with
      inParameters := true, inFunction := false, inClassField := false, includeIn := true }) <|
    paramList decs (constructorParam g)
  expectPunct ")"
  if ← eatPunct ":" then
    let lo ← curLo
    let _ ← g.type
    emit .constructorReturnType (← spanFrom lo)
  let body ← functionBody g false false params
  if body.isNone then
    for p in params do
      match p with
      | .param span _ true _ => emit .paramProperty span
      | _ => pure ()
      match p with
      | .param _ _ _ (.assign span _ _) => emit .paramInitializer span
      | _ => pure ()
  match h.staticSpan with
  | some span => emit (.modifierOnConstructor "static") span
  | none => pure ()
  match h.modifierSpan with
  | some span => if h.isAbstract then emit .abstractMisplaced span
  | none => pure ()
  return .ctor (← spanFrom h.start) key params body

/-- A static block, at its brace. -/
def staticBlock (g : Grammar) (lo : Nat) : Parser Member := do
  let b ← inContext ({ · with inStaticBlock := true, inClassField := true }) (block g false)
  return .staticBlock (← spanFrom lo) b

/-- Collects the modifiers after the first ones. -/
def moreModifiers (h : MemberHead) : Parser MemberHead := do
  iterate (fun (h : MemberHead) => do
    match ← modifier ["abstract", "readonly", "override", "static"] true with
    | none => return (h, false)
    | some word =>
      let span ← prevSpan
      let h := { h with modifierSpan := some span }
      if word == "abstract" then
        if h.isAbstract then emit (.modifierRepeated word) span
        else if h.isOverride then emit (.modifierOrder "abstract" "override") span
        return ({ h with isAbstract := true }, true)
      else if word == "override" then
        if h.isOverride then emit (.modifierRepeated word) span
        else if h.readonlySpan.isSome then emit (.modifierOrder "override" "readonly") span
        else if h.declareSpan.isSome then emit (.modifierConflict "override" "declare") span
        else if !(← context).hasSuperClass then emit .overrideWithoutSuper span
        return ({ h with isOverride := true }, true)
      else if word == "readonly" then
        if h.readonlySpan.isSome then emit (.modifierRepeated word) span
        return ({ h with readonlySpan := some span }, true)
      else
        if h.isOverride then emit (.modifierOrder "static" "override") span
        return ({ h with isStatic := true }, true)) (← loopFuel) h

/-- A getter, a setter, or an asynchronous method, after its first word. -/
def accessorMember (g : Grammar) (h : MemberHead) (word : Ident) : Parser Member := do
  if word.name == "async" then
    if (← modifier ["override"] false).isSome then emit (.modifierOrder "override" "async") (← prevSpan)
    let isGenerator ← eatPunct "*"
    let key ← classPropName g
    if isConstructorKey key then failAt .asyncConstructor key.span
    if h.readonlySpan.isSome then emit .readonlyMethod (← spanFrom h.start)
    let _ ← eatPunct "?"
    methodRest g h key .method true isGenerator g.params
  else
    let key ← classPropName g
    if h.readonlySpan.isSome then emit .readonlyAccessor word.span
    if isConstructorKey key then emit .accessorConstructor word.span
    if word.name == "get" then methodRest g h key .getter false false (getterParams g word.span)
    else methodRest g h key .setter false false (setterParams g word.span)

/-- A member, from its name on. -/
def memberRest (g : Grammar) (h : MemberHead) : Parser Member := do
  if ← eatPunct "*" then
    let key ← classPropName g
    if h.readonlySpan.isSome then emit .readonlyMethod (← spanFrom h.start)
    if isConstructorKey key then emit .generatorConstructor key.span
    return ← methodRest g h key .method false true g.params
  let key ← match h.readonlySpan with
    | some span =>
      if (← isPunct "!") || (← isPunct ":") then pure (.keyName { name := "readonly", span })
      else classPropName g
    | none => classPropName g
  let optional ← eatPunct "?"
  if ← atMethod then
    match h.declareSpan with
    | some span => emit .declareMember span
    | none => pure ()
    if h.readonlySpan.isSome then failAt .readonlyMethod (← spanFrom h.start)
    if isConstructorKey key then return ← constructorRest g h key
    return ← methodRest g h key .method false false g.params
  let nextLineGenerator := (← hadLineBreak) && (← isPunct "*")
  match key with
  | .keyName id =>
    if (id.name == "get" || id.name == "set") && !(← atField false) && !nextLineGenerator && !(← isEof) then
      return ← accessorMember g h id
    if ← atField true then return ← fieldRest g h key optional
    if id.name == "async" && !(← hadLineBreak) then return ← accessorMember g h id
    unexpected "* for generator, private key, identifier or async"
  | _ =>
    if ← atField true then fieldRest g h key optional
    else unexpected "* for generator, private key, identifier or async"

/-- A member whose name is a word that otherwise is a modifier, if it is one. -/
def modifierAsName (g : Grammar) (h : MemberHead) (word : String) (lo : Nat) (asi : Bool) :
    Parser (Option Member) := do
  let key : Expr := .keyName { name := word, span := ← spanFrom lo }
  if ← atMethod then
    return some (← methodRest g h key .method false false g.params)
  if (← atField asi) || (← isPunct "?") then
    let optional ← eatPunct "?"
    if optional && (← atMethod) then
      return some (← methodRest g h key .method false false g.params)
    return some (← fieldRest g h key optional)
  return none

/-- One member of a class. -/
def classMember (g : Grammar) : Parser Member := do
  let start ← curLo
  let decs ← decorators g (subscripts g false true)
  let declareLo ← curLo
  let declareFirst ← eatWord "declare"
  let access ← accessModifier
  let declareLo ← if declareFirst then pure declareLo else curLo
  let declares := declareFirst || (← eatWord "declare")
  let h : MemberHead := { start, decorators := decs, access }
  if declares then
    match ← modifierAsName g h "declare" declareLo false with
    | some m => return m
    | none => pure ()
  let declareSpan ← if declares then some <$> spanFrom declareLo else pure none
  let h := { h with declareSpan }
  let staticLo ← curLo
  let hasStatic ← eatWord "static"
  if hasStatic then
    unless ← isPunct "\x7b" do
      match ← modifierAsName g h "static" staticLo false with
      | some m => return m
      | none => pure ()
  let staticSpan ← if hasStatic then some <$> spanFrom staticLo else pure none
  let h ← moreModifiers { h with staticSpan, isStatic := hasStatic }
  let accessorLo ← curLo
  let hasAccessor ← eatWord "accessor"
  if hasAccessor then
    match ← modifierAsName g h "accessor" accessorLo true with
    | some m => return m
    | none => pure ()
  let h ← moreModifiers { h with isAccessor := hasAccessor }
  if h.isStatic && (← isPunct "\x7b") then
    match h.declareSpan with
    | some span => emit .modifierMisplaced span
    | none => pure ()
    if h.access.isSome then emit .modifierMisplaced (← curSpan)
    return ← staticBlock g start
  if (← isWord "static") && (← peekIsPunct "\x7b") then
    for span in h.modifierSpan.toList ++ h.staticSpan.toList do emit .modifierMisplaced span
    bump
    return ← staticBlock g start
  if !h.isAbstract && !h.isOverride && h.access.isNone then
    if let some signature ← indexSignature g then return .indexSignature (← spanFrom start) signature
  memberRest g h

/-- The members of a class, between its braces. -/
def classBody (g : Grammar) : Parser (List Member) := do
  let (members, _) ← iterate (fun ((acc : List Member), (hasCtor : Bool)) => do
    if ← isPunct "\x7d" then return ((acc, hasCtor), false)
    if ← isPunct ";" then
      let span ← curSpan
      bump
      return ((.empty span :: acc, hasCtor), true)
    let m ← classMember g
    match m with
    | .ctor span _ _ (some _) =>
      let isAmbient := (← context).inDeclare
      if hasCtor && !isAmbient then emit .duplicateConstructor span
      return ((m :: acc, !isAmbient), true)
    | _ => return ((m :: acc, hasCtor), true)) (← loopFuel) (([] : List Member), false)
  return members.reverse

/-- Names that no class can have. -/
def typeNames : List String :=
  ["any", "unknown", "never", "string", "number", "boolean", "bigint", "symbol", "void", "object", "null",
   "undefined"]

/-- What a class extends, with its type arguments. -/
def superClass (g : Grammar) (classExpr : Nat → List Expr → Parser Expr) : Parser (Expr × List Ty) := do
  match ← leftHandSide g classExpr with
  | .typed _ .instantiation e types => return (e, types)
  | e => return (e, ← if ← isOpenAngle then typeArgs g else pure [])

/-- Notes the abstract members of a class that is not abstract itself. -/
def checkAbstractMembers (members : List Member) : Parser Unit :=
  for m in members do
    match m with
    | .method { key := .keyPrivate _, .. } => pure ()
    | .method m => if m.isAbstract then emit .abstractOutside m.span
    | .field f => if f.isAbstract then emit .abstractOutside f.span
    | _ => pure ()

/-- A class from the word `class` on. -/
def classTail (g : Grammar) (classExpr : Nat → List Expr → Parser Expr) (start : Nat) (decs : List Expr)
    (nameRequired isAbstract : Bool) : Parser (Option Ident × Class) :=
  inContext ({ · with strict := true, inClass := true }) do
    expectWord "class"
    let id ← optBindingIdent nameRequired true
    match id with
    | some id => if typeNames.contains id.name then emit .className id.span
    | none => pure ()
    let typeParams ← optTypeParams g true true
    let base ← if ← eatWord "extends" then do
        let e ← superClass g classExpr
        if ← eatPunct "," then
          for (_, span) in ← heritageClause g do emit .extendsMany span
        pure (some e)
      else pure none
    if ← eatWord "extends" then
      emit .extendsTwice (← prevSpan)
      let _ ← superClass g classExpr
    let implements ← if ← eatWord "implements" then heritageClause g else pure []
    if ← eatWord "implements" then
      emit .implementsTwice (← prevSpan)
      let _ ← heritageClause g
    let base ← if ← eatWord "extends" then do
        emit .extendsAfterImplements (← prevSpan)
        let e ← superClass g classExpr
        pure (some (base.getD e))
      else pure base
    expectPunct "\x7b"
    let members ← inContext ({ · with hasSuperClass := base.isSome, includeIn := true, willExpectColon := false }) (classBody g)
    if ← isEof then emit (.expected "\x7d" "<eof>") (← curSpan) else expectPunct "\x7d"
    unless isAbstract do checkAbstractMembers members
    let types := typeParams ++ (base.map Prod.snd).getD [] ++ implements.map Prod.fst
    return (id, { span := ← spanFrom start, decorators := decs, superClass := base.map Prod.fst, members, types })

/-- A class expression, whose decorators have been read; `fuel` bounds the depth of `extends`. -/
def classExprRule (g : Grammar) : Nat → Nat → List Expr → Parser Expr
  | 0, _, _ => failAt .expressionExpected {}
  | fuel + 1, start, decs => do
    let (id, c) ← classTail g (classExprRule g fuel) start decs false false
    return .classExpr id c

end Detype.Parser
