import Detype.Parser.Stmts

/-
**Imports and exports.**

The items that make a text a module.

* `Parser.importItem`, `Parser.exportItem` — an item from its word on.
* `Parser.moduleItemRule` — a statement, an import or an export.
-/

namespace Detype.Parser

/-- The attributes after the source of an import, if any. -/
def importAttributes (g : Grammar) : Parser (Option Expr) := do
  if (← eatWord "with") || (!(← hadLineBreak) && (← eatWord "assert")) then
    return some (← objectLit g)
  else return none

/-- The source of a module with its attributes, from the word `from` to the end of the item. -/
def fromClause (g : Grammar) : Parser (Str × Option Expr) := do
  expectWord "from"
  let source ← strLit
  let attributes ← importAttributes g
  expectSemicolon
  return (source, attributes)

/-- The right side of `import x = …`. -/
def importTarget : Parser ImportTarget := do
  let lo ← curLo
  if (← isWord "require") && (← peekIsPunct "(") then
    bump
    bump
    let source ← strLit
    expectPunct ")"
    return .external (← spanFrom lo) source
  else return .entity (← entityName false)

/-- `import x = …` from its equals sign on. -/
def importEquals (lo : Nat) (id : Ident) (isExport typeOnly : Bool) : Parser Stmt := do
  expectPunct "="
  let target ← importTarget
  expectSemicolon
  return .importEquals (← spanFrom lo) isExport typeOnly id target

/-! ### Imports -/

/-- What stands in front of a name between braces: nothing, or the word `type` with what the words
after it turned out to be. -/
inductive TypePrefix where
  | none
  /-- `type name`, where `name` is what the specifier is about. -/
  | typed (name : Ident)
  /-- `type as name` and its kin, complete. -/
  | complete (orig : Ident) (renamed : Option Ident) (typeOnly : Bool) (hi : Nat)

/-- Reads on after a word `type` that stands between braces. `local_` reads a renamed name. -/
def typePrefix (first : Ident) (typeOnly : Bool) (repeated : Fault) (local_ : Parser Ident) :
    Parser TypePrefix := do
  unless first.name == "type" && (← isAnyWord) do return .none
  let noteRepeated : Parser Unit := if typeOnly then emit repeated first.span else pure ()
  let second ← identName
  if second.name != "as" then
    noteRepeated
    return .typed second
  unless ← isAnyWord do
    noteRepeated
    return .complete second .none true second.span.hi
  let third ← local_
  if third.name == "as" && (← isAnyWord) then
    let fourth ← local_
    noteRepeated
    return .complete second (some fourth) true first.span.hi
  return .complete first (some third) false first.span.hi

def importSpecifier (typeOnly : Bool) : Parser ImportSpecifier := do
  let lo ← curLo
  match ← exportName with
  | .str s =>
    if ← eatWord "as" then
      let id ← bindingIdent false
      return .named (← spanFrom lo) id (some (.str s)) false
    else failAt (.importBindingIsString s.text) s.span
  | .ident first =>
    let finish (orig : Ident) (isType : Bool) : Parser ImportSpecifier := do
      if ← eatWord "as" then
        let id ← bindingIdent false
        return .named ⟨lo, id.span.hi⟩ id (some (.ident orig)) isType
      if (← context).isReserved orig.name then failAt .reservedImport orig.span
      return .named (← spanFrom lo) orig none isType
    match ← typePrefix first typeOnly .typeModifierRepeated (bindingIdent false) with
    | .none => finish first false
    | .typed name => finish name true
    | .complete orig none isType hi => return .named ⟨lo, hi⟩ orig none isType
    | .complete orig (some renamed) isType hi =>
      return .named ⟨lo, hi⟩ renamed (some (.ident orig)) isType

/-- The head of an import: whether only types are imported, its phase, and the default binding. -/
structure ImportHead where
  typeOnly : Bool := false
  phase : ImportPhase := .evaluation
  default : Option Ident := none
  /-- Whether the name is followed by an equals sign. -/
  isEquals : Bool := false

def atStarOrBrace : Parser Bool := return (← isPunct "*") || (← isPunct "\x7b")

/-- Whether the current word is a name of its own, and not the `from` of the clause. -/
def atImportedName : Parser Bool := do
  unless ← isIdentRef do return false
  return !(← isWord "from") || (← peekIsWord "from")

def importHead : Parser ImportHead := do
  unless ← isIdentRef do return {}
  let first ← bindingIdent false
  if first.name == "type" && (← atStarOrBrace) then return { typeOnly := true }
  let (typeOnly, name) ← if first.name == "type" then do
      if ← atImportedName then pure (true, ← bindingIdent false)
      else if (← isIdentRef) && (← peekIsPunct "=") then pure (true, ← identName)
      else pure (false, first)
    else pure (false, first)
  if ← isPunct "=" then return { typeOnly, default := some name, isEquals := true }
  if name.name == "source" || name.name == "defer" then
    let phase : ImportPhase := if name.name == "source" then .source else .deferred
    if ← atStarOrBrace then return { typeOnly, phase }
    if ← atImportedName then
      if phase == .deferred then return { typeOnly, phase }
      let binding ← bindingIdent false
      unless ← isWord "from" do expectPunct ","
      return { typeOnly, phase, default := some binding }
  unless ← isWord "from" do expectPunct ","
  return { typeOnly, default := some name }

/-- The bindings of an import between its head and the word `from`. -/
def importBindings (h : ImportHead) : Parser (List ImportSpecifier) := do
  let lo ← curLo
  if h.phase != .source && (← isPunct "*") then
    bump
    expectWord "as"
    let id ← bindingIdent false
    return [.namespaceAll (← spanFrom lo) id]
  if h.phase == .evaluation && (← eatPunct "\x7b") then
    let specifiers ← collect (do
      if ← isPunct "\x7d" then return none
      let s ← importSpecifier h.typeOnly
      unless ← isPunct "\x7d" do expectPunct ","
      return some s) (← loopFuel)
    expectPunct "\x7d"
    return specifiers
  return []

/-- An import from its word on. -/
def importItem (g : Grammar) : Parser Stmt := do
  let lo ← curLo
  let (next, _) ← peek
  if tokenIsPunct "(" next || tokenIsPunct "." next then
    let e ← g.expr
    let _ ← eatSemicolon
    return .expr (← spanFrom lo) e
  bump
  match ← token with
  | .str _ _ =>
    let source ← strLit
    let attributes ← importAttributes g
    expectSemicolon
    return .importDecl (← spanFrom lo) [] source false attributes .evaluation
  | _ =>
    let h ← importHead
    match h.isEquals, h.default with
    | true, some id => importEquals lo id false h.typeOnly
    | _, _ =>
      let defaults := h.default.toList.map fun id => ImportSpecifier.default id.span id
      let bindings ← importBindings h
      let (source, attributes) ← fromClause g
      return .importDecl (← spanFrom lo) (defaults ++ bindings) source h.typeOnly attributes h.phase

/-! ### Exports -/

def exportSpecifier (typeOnly : Bool) : Parser ExportSpecifier := do
  let lo ← curLo
  let finish (orig : ExportName) (isType : Bool) : Parser ExportSpecifier := do
    let exported ← if ← eatWord "as" then some <$> exportName else pure none
    return .named (← spanFrom lo) orig exported isType
  match ← exportName with
  | .str s => finish (.str s) false
  | .ident first =>
    match ← typePrefix first typeOnly .typeModifierRepeatedExport identName with
    | .none => finish (.ident first) false
    | .typed name => finish (.ident name) true
    | .complete orig renamed isType hi =>
      return .named ⟨lo, hi⟩ (.ident orig) (renamed.map .ident) isType

/-- A class after `export default`. -/
def defaultClass (g : Grammar) (start classLo : Nat) (decs : List Expr) (isAbstract : Bool) : Parser Stmt := do
  let (id, c) ← classTail g (classExprRule g (← loopFuel)) classLo decs false isAbstract
  return .exportDefaultClass (← spanFrom start) id c

/-- A function after `export default`. -/
def defaultFunc (g : Grammar) (start : Nat) (asyncLo : Option Nat) : Parser Stmt := do
  let (id, f) ← functionFrom g asyncLo false false
  return .exportDefaultFunc (← spanFrom start) id f

/-- Decorators that follow the word `export` or `default`. -/
def lateDecorators (g : Grammar) (early : List Expr) : Parser (List Expr) := do
  unless ← isPunct "@" do return early
  let lo ← curLo
  let late ← decorators g (subscripts g false true)
  unless early.isEmpty do failAt .decoratorsTwice (← spanFrom lo)
  return late

/-- What follows `export default`. -/
def exportDefault (g : Grammar) (start : Nat) (early : List Expr) : Parser Stmt := do
  let decs ← lateDecorators g early
  let lo ← curLo
  if ← isWordsOnLine "abstract" "class" then
    bump
    return ← defaultClass g start lo decs true
  if (← isWord "abstract") && (← peekIsWord "interface") then
    emit .abstractMisplaced (← curSpan)
    bump
  if ← isWord "interface" then
    let interfaceLo ← curLo
    bump
    match ← interfaceRest g interfaceLo with
    | .interfaceDecl _ id types => return .exportDefaultInterface (← spanFrom start) id types
    | s => return s
  if ← isWord "class" then return ← defaultClass g start lo decs false
  if ← isWordsOnLine "async" "function" then
    bump
    return ← defaultFunc g start (some lo)
  if ← isWord "function" then return ← defaultFunc g start none
  let e ← allowIn g.assign
  expectSemicolon
  return .exportDefaultExpr (← spanFrom start) e

/-- Notes what cannot be exported without a source. -/
def checkLocalExport : ExportSpecifier → Parser Unit
  | .namespaceAll span name => emit (.exportWithoutFrom name.text) span
  | .named _ (.ident id) _ _ =>
    if id.name == "enum" || id.name == "package" || Token.reservedWords.contains id.name then emit (.exportWithoutFrom id.name) id.span
    else return
  | .named _ (.str s) _ _ => emit .exportBindingIsString s.span

/-- An export that lists names. -/
def exportList (g : Grammar) (start listLo : Nat) (typeOnly : Bool) : Parser Stmt := do
  if ← isPunct "*" then
    bump
    if ← eatWord "as" then
      let name ← exportName
      let specifier := ExportSpecifier.namespaceAll (← spanFrom listLo) name
      let (source, attributes) ← fromClause g
      return .exportNamed (← spanFrom start) [specifier] (some source) typeOnly attributes
    let (source, attributes) ← fromClause g
    return .exportAll (← spanFrom start) source typeOnly attributes
  expectPunct "\x7b"
  let specifiers ← collect (do
    if ← isPunct "\x7d" then return none
    let s ← exportSpecifier typeOnly
    unless ← isPunct "\x7d" do expectPunct ","
    return some s) (← loopFuel)
  expectPunct "\x7d"
  if ← isWord "from" then
    let (source, attributes) ← fromClause g
    return .exportNamed (← spanFrom start) specifiers (some source) typeOnly attributes
  for s in specifiers do checkLocalExport s
  let _ ← eatSemicolon
  return .exportNamed (← spanFrom start) specifiers none typeOnly none

/-- The declaration after `export`, if there is one. -/
def exportedDecl (g : Grammar) (decs : List Expr) : Parser (Option Stmt) := do
  let lo ← curLo
  if ← isWord "class" then return some (← classDecl g lo decs false)
  if ← isWordsOnLine "async" "function" then
    bump
    return some (← funcDecl g (some lo))
  if ← isWord "function" then return some (← funcDecl g none)
  if (← isWord "const") && (← peekIsWord "enum") then
    bump
    bump
    return some (← enumRest g lo true)
  if (← isWord "var") || (← isWord "const") || (← atLexicalLet) then return some (← varDecl g false)
  return none

/-- A declaration that a word of the type language introduces after `export`. -/
def exportedTypeDecl (g : Grammar) (decs : List Expr) : Parser (Option Stmt) := do
  match ← token with
  | .word text _ => tryParse do typeDecl g (← curLo) decs text true
  | _ => return none

/-- An export from its word on. -/
def exportItem (g : Grammar) (early : List Expr) : Parser Stmt := do
  let start ← curLo
  bump
  if ← isEof then failAt .unexpectedEof (← curSpan)
  let afterLo ← curLo
  if ← eatWord "declare" then
    if let some d ← ambientDecl g afterLo early then return .exportDecl (← spanFrom start) d
  if let some d ← exportedTypeDecl g early then return .exportDecl (← spanFrom start) d
  if ← eatWord "import" then
    let typeOnly ← if ← isWord "type" then do
        let (next, _) ← peek
        pure (tokenIsIdentRef (← context) next)
      else pure false
    if typeOnly then bump
    let id ← identName
    return ← importEquals start id true typeOnly
  if ← eatPunct "=" then
    let e ← g.expr
    expectSemicolon
    return .exportAssign (← spanFrom start) e
  if ← eatWord "as" then
    expectWord "namespace"
    let id ← ident false false
    expectSemicolon
    return .exportAsNamespace (← spanFrom start) id
  let listLo ← curLo
  let typeOnly ← eatWord "type"
  if !typeOnly && (← eatWord "default") then return ← exportDefault g start early
  let decs ← lateDecorators g early
  unless typeOnly do
    if let some d ← exportedDecl g decs then return .exportDecl (← spanFrom start) d
  exportList g start listLo typeOnly

/-- A statement, an import or an export. Imports and exports make the text a module. -/
def moduleItemRule (g : Grammar) : Parser Stmt := do
  let start ← get
  let decs ← decorators g (subscripts g false true)
  let isImport ← isWord "import"
  if isImport || (← isWord "export") then
    unless (← context).topLevel do failAt .importExportInScript (← curSpan)
    let (next, _) ← peek
    unless (← context).inNamespace || (isImport && (tokenIsPunct "(" next || tokenIsPunct "." next)) do
      modify fun s => { s with context := { s.context with strict := true, isModule := true } }
    if isImport then importItem g else exportItem g decs
  else
    modify fun _ => start
    stmtRule g true

end Detype.Parser
