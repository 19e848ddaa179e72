import Detype.Printer.Writer
import Detype.Printer.Literals
import Detype.Text.IdentChar

/-
**How each construct is written.**

One statement a line, four spaces a level, no blank lines, every semicolon written. The rules call each
other through a `Printer`, one unit of fuel a level of nesting.

* `Printer` — the recursive entry points.
* `Print.items` — a delimited list.
* `Printer.exprRule`, `Printer.patRule`, `Printer.stmtRule` — the three large categories.
-/

namespace Detype

/-- The recursive entry points of the printer. -/
structure Printer where
  expr : Expr → Print
  pat : Pat → Print
  stmt : Stmt → Print

/-- How the items of a list are laid out. -/
structure ListStyle where
  /-- Each item on a line of its own, one level deeper. -/
  lines : Bool := false
  comma : Bool := true
  /-- A space inside the brackets. -/
  braceSpace : Bool := false
  /-- A comma before the closing bracket is kept. -/
  keepComma : Bool := false
  /-- A comma is written before the closing bracket. -/
  forceComma : Bool := false

namespace Print

/-- Whether the last sign before the closing bracket of a span is a comma. -/
def endsInComma (s : Span) : StateM Writer Bool := do
  if s.isSynthesized || s.hi - s.lo < 3 then return false
  return (← get).commas.contains (s.hi - 2)

/-- Items with what stands between them. -/
def separated (style : ListStyle) : List Print → Print
  | [] => pure ()
  | [p] => p
  | p :: rest => do
    p
    if style.comma then text ","
    if style.lines then newline else space
    separated style rest

/-- A list without its brackets, which belong to the construct of the given span. -/
def items (style : ListStyle) (parent : Span) (ps : List Print) : Print := do
  match ps with
  | [] => pure ()
  | ps =>
    let extra ← if style.forceComma then pure true
      else if style.keepComma then endsInComma parent else pure false
    let body : Print := do
      separated style ps
      if extra then
        text ","
        space
    if style.lines then
      newline
      indented body
      newline
    else
      if style.braceSpace then space
      body
      if style.braceSpace then space

end Print

namespace Printer

open Print

def ident (id : Ident) : Print := do
  lead id.span
  markLo id.span
  text id.name

def str (s : Str) : Print := do
  lead s.span
  markLo s.span
  text s.literal

def exportName : ExportName → Print
  | .ident id => ident id
  | .str s => str s

/-- A node with its comments in front and its start noted. -/
def node (s : Span) (p : Print) : Print := do
  lead s
  markLo s
  p

/-- Statements between braces. -/
def block (p : Printer) (b : Block) (marked : Bool) : Print := do
  lead b.span
  if marked then markLo b.span
  text "\x7b"
  if !b.stmts.isEmpty || (← waitsAtClose b.span) then
    newline
    indented (b.stmts.forM fun s => do
      p.stmt s
      newline)
    newline
  unless b.span.isSynthesized do leadAt (b.span.hi - 1)
  markClose b.span
  text "\x7d"

/-- The name of a property or member. A plain name leaves the comments in front of it to what it names. -/
def propertyName (p : Printer) : Expr → Print
  | .keyName id => do
    markLo id.span
    text id.name
  | key => p.expr key

/-! ### Functions -/

/-- Decorators on lines of their own. -/
def decoratorLines (p : Printer) (decorators : List Expr) : Print := do
  unless decorators.isEmpty do newline
  for d in decorators do
    text "@"
    p.expr d
    newline

/-- A formal parameter with both its ends noted. -/
def param (p : Printer) : Pat → Print
  | .param span decorators _ pat => do
    lead span
    markLo span
    decoratorLines p decorators
    p.pat pat
    markHi span
  | pat => p.pat pat

def params (p : Printer) (span : Span) (ps : List Pat) : Print := do
  text "("
  items {} span (ps.map (param p))
  text ")"

/-- Parameters and body of a function. -/
def functionTail (p : Printer) (f : Func) (marked : Bool) : Print := do
  params p f.span f.params
  match f.body with
  | some b =>
    space
    block p b marked
  | none => text ";"

def function (p : Printer) (id : Option Ident) (f : Func) : Print := do
  lead f.span
  markLo f.span
  if f.isAsync then text "async "
  text "function"
  if f.isGenerator then text "*"
  match id with
  | some id =>
    space
    ident id
  | none => pure ()
  functionTail p f false

def arrow (p : Printer) (span : Span) (isAsync : Bool) (ps : List Pat) (body : ArrowBody) : Print := do
  lead span
  markLo span
  if isAsync then text "async "
  text "("
  items {} span (ps.map fun q => p.pat q.undecorated)
  text ")=>"
  match body with
  | .block b => block p b false
  | .expr e => indented (p.expr e)

/-! ### Classes -/

/-- The words in front of a method's name. -/
def methodWords (kind : MethodKind) (f : Func) : Print := do
  match kind with
  | .getter => text "get "
  | .setter => text "set "
  | .method =>
    if f.isAsync then text "async "
    if f.isGenerator then text "*"

/-- A method. The decorators of a private one are not part of the code. -/
def method (p : Printer) (m : Method) : Print := do
  lead m.span
  markLo m.span
  let isPrivate := match m.key with
    | .keyPrivate _ => true
    | _ => false
  unless isPrivate do decoratorLines p m.decorators
  if m.isStatic then text "static "
  methodWords m.kind m.func
  propertyName p m.key
  functionTail p m.func (!isPrivate)

def field (p : Printer) (word : String) (f : Field) : Print := do
  lead f.span
  markLo f.span
  decoratorLines p f.decorators
  if f.isStatic then text "static "
  text word
  propertyName p f.key
  match f.value with
  | some v =>
    text " = "
    p.expr v
  | none => pure ()
  text ";"
  markHi f.span

def member (p : Printer) : Member → Print
  | .ctor span _ ps body => do
    lead span
    markLo span
    text "constructor"
    params p span ps
    match body with
    | some b => block p b true
    | none => text ";"
  | .method m => method p m
  | .field f => field p "" f
  | .accessor f => field p "accessor " f
  | .staticBlock span b => do
    lead span
    markLo span
    text "static"
    block p b true
    markHi span
  | .indexSignature _ _ | .empty _ => pure ()

/-- A class from its word on. -/
def classBody (p : Printer) (id : Option Ident) (c : Class) : Print := do
  lead c.span
  markLo c.span
  decoratorLines p c.decorators
  text "class"
  match id with
  | some id =>
    space
    ident id
  | none => pure ()
  match c.superClass with
  | some e =>
    text " extends "
    p.expr e
  | none => pure ()
  text " \x7b"
  newline
  indented (c.members.forM fun m => do
    member p m
    newline)
  markClose c.span
  text "\x7d"

/-! ### JSX -/

def jsxName : JsxName → Print
  | .ident id => ident id
  | .member _ obj prop => do
    jsxName obj
    text "."
    ident prop
  | .namespaced _ ns name => do
    ident ns
    text ":"
    ident name

def jsxAttrs (p : Printer) (span : Span) (attrs : List Expr) : Print :=
  if attrs.isEmpty then pure ()
  else do
    space
    items { comma := false } span (attrs.map fun
      | .spread dots e => do
        text "\x7b"
        lead dots
        text "..."
        p.expr e
        text "\x7d"
      | e => p.expr e)

def jsx (p : Printer) : Expr → Print
  | .jsxElement _ openSpan name attrs _ selfClosing children closing => do
    text "<"
    jsxName name
    jsxAttrs p openSpan attrs
    if selfClosing then text "/"
    text ">"
    children.forM p.expr
    match closing with
    | some (_, closeName) =>
      text "</"
      jsxName closeName
      text ">"
    | none => pure ()
  | .jsxFragment _ _ _ children => do
    text "<>"
    children.forM p.expr
    text "</>"
  | .jsxText span raw => do
    markLo span
    text raw
    markHi span
  | .jsxContainer span e => do
    text "\x7b"
    trailAt (span.lo + 1)
    p.expr e
    text "\x7d"
  | .jsxSpreadChild _ e => do
    text "\x7b..."
    p.expr e
    text "\x7d"
  | .jsxAttr _ name value => do
    jsxName name
    match value with
    | some v =>
      text "="
      p.expr v
    | none => pure ()
  | _ => pure ()

/-! ### Expressions -/

/-- An operator needs a space before an operand that starts with its own sign. -/
def needsGap (op : UnaryOp) : Expr → Bool
  | .unary _ .plus _ => op == .plus
  | .unary _ .minus _ => op == .minus
  | .update _ .increment true _ => op == .plus
  | .update _ .decrement true _ => op == .minus
  | .num n => op == .minus && n.isNegative
  | _ => false

def unary (p : Printer) (span : Span) (op : UnaryOp) (arg : Expr) : Print := node span do
  text op.text
  match op with
  | .typeOf | .void | .delete => space
  | _ => if needsGap op arg then space
  p.expr arg

/-- The operators of a chain of binary expressions that lean to the left, from the inside out. -/
def leftSpine : Expr → List (BinaryOp × Expr) → Expr × List (BinaryOp × Expr)
  | .binary _ op left right, acc => leftSpine left ((op, right) :: acc)
  | e, acc => (e, acc)

def binary (p : Printer) (span : Span) (e : Expr) : Print := node span do
  let (first, rest) := leftSpine e []
  p.expr first
  for (op, right) in rest do
    text (" " ++ op.text ++ " ")
    p.expr right

/-- Whether a point after a number would be read as part of it. -/
def eatsPoint (n : Num) : Bool :=
  let t := n.literal.replace "_" ""
  t.all Char.isDigit && !(t.length > 1 && t.startsWith "0")

/-- The comments at a distance before a name. -/
def leadBefore (s : Span) (distance : Nat) : Print :=
  if s.isSynthesized || s.lo ≤ distance then pure () else leadAt (s.lo - distance)

/-- The object of a member access. -/
def memberObject (p : Printer) (obj key : Expr) : Print := do
  p.expr obj
  match obj with
  | .num n =>
    if eatsPoint n then
      leadBefore key.span 2
      text "."
  | _ => pure ()

/-- The name of a member access, with the comments in front of its point. -/
def memberKey (p : Printer) (key : Expr) : Print := do
  match key with
  | .keyComputed _ _ => p.expr key
  | _ =>
    leadBefore key.span 1
    text "."
    p.expr key

def arguments (p : Printer) (span : Span) (args : List Expr) : Print := do
  text "("
  items {} span (args.map p.expr)
  text ")"

def optChain (p : Printer) (optional : Bool) (base : Expr) : Print := do
  match base with
  | .member _ obj key =>
    if optional then
      p.expr obj
      text "?."
      p.expr key
    else
      p.expr obj
      match key with
      | .keyComputed _ _ => p.expr key
      | _ =>
        text "."
        p.expr key
  | .call span callee args _ =>
    p.expr callee
    if optional then text "?."
    arguments p span args
  | e => p.expr e

/-- A template. An empty piece of text of an untagged template leaves no marks. -/
def template (p : Printer) (tagged : Bool) (span : Span) (quasis : List Quasi)
    (exprs : List Expr) : Print :=
  node span do
    text "\x60"
    let rec go : List Quasi → List Expr → Print
      | q :: qs, es => do
        if tagged || !q.raw.isEmpty then do
          markLo q.span
          text q.raw
          markHi q.span
        match es with
        | e :: es => do
          text "$\x7b"
          p.expr e
          text "\x7d"
          go qs es
        | [] => pure ()
      | [], _ => pure ()
    go quasis exprs
    text "\x60"
    markHi span

def isHole : Expr → Bool
  | .hole => true
  | _ => false

def array (p : Printer) (span : Span) (elems : List Expr) : Print := node span do
  text "["
  let force := (elems.getLast?.map isHole).getD false
  items { lines := true, keepComma := true, forceComma := force } span (elems.map p.expr)
  text "]"
  markHi span

/-- Whether comments in front of an expression would put a line end before it. -/
def leadBreaks (w : Writer) : Expr → Bool
  | e =>
    let breaks (lo : Nat) : Bool := match w.leading[lo]? with
      | some cs => cs.any fun c => !c.isBlock || c.text.any Text.isLineBreak
      | none => false
    (!e.span.isSynthesized && breaks e.span.lo) || go breaks e
where
  go (breaks : Nat → Bool) : Expr → Bool
    | .call _ callee _ _ => breaks callee.span.lo || go breaks callee
    | .member _ obj _ => breaks obj.span.lo || go breaks obj
    | .binary _ _ left _ => breaks left.span.lo || go breaks left
    | .cond _ test _ _ => breaks test.span.lo || go breaks test
    | .seq _ (e :: _) => breaks e.span.lo || go breaks e
    | .optChain _ _ base => go breaks base
    | .tagged _ tag _ _ => breaks tag.span.lo || go breaks tag
    | _ => false

/-- The operand of `return`, `throw` or `yield`, which must start on the line of its word. -/
def operand (p : Printer) (e : Expr) : Print := do
  if leadBreaks (← get) e then
    text "("
    p.expr e
    text ")"
  else
    space
    p.expr e

/-- The parts of an expression that are not expressions themselves. -/
def part (p : Printer) : Expr → Print
  | .hole => pure ()
  | .spread dots e => do
    lead dots
    text "..."
    p.expr e
  | .keyName id => ident id
  | .keyPrivate id => node id.span do
    text "#"
    markLo id.span
    text id.name
    markHi id.span
  | .keyComputed span e => node span do
    text "["
    p.expr e
    text "]"
    markHi span
  | .propShorthand id => ident id
  | .propValue key value => do
    lead key.span
    propertyName p key
    if value.span.isSynthesized then markHi key.span
    text ": "
    if key.span.isSynthesized then markLo value.span
    p.expr value
  | .propDefault span id value => node span do
    ident id
    text "="
    p.expr value
  | .propMethod span kind key f => node span do
    methodWords kind f
    propertyName p key
    space
    match kind with
    | .setter =>
      text "("
      items {} span (f.params.map fun q => p.pat q.undecorated)
      text ")"
      match f.body with
      | some b => block p b true
      | none => pure ()
    | .getter =>
      text "()"
      match f.body with
      | some b =>
        space
        block p b true
      | none => pure ()
    | .method => functionTail p f false
  | e => jsx p e

/-- The property of an object that spreads another. -/
def property (p : Printer) : Expr → Print
  | .spread dots e => node dots do
    text "..."
    p.expr e
    markHi e.span
  | e => p.expr e

/-- The signs of an expression without the comments after it. -/
def exprBody (p : Printer) : Expr → Print
  | .thisRef span => do
    lead span
    markedText span "this"
  | .superRef span => do
    lead span
    markedText span "super"
  | .importRef span phase => do
    lead span
    markedText span "import"
    match phase with
    | .evaluation => pure ()
    | .source => text ".source"
    | .deferred => text ".defer"
  | .ident id => ident id
  | .null span => node span (text "null")
  | .bool span value => node span (text (if value then "true" else "false"))
  | .num n => node n.span (text n.literal)
  | .str s => str s
  | .bigint span raw => node span (markedLiteral span raw)
  | .regex span pattern flags => node span do
    text ("/" ++ pattern ++ "/")
    text flags
  | .array span elems => array p span elems
  | .object span props => node span do
    text "\x7b"
    if props.isEmpty && (← waitsAtClose span) then newline
    items { lines := true } span (props.map (property p))
    markClose span
    text "\x7d"
  | .func id f => function p id f
  | .arrow span isAsync ps body _ => arrow p span isAsync ps body
  | .classExpr id c => classBody p id c
  | .unary span op arg => unary p span op arg
  | .update span op before arg => node span do
    if before then text op.text
    p.expr arg
    unless before do text op.text
  | .binary span op l r => binary p span (.binary span op l r)
  | .assign span op target value => do
    lead span
    p.pat target
    text (" " ++ op.text ++ " ")
    p.expr value
  | .member span obj key => node span do
    match key with
    | .keyComputed _ _ => p.expr obj
    | _ => memberObject p obj key
    memberKey p key
    match obj with
    | .superRef _ => pure ()
    | _ => markHi span
  | .cond span test whenTrue whenFalse => node span do
    p.expr test
    text " ? "
    p.expr whenTrue
    text " : "
    p.expr whenFalse
  | .call span callee args _ => node span do
    p.expr callee
    arguments p span args
  | .new span callee args bare _ => node span do
    text "new "
    p.expr callee
    unless bare do arguments p span args
  | .seq span exprs => do
    lead span
    markLo span
    items {} span (exprs.map p.expr)
  | .template span quasis exprs => template p false span quasis exprs
  | .tagged span tag quasi _ => node span do
    p.expr tag
    match quasi with
    | .template span quasis exprs => template p true span quasis exprs
    | quasi => p.expr quasi
  | .yield span delegate arg => node span do
    text "yield"
    if delegate then text "*"
    match arg with
    | some e =>
      if delegate then
        space
        p.expr e
      else operand p e
    | none => pure ()
  | .await span arg => node span do
    text "await "
    p.expr arg
  | .metaProp span kind => node span (text (match kind with
    | .newTarget => "new.target"
    | .importMeta => "import.meta"))
  | .paren span inner => node span do
    text "("
    p.expr inner
    markClose span
    text ")"
  | .optChain span optional base => do
    lead span
    optChain p optional base
  | .typed _ _ inner _ => p.expr inner
  | .invalid span => do
    lead span
    markedLiteral span "<invalid>"
  | e => part p e

/-- Whether the comments after an expression are its own. -/
def takesComments : Expr → Bool
  | .hole | .spread _ _ | .keyName _ | .keyPrivate _ | .keyComputed _ _ | .propShorthand _
  | .propValue _ _ | .propDefault _ _ _ | .propMethod _ _ _ _ | .jsxText _ _ | .jsxContainer _ _
  | .jsxEmpty _ | .jsxSpreadChild _ _ | .jsxAttr _ _ _ => false
  | _ => true

def exprRule (p : Printer) (e : Expr) : Print := do
  exprBody p e
  if takesComments e then trail e.span

/-! ### Patterns -/

def patBody (p : Printer) : Pat → Print
  | .ident id => ident id
  | .array span elems => node span do
    text "["
    items { keepComma := true } span (elems.map p.pat)
    text "]"
    markHi span
  | .object span props => node span do
    text "\x7b"
    items { braceSpace := true, keepComma := true } span (props.map p.pat)
    text "\x7d"
    markHi span
  | .rest span dots arg => do
    lead span
    markedText dots "..."
    p.pat arg
  | .assign span left right => node span do
    p.pat left
    text " = "
    p.expr right
    markHi span
  | .expr e => p.expr e
  | .invalid span => do
    lead span
    markedLiteral span "<invalid>"
  | .hole => pure ()
  | .propValue key value => node (Pat.propValue key value).span do
    propertyName p key
    text ": "
    p.pat value
    markHi (Pat.propValue key value).span
  | .propShorthand span id default => node span do
    ident id
    match default with
    | some e =>
      text " = "
      p.expr e
    | none => pure ()
    markHi span
    trailTight span
  | .param span ds declares pat => param p (.param span ds declares pat)
  | .typed pat _ => p.pat pat

def patRule (p : Printer) (pat : Pat) : Print := do
  patBody p pat
  match pat with
  | .hole | .propValue _ _ | .propShorthand _ _ _ | .param _ _ _ _ | .typed _ _ => pure ()
  | pat => trail pat.span

/-! ### Statements -/

def declarator (p : Printer) (d : Declarator) : Print := node d.span do
  p.pat d.name
  match d.init with
  | some e =>
    text " = "
    p.expr e
  | none => pure ()

/-- Variables without the semicolon. -/
def declarators (p : Printer) (span : Span) (words : String) (decls : List Declarator) : Print :=
  node span do
    text words
    space
    items {} span (decls.map (declarator p))

/-- The head of a loop: a declaration without its semicolon, an expression or a target. -/
def loopHead (p : Printer) : Stmt → Print
  | .varDecl span kind _ decls => declarators p span kind.text decls
  | .usingDecl span isAwait decls => declarators p span (if isAwait then "await using" else "using") decls
  | .expr _ e => p.expr e
  | .forTarget pat => p.pat pat
  | _ => pure ()

def importSpecifier : ImportSpecifier → Print
  | .named span binding imported _ => node span do
    match imported with
    | some name =>
      exportName name
      text " as "
    | none => pure ()
    ident binding
    markHi span
    trailTight span
  | .default _ binding => ident binding
  | .namespaceAll _ binding => do
    text "* as "
    ident binding

def exportSpecifier : ExportSpecifier → Print
  | .named span orig exported _ => node span do
    exportName orig
    match exported with
    | some name =>
      text " as "
      exportName name
    | none => pure ()
    markHi span
    trailTight span
  | .namespaceAll span name => node span do
    text "* as "
    exportName name
    markHi span

/-- The names of an import or export in braces. -/
def braced (span : Span) (ps : List Print) : Print := do
  text "\x7b"
  if ps.isEmpty then space
  items { braceSpace := true } span ps
  text "\x7d"

def attributes (p : Printer) : Option Expr → Print
  | some e => do
    text " with "
    p.expr e
  | none => pure ()

def isNamedImport : ImportSpecifier → Bool
  | .named .. => true
  | _ => false

def importDecl (p : Printer) (span : Span) (specifiers : List ImportSpecifier) (source : Str)
    (attrs : Option Expr) (phase : ImportPhase) : Print := node span do
  text "import "
  match phase with
  | .evaluation => pure ()
  | .source => text "source "
  | .deferred => text "defer "
  let named := specifiers.filter isNamedImport
  let others := specifiers.filter (!isNamedImport ·)
  separated {} (others.map importSpecifier)
  if !named.isEmpty then
    if !others.isEmpty then text ", "
    braced span (named.map importSpecifier)
  if !specifiers.isEmpty then text " from "
  str source
  attributes p attrs
  text ";"
  markHi span

def isNamespaceExport : ExportSpecifier → Bool
  | .namespaceAll .. => true
  | _ => false

def exportNamed (p : Printer) (span : Span) (specifiers : List ExportSpecifier) (source : Option Str)
    (attrs : Option Expr) : Print := node span do
  text "export "
  let spaces := specifiers.filter isNamespaceExport
  let named := specifiers.filter (!isNamespaceExport ·)
  separated {} (spaces.map exportSpecifier)
  if spaces.isEmpty || !named.isEmpty then
    if !spaces.isEmpty then text ", "
    braced span (named.map exportSpecifier)
  match source with
  | some s =>
    text " from "
    str s
    attributes p attrs
  | none => pure ()
  text ";"
  markHi span

/-- A declaration without its semicolon and line end. -/
def declaration (p : Printer) : Stmt → Print
  | .classDecl id _ c => classBody p (some id) c
  | .funcDecl id _ f => function p (some id) f
  | .varDecl span kind _ decls => declarators p span kind.text decls
  | .usingDecl span isAwait decls => declarators p span (if isAwait then "await using" else "using") decls
  | _ => pure ()

def switchCase (p : Printer) : Stmt → Print
  | .switchCase span test body => node span do
    match test with
    | some e =>
      text "case "
      p.expr e
    | none => text "default"
    text ":"
    unless body.isEmpty do
      newline
      indented (body.forM fun s => do
        p.stmt s
        newline)
  | _ => pure ()

def catchClause (p : Printer) : Stmt → Print
  | .catchClause span param body => node span do
    text "catch "
    match param with
    | some pat =>
      text "("
      p.pat pat
      text ")"
    | none => pure ()
    space
    block p body true
  | _ => pure ()

def isBlock : Stmt → Bool
  | .block _ => true
  | _ => false

/-- The signs of a statement without its line end. -/
def stmtBody (p : Printer) : Stmt → Print
  | .expr span e => do
    lead span
    p.expr e
    text ";"
  | .block b => block p b true
  | .empty span => do
    lead span
    text ";"
  | .debugger span => do
    lead span
    markedText span "debugger"
    text ";"
  | .withStmt span obj body => do
    markLo span
    text "with ("
    p.expr obj
    text ")"
    p.stmt body
  | .returnStmt span arg => node span do
    text "return"
    match arg with
    | some e => operand p e
    | none => pure ()
    text ";"
  | .labeled span label body => node span do
    ident label
    text ": "
    p.stmt body
  | .breakStmt span label => do
    markLo span
    text "break"
    match label with
    | some id =>
      space
      ident id
    | none => pure ()
    text ";"
  | .continueStmt span label => do
    markLo span
    text "continue"
    match label with
    | some id =>
      space
      ident id
    | none => pure ()
    text ";"
  | .ifStmt span test whenTrue whenFalse => node span do
    text "if ("
    p.expr test
    text ") "
    p.stmt whenTrue
    match whenFalse with
    | some s =>
      if isBlock whenTrue then space
      text "else "
      p.stmt s
    | none => pure ()
  | .switch span subject cases => node span do
    text "switch("
    p.expr subject
    text ")\x7b"
    newline
    indented (cases.forM fun c => do
      switchCase p c
      newline)
    markClose span
    text "\x7d"
  | .throwStmt span arg => node span do
    text "throw"
    operand p arg
    text ";"
  | .tryStmt span body handler finalizer => node span do
    text "try "
    block p body true
    match handler with
    | some h =>
      space
      catchClause p h
    | none => pure ()
    match finalizer with
    | some b =>
      text " finally"
      block p b true
    | none => pure ()
  | .whileLoop span test body => node span do
    text "while("
    p.expr test
    text ")"
    p.stmt body
  | .doWhile span body test => node span do
    text "do "
    p.stmt body
    text "while ("
    p.expr test
    text ")"
    markHi span
  | .forLoop span init test update body => node span do
    text "for("
    match init with
    | some s => loopHead p s
    | none => pure ()
    text ";"
    match test with
    | some e =>
      space
      p.expr e
    | none => pure ()
    text ";"
    match update with
    | some e =>
      space
      p.expr e
    | none => pure ()
    text ")"
    p.stmt body
  | .forIn span left right body => node span do
    text "for("
    loopHead p left
    text " in "
    p.expr right
    text ")"
    p.stmt body
  | .forOf span isAwait left right body => node span do
    text (if isAwait then "for await (" else "for (")
    loopHead p left
    text " of "
    p.expr right
    text ")"
    p.stmt body
  | .varDecl span kind isAmbient decls => do
    declaration p (.varDecl span kind isAmbient decls)
    text ";"
  | .usingDecl span isAwait decls => do
    declaration p (.usingDecl span isAwait decls)
    text ";"
  | .importDecl span specifiers source _ attrs phase => importDecl p span specifiers source attrs phase
  | .exportDecl span d => node span do
    text "export "
    declaration p d
    match d with
    | .varDecl .. | .usingDecl .. =>
      text ";"
      markHi span
    | _ => pure ()
  | .exportNamed span specifiers source _ attrs => exportNamed p span specifiers source attrs
  | .exportAll span source _ attrs => node span do
    text "export * from "
    str source
    attributes p attrs
    text ";"
    markHi span
  | .exportDefaultClass span id c => node span do
    text "export default "
    classBody p id c
  | .exportDefaultFunc span id f => node span do
    text "export default "
    function p id f
  | .exportDefaultExpr span e => node span do
    text "export default "
    p.expr e
    text ";"
    markHi span
  | s => declaration p s

def stmtRule (p : Printer) (s : Stmt) : Print := do
  stmtBody p s
  match s with
  | .block _ => pure ()
  | s =>
    trail s.span
    newline

/-- The printer for a bounded depth of nesting. -/
def ofDepth : Nat → Printer
  | 0 => ⟨fun _ => pure (), fun _ => pure (), fun _ => pure ()⟩
  | depth + 1 =>
    ⟨fun e w => exprRule (ofDepth depth) e w, fun q w => patRule (ofDepth depth) q w,
     fun s w => stmtRule (ofDepth depth) s w⟩

/-- An item of a module, with the comments that its statement leaves. -/
def moduleItem (p : Printer) (s : Stmt) : Print := do
  lead s.span
  p.stmt s
  trail s.span

/-- A whole program. The comments at its start are its own only if no item starts there. -/
def program (p : Printer) (prog : Program) : Print := do
  unless prog.body.any (·.span.lo == prog.span.lo) do lead prog.span
  match prog.shebang with
  | some line =>
    text ("#!" ++ line)
    newline
  | none => pure ()
  prog.body.forM (if prog.isModule then moduleItem p else p.stmt)
  trail prog.span

end Printer

end Detype
