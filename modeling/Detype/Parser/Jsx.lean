import Detype.Parser.Exprs

/-
**JSX.**

Elements, fragments, attributes and the text between tags. Inside a tag names may hold hyphens, and
between tags everything but a brace or a tag is text; so each closing sign says how the token after it
is to be read.
-/

namespace Detype.Parser

/-- A word in a tag. -/
def jsxIdent : Parser Ident := do
  match ← token with
  | .word name _ =>
    let span ← curSpan
    bumpInto .jsxTag
    return { name, span }
  | _ => unexpected "jsx identifier"

/-- A name, maybe with a namespace in front. -/
def jsxNamespacedName : Parser JsxName := do
  let lo ← curLo
  let id ← jsxIdent
  if ← isPunct ":" then
    bumpInto .jsxTag
    let name ← jsxIdent
    return .namespaced (← spanFrom lo) id name
  return .ident id

/-- The name of an element: plain, namespaced or dotted. -/
def jsxElementName : Parser JsxName := do
  let lo ← curLo
  let first ← jsxNamespacedName
  iterate (fun (n : JsxName) => do
    if ← isPunct "." then
      bumpInto .jsxTag
      let prop ← jsxIdent
      return (.member (← spanFrom lo) n prop, true)
    else return (n, false)) (← loopFuel) first

/-- An expression between braces, whose opening brace is the current token. The token after the
closing one is read as told. -/
def jsxContainer (g : Grammar) (after : Next) : Parser Expr := do
  let lo ← curLo
  bump
  if ← isPunct "\x7d" then
    let close ← curSpan
    let emptySpan : Span := ⟨lo + 1, close.lo⟩
    bumpInto after
    return .jsxContainer (← spanFrom lo) (.jsxEmpty emptySpan)
  if after == .jsxText && (← eatPunct "...") then
    let e ← g.expr
    unless ← isPunct "\x7d" do expectPunct "\x7d"
    bumpInto after
    return .jsxSpreadChild (← spanFrom lo) e
  let e ← g.expr
  unless ← isPunct "\x7d" do expectPunct "\x7d"
  bumpInto after
  return .jsxContainer (← spanFrom lo) e

/-- The value of an attribute. -/
def jsxAttrValue (g : Grammar) : Parser Expr := do
  match ← token with
  | .punct "\x7b" =>
    let lo ← curLo
    match ← jsxContainer g .jsxTag with
    | .jsxContainer _ (.jsxEmpty _) => failAt .jsxEmptyAttr (← spanFrom lo)
    | e => return e
  | .str value raw =>
    let span ← curSpan
    bumpInto .jsxTag
    return .str { value, span, raw := some raw }
  | .punct "<" => g.jsx .jsxTag
  | _ => failAt .jsxValue (← curSpan)

/-- One attribute. -/
def jsxAttr (g : Grammar) : Parser Expr := do
  let lo ← curLo
  if ← isPunct "\x7b" then
    bump
    let dotsLo ← curLo
    expectPunct "..."
    let dots ← spanFrom dotsLo
    let e ← g.assign
    unless ← isPunct "\x7d" do expectPunct "\x7d"
    bumpInto .jsxTag
    return .spread dots e
  let name ← jsxNamespacedName
  if ← isPunct "=" then
    bumpInto .jsxAttrValue
    let value ← jsxAttrValue g
    return .jsxAttr (← spanFrom lo) name (some value)
  return .jsxAttr (← spanFrom lo) name none

/-- The written form of an element's name. -/
def jsxNameText : JsxName → String
  | .ident id => id.name
  | .namespaced _ ns name => ns.name ++ ":" ++ name.name
  | .member _ obj prop => jsxNameText obj ++ "." ++ prop.name

/-- One child of an element, if there is one. -/
def jsxChild (g : Grammar) : Parser (Option Expr) := do
  match ← token with
  | .jsxText raw =>
    let span ← curSpan
    bumpInto .jsxText
    return some (.jsxText span raw)
  | .punct "\x7b" => return some (← jsxContainer g .jsxText)
  | .punct "<" => return some (← g.jsx .jsxText)
  | _ => return none

/-- What stands between an opening and a closing tag. A child that cannot be read ends the list. -/
def jsxChildren (g : Grammar) : Parser (List Expr) := do
  collect (orElse (jsxChild g) fun _ => return none) (← loopFuel)

/-- An element or fragment at its opening sign. The token after its end is read as told. -/
def jsxRule (g : Grammar) (after : Next) : Parser Expr := do
  let lo ← curLo
  bumpInto .jsxTag
  if ← isPunct ">" then
    bumpInto .jsxText
    let openSpan ← spanFrom lo
    let children ← jsxChildren g
    let closeLo ← curLo
    unless ← isPunct "</" do expectPunct "</"
    bumpInto .jsxTag
    unless ← isPunct ">" do expectPunct ">"
    bumpInto after
    return .jsxFragment (← spanFrom lo) openSpan (← spanFrom closeLo) children
  let name ← jsxElementName
  let types ← if ← isPunct "<" then do
      let types ← typeArgs g
      rescan fun s i => Lexer.scanToken s .jsxTag i
      pure types
    else pure []
  let attrs ← collect (do
    if (← isPunct "/") || (← isPunct ">") then return none
    return some (← jsxAttr g)) (← loopFuel)
  if ← isPunct "/" then
    bumpInto .jsxTag
    unless ← isPunct ">" do expectPunct ">"
    bumpInto after
    let span ← spanFrom lo
    return .jsxElement span span name attrs types true [] none
  unless ← isPunct ">" do expectPunct ">"
  bumpInto .jsxText
  let openSpan ← spanFrom lo
  let children ← jsxChildren g
  let closeLo ← curLo
  unless ← isPunct "</" do expectPunct "</"
  bumpInto .jsxTag
  let closeName ← jsxElementName
  unless ← isPunct ">" do expectPunct ">"
  bumpInto after
  let closeSpan ← spanFrom closeLo
  if jsxNameText closeName != jsxNameText name then
    failAt (.jsxClosingTag (jsxNameText name)) closeName.span
  return .jsxElement (← spanFrom lo) openSpan name attrs types false children (some (closeSpan, closeName))

end Detype.Parser
