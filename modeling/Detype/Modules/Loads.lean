import Detype.Modules.Links
import Detype.Modules.References

/-
**Modules loaded while the program runs.**

Calls of `import` and the properties of `import.meta` in terms of what each module convention offers.

* `LoadForm` — how a convention spells them.
* `LoadForm.byRequire`, `LoadForm.byDefine` — the two conventions that do.
* `LoadForm.spell` — some statements with their loads spelled out.
* `hasLoad` — whether some statements load a module.
-/

namespace Detype

/-- How a module convention spells loads. -/
structure LoadForm where
  /-- A call of `import` with its arguments. -/
  load : Span → List Expr → Fresh Expr
  /-- A property of `import.meta`: the place of the access, the place of its object, the property. -/
  metaProperty : Span → Span → Expr → String → Option Expr

namespace LoadForm

/-- The name of a property of `import.meta` that is known while compiling. -/
def metaName? : Expr → Option String
  | .keyName id => some id.name
  | .keyComputed _ (.str s) => some s.text
  | _ => none

def expr (form : LoadForm) (w : Walker Fresh) : Expr → Fresh Expr
  | .call s (.importRef r .evaluation) args types => do
    let args ← args.mapM w.expr
    match args with
    | .spread .. :: _ => return .call s (.importRef r .evaluation) args types
    | args => form.load s args
  | .member s (.metaProp m .importMeta) key => do
    match (metaName? key).bind (form.metaProperty s m key) with
    | some e => return e
    | none => return .member s (.metaProp m .importMeta) (← w.expr key)
  | e => w.onExpr e

def walker (form : LoadForm) (w : Walker Fresh) : Walker Fresh := { w.through with expr := form.expr w }

/-- Some statements with their loads spelled out. -/
def spell (form : LoadForm) (depth : Nat) (body : List Stmt) : Fresh (List Stmt) :=
  body.mapM (Walker.fix form.walker depth).stmt

/-- A module that was loaded while running, after the bridge. -/
def bridged (interop : Interop) (e : Expr) : Expr :=
  let f := Expr.ident PreludeFunction.requireWildcard.ident
  match interop with
  | .none => e
  | .wrapped => .applyPure f [e]
  | .node => .applyPure f [e, .bool {} true]

/-- The path of a load in its own spelling. -/
def respelled : Expr → Expr
  | .str s => .str { s with raw := none }
  | e => e

/-- The same by `require`: a promise that calls it. -/
def requireLoad (interop : Interop) (span : Span) (args : List Expr) : Fresh Expr := do
  let promise (args : List Expr) : Expr :=
    (Expr.apply (Expr.dot (.ident ⟨"Promise", {}, unmarked⟩) "resolve") args).dot "then"
  let require := Expr.global "require"
  match args with
  | .str s :: rest =>
    let args := respelled (.str s) :: rest
    return .call span (promise []) [.thunk [] (bridged interop (.apply require args))] []
  | args =>
    let p ← Fresh.ident "p"
    return .call span (promise args) [.thunk [p] (bridged interop (.apply require [.ident p]))] []

/-- The properties of `import.meta` where each file is a module of its own. -/
def requireMeta (span objSpan : Span) (key : Expr) : String → Option Expr
  | "url" =>
    let require := Expr.ident ⟨"require", objSpan, globalMark⟩
    let path := Expr.apply (.dot (.apply require [.text "url"]) "pathToFileURL") [.global "__filename"]
    some (.call span (.dot path "toString") [] [])
  | "resolve" => some (.member span (.ident ⟨"require", objSpan, globalMark⟩) key)
  | "filename" => some (.ident ⟨"__filename", span, globalMark⟩)
  | "dirname" => some (.ident ⟨"__dirname", span, globalMark⟩)
  | "main" => some (.binary span .eqEq (.dot (.global "require") "main") (.global "module"))
  | _ => none

/-- Loads by `require` calls. -/
def byRequire (interop : Interop) : LoadForm := { load := requireLoad interop, metaProperty := requireMeta }

/-- A promise around an asynchronous `require`. -/
def asyncLoad (require : Ident) (interop : Interop) (span : Span) (args : List Expr) : Fresh Expr := do
  let resolve ← Fresh.ident "resolve"
  let reject ← Fresh.ident "reject"
  let m ← Fresh.ident "m"
  let done := Expr.thunk [m] (.apply (.ident resolve) [bridged interop (.ident m)])
  let path := (args.take 1).map respelled
  let call := Expr.apply (.ident require) [.array {} path, done, .ident reject]
  return .new span (.ident ⟨"Promise", {}, unmarked⟩) [.thunk [resolve, reject] call] false []

/-- The properties of `import.meta` where a wrapper passes the module. -/
def wrapperMeta (require self : Ident) (span objSpan : Span) (key : Expr) : String → Option Expr
  | "url" =>
    let base := Expr.dot (.ident ⟨"document", {}, unmarked⟩) "baseURI"
    let url := Expr.new {} (.ident ⟨"URL", {}, unmarked⟩) [.dot (.ident self) "uri", base] false []
    some (.member span url (.key "href"))
  | "resolve" =>
    let key := match key with
      | .keyComputed s _ => Expr.keyComputed s (.text "toUrl")
      | key => .key "toUrl" key.span
    some (.member span (.ident { require with span := objSpan }) key)
  | "filename" => some (.dot (.ident self) "uri")
  | "dirname" =>
    let parts := Expr.apply (.dot (.dot (.ident self) "uri") "split") [.text "/"]
    let folders := Expr.apply (.dot parts "slice") [.ofNat 0, .unary {} .minus (.ofNat 1)]
    some (.apply (.dot folders "join") [.text "/"])
  | "main" => some (.binary span .eqEq (.dot (.ident self) "id") (.text "main"))
  | _ => none

/-- Loads by an asynchronous `require` that a wrapper passes. -/
def byDefine (interop : Interop) (require self : Ident) : LoadForm :=
  { load := asyncLoad require interop, metaProperty := wrapperMeta require self }

end LoadForm

/-! ### Looking for loads -/

/-- A walk that notes calls of `import`. -/
def loadFinder (w : Walker (StateM Bool)) : Walker (StateM Bool) :=
  { w.through with
    expr := fun
      | .importRef s phase => do set true; return .importRef s phase
      | e => w.onExpr e }

/-- Whether some statements load a module while running. -/
def hasLoad (body : List Stmt) (depth : Nat) : Bool :=
  ((body.mapM (Walker.fix loadFinder depth).stmt).run false).2

/-- A walk that notes properties of `import.meta`. -/
def metaFinder (w : Walker (StateM Bool)) : Walker (StateM Bool) :=
  { w.through with
    expr := fun
      | .member s (.metaProp m .importMeta) key => do
        if let some name := LoadForm.metaName? key then
          if ["url", "filename", "dirname", "main"].contains name then set true
        return .member s (.metaProp m .importMeta) (← w.expr key)
      | e => w.onExpr e }

/-- Whether some statements ask the wrapper for the module itself. -/
def asksForModule (body : List Stmt) (depth : Nat) : Bool :=
  ((body.mapM (Walker.fix metaFinder depth).stmt).run false).2

end Detype
