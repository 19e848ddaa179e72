import Detype.Syntax.Walk
import Detype.Syntax.Comments

/-
**Parentheses.**

The tree alone says what is grouped. Here the parentheses of the source are dropped, and an expression
gets a pair wherever the text would otherwise be read differently. A pair that stood in the source at
that place keeps its position; the comments of a pair that goes move to the expression.

* `Place` — how much the text around an expression leaves open.
* `Parens.walker` — one step of the pass.
* `Program.parenthesize` — the whole program.
-/

namespace Detype

/-- How much the text around an expression leaves open. -/
inductive Place where
  /-- At the start of a statement, where a brace or a declaration word would be misread. -/
  | start
  | callee (isNew : Bool)
  /-- Where a comma ends the expression. -/
  | item
  /-- Where any expression can stand. -/
  | free
deriving DecidableEq

structure ParenState where
  place : Place := .start
  inForHead : Bool := false
  inChain : Bool := false
  /-- The pairs that were dropped: the place of the expression and of the pair. -/
  dropped : List (Span × Span) := []

abbrev Parens := StateM ParenState

namespace Parens

/-- Runs at another place. -/
def at_ {α : Type} (place : Place) (act : Parens α) : Parens α := do
  let old := (← get).place
  modify ({ · with place })
  let a ← act
  modify ({ · with place := old })
  return a

/-- Runs inside or outside an optional chain. -/
def inChain {α : Type} (inside : Bool) (act : Parens α) : Parens α := do
  let old := (← get).inChain
  modify ({ · with inChain := inside })
  let a ← act
  modify ({ · with inChain := old })
  return a

/-- Runs inside or outside the head of a loop. -/
def inHead {α : Type} (inside : Bool) (act : Parens α) : Parens α := do
  let old := (← get).inForHead
  modify ({ · with inForHead := inside })
  let a ← act
  modify ({ · with inForHead := old })
  return a

/-- An expression without the pairs around it. -/
def unwrap : Expr → Parens Expr
  | .paren span inner => do
    let e ← unwrap inner
    modify fun s =>
      { s with dropped := (inner.span, span) :: s.dropped.filter (·.1 != inner.span) }
    return e
  | .seq _ [e] => unwrap e
  | e => return e

/-- A pair around an expression, the one that was dropped there if there was one. -/
def wrap (e : Expr) : Parens Expr := do
  let s ← get
  match s.dropped.find? (·.1 == e.span) with
  | some (_, span) =>
    set { s with dropped := s.dropped.filter (·.1 != e.span) }
    return .paren span e
  | none => return .paren e.span e

def wrapIf (p : Expr → Bool) (e : Expr) : Parens Expr := if p e then wrap e else return e

/-! ### Operators -/

/-- How tightly an operator binds. -/
def precedence : BinaryOp → Nat
  | .eqEq | .notEq | .eqEqEq | .notEqEq => 6
  | .lt | .ltEq | .gt | .gtEq | .isIn | .instanceOf => 7
  | .shl | .shr | .ushr => 8
  | .add | .sub => 9
  | .mul | .div | .mod => 10
  | .bitOr => 3
  | .bitXor => 4
  | .bitAnd => 5
  | .or | .nullish => 1
  | .and => 2
  | .exp => 11

def shortCircuits : BinaryOp → Bool
  | .or | .and | .nullish => true
  | _ => false

def wrapsRight (op : BinaryOp) : Expr → Bool
  | .assign .. | .seq .. | .yield .. | .cond .. | .arrow .. => true
  | .binary _ inner _ _ =>
    if inner == op then !(shortCircuits op || op == .exp)
    else precedence inner <= precedence op || (inner == .and && op == .nullish)
  | _ => false

def wrapsLeft (op : BinaryOp) (place : Place) : Expr → Bool
  | .binary _ inner _ _ =>
    if inner == .nullish || op == .nullish then inner != op
    else precedence inner < precedence op || (precedence inner == precedence op && op == .exp)
  | .unary .. | .await .. => op == .exp
  | .num n => op == .exp && n.isNegative
  | .seq .. | .yield .. | .cond .. | .assign .. | .arrow .. => true
  | .object .. | .func .. | .classExpr .. => place == .start
  | _ => false

/-- An operand of an operator that stands before it. -/
def wrapsOperand (op : UnaryOp) : Expr → Bool
  | .binary _ inner (.num _) (.num _) => !(op == .minus && (inner == .div || inner == .mul))
  | .assign .. | .binary .. | .seq .. | .cond .. | .arrow .. | .yield .. => true
  | _ => false

def wrapsCallee : Expr → Bool
  | .num _ | .str _ => false
  | .null _ | .bool .. | .bigint .. | .regex .. | .cond .. | .binary .. | .unary .. | .object .. | .await ..
  | .yield .. | .classExpr .. | .update .. | .assign .. | .seq .. | .arrow .. => true
  | _ => false

def wrapsNewCallee : Expr → Bool
  | .null _ | .bool .. | .num _ | .str _ | .bigint .. | .regex .. | .call .. | .await .. | .yield .. | .binary ..
  | .assign .. | .seq .. | .unary .. => true
  | _ => false

def wrapsObject (place : Place) : Expr → Bool
  | .object .. => place != .item
  | .num n => n.isNegative
  | .func .. | .cond .. | .unary .. | .seq .. | .update .. | .binary .. | .assign .. | .arrow ..
  | .classExpr .. | .yield .. | .await .. | .new _ _ _ true _ => true
  | _ => false

def isSeq : Expr → Bool
  | .seq .. => true
  | _ => false

def isChain : Expr → Bool
  | .optChain .. => true
  | _ => false

/-! ### Sequences -/

/-- Whether an expression has a value and does nothing. -/
def isIdle : Expr → Bool
  | .func .. | .arrow .. | .null _ | .bool .. | .num _ | .str _ | .bigint .. | .regex .. => true
  | _ => false

mutual

/-- What remains of an expression whose value nobody takes; one idle expression is kept. -/
def ignored (e : Expr) (kept : Bool) : Option Expr × Bool :=
  match e with
  | .unary _ .void arg => ignored arg kept
  | .seq s es =>
    let (es, kept) := ignoredInit es kept
    match es with
    | [] => (none, kept)
    | [e] => (some e, kept)
    | es => (some (.seq s es), kept)
  | e => if isIdle e then (if kept then none else some e, true) else (some e, kept)

/-- The same for all but the last of a sequence. -/
def ignoredInit (es : List Expr) (kept : Bool) : List Expr × Bool :=
  match es with
  | [] => ([], kept)
  | [e] => ([e], kept)
  | e :: es =>
    let (e, kept) := ignored e kept
    let (es, kept) := ignoredInit es kept
    (e.toList ++ es, kept)

end

/-- A sequence without sequences inside. -/
def flattened (es : List Expr) : List Expr :=
  es.flatMap fun
    | .seq _ inner => inner
    | e => [e]

/-- In a longer sequence every idle expression but the last can go. -/
def withoutIdle (es : List Expr) : List Expr :=
  if es.length > 2 then es.dropLast.filter (!isIdle ·) ++ es.getLast?.toList else es

/-- A sequence as it is written. -/
def sequence (span : Span) (es : List Expr) : Expr :=
  match (ignoredInit (flattened es) false).1 with
  | [e] => e
  | es => .seq span (withoutIdle es)

/-! ### Expressions -/

/-- The target of an assignment needs no pair. -/
def isObjectPattern : Pat → Bool
  | .object .. => true
  | _ => false

def isPattern : Pat → Bool
  | .object .. | .array .. => true
  | _ => false

/-- An expression at the start of a statement. -/
def openStatement : Expr → Parens Expr
  | .assign s op target v => if isObjectPattern target then wrap (.assign s op target v)
    else return .assign s op target v
  | .seq s es => do
    let init ← es.dropLast.mapM openItem
    return .seq s (init ++ es.getLast?.toList)
  | e => wrapIf opens e
where
  opens : Expr → Bool
    | .object .. | .classExpr .. | .func .. => true
    | .assign _ _ target _ => isObjectPattern target
    | _ => false
  openItem (e : Expr) : Parens Expr := wrapIf opens e

def memberParts (w : Walker Parens) (obj key : Expr) : Parens (Expr × Expr) := do
  let obj ← w.expr obj
  let key ← w.expr key
  let s ← get
  let obj ← wrapIf (fun e => wrapsObject s.place e || (isChain e && !s.inChain)) obj
  return (obj, key)

def chainBase (w : Walker Parens) : Expr → Parens Expr
  | .member s obj key => inChain true do
    let (obj, key) ← memberParts w obj key
    return .member s obj key
  | .call s callee args types => do
    let callee ← inChain true (at_ (.callee false) (w.expr callee))
    let callee ← wrapIf wrapsCallee callee
    return .call s callee (← at_ .item (args.mapM w.expr)) types
  | e => w.expr e

/-- The parts of an expression. -/
def parts (w : Walker Parens) : Expr → Parens Expr
  | .array s es => return .array s (← at_ .item (es.mapM w.expr))
  | .propValue k v => return .propValue (← w.expr k) (← at_ .item (w.expr v))
  | .spread d e => return .spread d (← at_ .item (w.expr e))
  | .keyComputed s e => return .keyComputed s (← w.expr e)
  | .arrow s isAsync params body types => do
    let params ← at_ .start (params.mapM w.pat)
    let needed : Expr → Bool
      | .seq .. | .object .. => true
      | .assign _ _ target _ => isPattern target
      | _ => false
    match ← at_ .start (w.arrowBody body) with
    | .expr e => return .arrow s isAsync params (.expr (← wrapIf needed e)) types
    | body => return .arrow s isAsync params body types
  | .assign s op target v => do
    let target ← w.pat target
    let v ← at_ .free (w.expr v)
    return .assign s op target (← wrapIf isSeq v)
  | .await s a => do
    let a ← at_ .item (w.expr a)
    let needed : Expr → Bool
      | .cond .. | .assign .. | .binary .. | .yield .. | .arrow .. => true
      | _ => false
    return .await s (← wrapIf needed a)
  | .yield s d a => return .yield s d (← at_ .item (w.optExpr a))
  | .binary s op l r => do
    let l ← w.expr l
    let r ← at_ .free (w.expr r)
    let place := (← get).place
    return .binary s op (← wrapIf (wrapsLeft op place) l) (← wrapIf (wrapsRight op) r)
  | .unary s op a => do
    let a ← w.expr a
    return .unary s op (← wrapIf (wrapsOperand op) a)
  | .update s op before a => return .update s op before (← w.expr a)
  | .cond s t a b => do
    let t ← w.expr t
    let (a, b) ← at_ .free (do return (← w.expr a, ← w.expr b))
    let place := (← get).place
    let needed : Expr → Bool
      | .seq .. | .assign .. | .cond .. | .arrow .. | .yield .. => true
      | .object .. | .func .. | .classExpr .. => place == .start
      | _ => false
    return .cond s (← wrapIf needed t) (← wrapIf isSeq a) (← wrapIf isSeq b)
  | .member s obj key => do
    let (obj, key) ← memberParts w obj key
    return .member s obj key
  | .call s callee args types => do
    let callee ← at_ (.callee false) (w.expr callee)
    let inChain := (← get).inChain
    let callee ← wrapIf (fun e => wrapsCallee e || (isChain e && !inChain)) callee
    return .call s callee (← at_ .item (args.mapM w.expr)) types
  | .optChain s o base => return .optChain s o (← chainBase w base)
  | .new s callee args bare types => do
    let args ← at_ .item (args.mapM w.expr)
    let callee ← at_ (.callee true) (w.expr callee)
    return .new s (← wrapIf wrapsNewCallee callee) args bare types
  | .tagged s tag quasi types => do
    let tag ← w.expr tag
    let place := (← get).place
    let needed : Expr → Bool
      | .object .. | .classExpr .. | .func .. => place == .start
      | .cond .. | .binary .. | .unary .. | .seq .. | .assign .. | .arrow .. | .yield .. | .await ..
      | .update .. | .optChain .. => true
      | _ => false
    return .tagged s (← wrapIf needed tag) (← w.expr quasi) types
  | e => w.onExpr e

/-- Whether the start of an expression may be the start of a statement. -/
def keepsStart : Expr → Bool
  | .optChain .. | .member .. | .binary .. | .assign .. | .seq .. | .cond .. | .tagged ..
  | .update _ _ false _ => true
  | _ => false

/-- What an expression needs at its place. -/
def finished (e : Expr) : Parens Expr := do
  let s ← get
  match e with
  | .binary _ .isIn _ _ => if s.inForHead then wrap e else return e
  | .seq span es =>
    match sequence span es with
    | .seq span es => if s.place == .item then wrap (.seq span es) else return .seq span es
    | e => return e
  | .call span callee args types =>
    match s.place with
    | .callee true => wrap e
    | .item | .free => return e
    | _ =>
      match callee with
      | .func .. => return .call span (← wrap callee) args types
      | _ => return e
  | .cond .. | .unary .. | .assign .. => if s.place == .callee true then wrap e else return e
  | e => return e

def expr (w : Walker Parens) (e : Expr) : Parens Expr := do
  let place := (← get).place
  let e ← unwrap e
  let inner := if place == .start && !keepsStart e then Place.free else place
  let e ← at_ inner (parts w e)
  finished e

def keyOf (w : Walker Parens) (k : Expr) : Parens Expr := do
  match ← w.expr k with
  | .keyComputed s e => return .keyComputed s (← wrapIf isSeq e)
  | k => return k

/-! ### Patterns, classes and statements -/

def pat (w : Walker Parens) : Pat → Parens Pat
  | .assign s l r => return .assign s (← w.pat l) (← at_ .item (w.expr r))
  | .propShorthand s id d => return .propShorthand s id (← at_ .item (w.optExpr d))
  | p => w.onPat p

def wrapsSuper : Expr → Bool
  | .seq .. | .await .. | .yield .. | .binary .. | .assign .. | .cond .. | .unary .. | .arrow .. => true
  | _ => false

def isEmptyMember : Member → Bool
  | .empty _ => true
  | _ => false

def member (w : Walker Parens) : Member → Parens Member
  | .field f => return .field { f with
      key := ← keyOf w f.key, value := ← at_ .item (w.optExpr f.value) }
  | .accessor f => return .accessor { f with
      key := ← keyOf w f.key, value := ← at_ .item (w.optExpr f.value) }
  | m => w.onMember m

def cls (w : Walker Parens) (c : Class) : Parens Class := at_ .start do
  let decorators ← at_ .free (c.decorators.mapM w.expr)
  let superClass ← c.superClass.mapM fun e => do wrapIf wrapsSuper (← at_ .free (w.expr e))
  let members ← inHead false ((c.members.filter (!isEmptyMember ·)).mapM (member w))
  return { c with decorators, superClass, members }

/-- Whether an `else` after the statement would be read as a part of it. -/
def takesElse : Stmt → Bool
  | .ifStmt _ _ _ none => true
  | .ifStmt _ _ _ (some s) | .labeled _ _ s | .whileLoop _ _ s | .forLoop _ _ _ _ s | .forIn _ _ _ s
  | .forOf _ _ _ _ s => takesElse s
  | _ => false

def isAsyncName : Expr → Bool
  | .ident id => id.name == "async"
  | _ => false

def stmt (w : Walker Parens) (s : Stmt) : Parens Stmt := inHead false do
  match s with
  | .expr span e =>
    let e ← at_ .start (w.expr e)
    return .expr span (← openStatement e)
  | .ifStmt span t a b => at_ .free do
    let t ← w.expr t
    let a ← w.stmt a
    let b ← b.mapM w.stmt
    if takesElse a then return .ifStmt span t (.block ⟨a.span, [a]⟩) b
    else return .ifStmt span t a b
  | .varDecl span kind isAmbient ds =>
    return .varDecl span kind isAmbient (← at_ .item (ds.mapM w.onDeclarator))
  | .usingDecl span isAwait ds => return .usingDecl span isAwait (← at_ .item (ds.mapM w.onDeclarator))
  | .forLoop span i t u body => at_ .free do
    let i ← i.mapM fun
      | .varDecl s kind isAmbient ds => inHead true do
        return .varDecl s kind isAmbient (← at_ .item (ds.mapM w.onDeclarator))
      | .usingDecl s isAwait ds => inHead true do
        return .usingDecl s isAwait (← at_ .item (ds.mapM w.onDeclarator))
      | .expr s e => inHead true do
        let e ← at_ .start (w.expr e)
        return .expr s (← openStatement e)
      | s => w.stmt s
    return .forLoop span i (← w.optExpr t) (← w.optExpr u) (← w.stmt body)
  | .forOf span isAwait l r body => at_ .free do
    let l ← w.stmt l
    let r ← w.expr r
    let l ← match l with
      | .forTarget (.expr e) =>
        if !isAwait && isAsyncName e then pure (Stmt.forTarget (.expr (← wrap e))) else pure l
      | .forTarget (.ident id) =>
        if !isAwait && id.name == "async" then pure (Stmt.forTarget (.expr (← wrap (.ident id)))) else pure l
      | l => pure l
    let needed : Expr → Bool
      | .seq .. | .await .. => true
      | _ => false
    return .forOf span isAwait l (← wrapIf needed r) (← w.stmt body)
  | .exportDefaultExpr span e =>
    let e ← at_ .start (w.expr e)
    let needed : Expr → Bool
      | .seq .. | .func .. | .classExpr .. => true
      | _ => false
    return .exportDefaultExpr span (← wrapIf needed e)
  | s => at_ .free (w.onStmt s)

/-- One step of the pass. -/
def walker (w : Walker Parens) : Walker Parens :=
  { expr := expr w, pat := pat w, stmt := stmt w, stmts := w.onStmts, func := w.onFunc, cls := cls w }

end Parens

/-- The program with parentheses where it needs them, and its comments at their new places. -/
def Program.parenthesize (p : Program) (comments : Comments) (depth : Nat) : Program × Comments :=
  let (body, s) := (p.body.mapM (Walker.fix Parens.walker depth).stmt).run {}
  let comments := s.dropped.foldl
    (fun c (expr, pair) => (c.moveLeading pair.lo expr.lo).moveTrailing pair.hi expr.hi) comments
  ({ p with body }, comments)

end Detype
