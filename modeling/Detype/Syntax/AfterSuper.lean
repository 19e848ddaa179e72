import Detype.Syntax.Walk
import Detype.Syntax.Build

/-
**Code that runs once `this` exists.**

What a constructor has to do before the statements of its own goes after each call of the parent's
constructor, since `this` is not there earlier. A constructor without such a call starts with it.

* `AfterSuper.walker` — the calls of the parent's constructor, with what follows them.
* `Block.afterSuper` — the body of a constructor with additions.
-/

namespace Detype

namespace AfterSuper

/-- What the walk knows and finds: whether the value of the place is dropped, and whether there was a
call of the parent's constructor. -/
abbrev Search := ReaderT Bool (StateM Bool)

def dropping {α : Type} (isDropped : Bool) (act : Search α) : Search α := withReader (fun _ => isDropped) act

def isSuperCall : Expr → Bool
  | .call _ (.superRef _) _ _ => true
  | _ => false

/-- A call and what follows it; the value is still that of the call where it is used. -/
def extended (inits : List Expr) (isDropped : Bool) (e : Expr) : Expr :=
  if isDropped then .seq {} (e :: inits) else .index (.array {} (e :: inits)) (.ofNat 0)

def expr (inits : List Expr) (w : Walker Search) : Expr → Search Expr
  | .paren s e => return .paren s (← w.expr e)
  | .seq s es => do
    let first ← es.dropLast.mapM fun e => dropping true (w.expr e)
    let last ← es.getLast?.toList.mapM w.expr
    return .seq s (first ++ last)
  | e => do
    let isDropped ← read
    let e ← dropping false (w.onExpr e)
    if !isSuperCall e then return e
    set true
    return extended inits isDropped e

def stmt (w : Walker Search) : Stmt → Search Stmt
  | .expr s e => return .expr s (← dropping true (w.expr e))
  | s => w.onStmt s

/-- One step of the walk. Functions and classes inside have a `this` of their own. -/
def walker (inits : List Expr) (w : Walker Search) : Walker Search :=
  { expr := expr inits w, pat := w.onPat, stmt := stmt w, stmts := w.onStmts, func := pure, cls := pure }

end AfterSuper

/-- The body of a constructor with expressions that run as soon as `this` exists. -/
def Block.afterSuper (inits : List Expr) (depth : Nat) (b : Block) : Block :=
  if inits.isEmpty then b
  else
    let w := Walker.fix (AfterSuper.walker inits) depth
    let (stmts, found) := (b.stmts.mapM w.stmt false).run false
    if found then { b with stmts }
    else { b with stmts := afterDirectives (inits.map (Stmt.ofExpr ·)) b.stmts }

end Detype
