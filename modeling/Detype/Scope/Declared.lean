import Detype.Syntax.Tree

/-
**What a construct declares.**

* `Pat.bound` — the names that a pattern binds.
* `Stmt.hoisted` — the `var` names and functions that a statement hands to the function around it.
* `Stmt.lexical` — the names that a statement declares in its own block.
-/

namespace Detype

mutual

/-- The names that a pattern binds, in order. -/
def Pat.bound : Pat → List Ident
  | .ident id => [id]
  | .array _ ps | .object _ ps => Pat.boundAll ps
  | .rest _ _ p | .assign _ p _ | .propValue _ p | .param _ _ _ p | .typed p _ => p.bound
  | .propShorthand _ id _ => [id]
  | .expr _ | .invalid _ | .hole => []

def Pat.boundAll : List Pat → List Ident
  | [] => []
  | p :: ps => p.bound ++ Pat.boundAll ps

end

/-- The names that a list of declarators binds. -/
def Declarator.bound (ds : List Declarator) : List Ident := ds.flatMap fun d => d.name.bound

/-- A name that a nested statement hands to the function around it. -/
inductive Hoisted where
  | var (id : Ident)
  | func (id : Ident)
deriving Inhabited

mutual

/-- The `var` names and functions that a statement hands to the function around it. -/
def Stmt.hoisted : Stmt → List Hoisted
  | .varDecl _ .var _ ds => (Declarator.bound ds).map .var
  | .funcDecl id _ _ => [.func id]
  | .block b => b.hoisted
  | .withStmt _ _ s | .labeled _ _ s | .whileLoop _ _ s | .doWhile _ s _ => s.hoisted
  | .ifStmt _ _ s none => s.hoisted
  | .ifStmt _ _ s (some t) => s.hoisted ++ t.hoisted
  | .switch _ _ cs => Stmt.hoistedAll cs
  | .switchCase _ _ ss => Stmt.hoistedAll ss
  | .tryStmt _ b h f => b.hoisted ++ Stmt.hoistedOption h ++ Block.hoistedOption f
  | .catchClause _ _ b => b.hoisted
  | .forLoop _ i _ _ s => Stmt.hoistedOption i ++ s.hoisted
  | .forIn _ l _ s | .forOf _ _ l _ s => l.hoisted ++ s.hoisted
  | .exportDecl _ d => d.hoisted
  | _ => []

def Stmt.hoistedAll : List Stmt → List Hoisted
  | [] => []
  | s :: ss => s.hoisted ++ Stmt.hoistedAll ss

def Stmt.hoistedOption : Option Stmt → List Hoisted
  | none => []
  | some s => s.hoisted

def Block.hoisted : Block → List Hoisted
  | ⟨_, ss⟩ => Stmt.hoistedAll ss

def Block.hoistedOption : Option Block → List Hoisted
  | none => []
  | some b => b.hoisted

end

def ImportSpecifier.binding : ImportSpecifier → Ident
  | .named _ id _ _ | .default _ id | .namespaceAll _ id => id

/-- The names that a statement declares in the block it stands in, `var` names apart. -/
def Stmt.lexical : Stmt → List Ident
  | .varDecl _ .var _ _ => []
  | .varDecl _ _ _ ds | .usingDecl _ _ ds => Declarator.bound ds
  | .classDecl id _ _ | .funcDecl id _ _ | .enumDecl _ _ _ id _ | .importEquals _ _ _ id _
  | .exportDefaultClass _ (some id) _ | .exportDefaultFunc _ (some id) _ => [id]
  | .namespaceDecl _ _ _ (.ident id) _ => [id]
  | .importDecl _ specifiers _ _ _ _ => specifiers.map ImportSpecifier.binding
  | .exportDecl _ d => d.lexical
  | _ => []

/-- Whether a declaration keeps a nested function of its name from leaving its block. -/
def Stmt.shields : Stmt → List Ident
  | .funcDecl .. | .exportDefaultFunc .. => []
  | .exportDecl _ d => d.shields
  | s => s.lexical

end Detype
