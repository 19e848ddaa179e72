import Std.Data.HashMap
import Detype.Lexer.Token

/-
**Comments.**

Comments stand beside the tree, by the position that they lead up to or follow.

* `Comments` — both tables.
* `Comments.moveLeading`, `Comments.moveTrailing` — when a node takes the place of another.
-/

namespace Detype

/-- The comments of a program by position, in the order in which they were read. -/
structure Comments where
  leading : Std.HashMap Nat (List Comment) := {}
  trailing : Std.HashMap Nat (List Comment) := {}

namespace Comments

abbrev Table := Std.HashMap Nat (List Comment)

def Table.add (t : Table) (position : Nat) (cs : List Comment) : Table :=
  Std.HashMap.insert t position (Std.HashMap.getD t position [] ++ cs)

def ofLists (leading trailing : List (Nat × Comment)) : Comments :=
  let table (cs : List (Nat × Comment)) : Table := cs.foldl (fun t (p, c) => Table.add t p [c]) {}
  ⟨table leading, table trailing⟩

/-- Moves what is at one position to another; what came earlier in the text stays first. -/
def Table.move (t : Table) (source target : Nat) : Table :=
  match Std.HashMap.get? t source with
  | none => t
  | some cs =>
    let t := Std.HashMap.erase t source
    if source < target then
      Std.HashMap.insert t target (cs ++ Std.HashMap.getD t target [])
    else Table.add t target cs

def moveLeading (c : Comments) (source target : Nat) : Comments :=
  { c with leading := Table.move c.leading source target }

def moveTrailing (c : Comments) (source target : Nat) : Comments :=
  { c with trailing := Table.move c.trailing source target }

end Comments

end Detype
