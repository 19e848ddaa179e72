import Detype.Syntax.Tree
import Detype.Text.Decimal

/-
**Text of literals and operators.**

A literal that stands in the source keeps its spelling. One that the compiler makes is spelled here.

* `StrValue.quoted` — a string in the quotes that need fewer escapes.
* `BinaryOp.text` and its like — the signs of operators.
-/

namespace Detype

/-- The lowercase or uppercase hexadecimal digit of a number below sixteen. -/
def hexDigit (upper : Bool) (d : Nat) : Char :=
  if d < 10 then Char.ofNat (48 + d) else Char.ofNat ((if upper then 55 else 87) + d)

/-- The last `width` hexadecimal digits of a number. -/
def hexDigits (upper : Bool) : (width n : Nat) → List Char
  | 0, _ => []
  | width + 1, n => hexDigits upper width (n / 16) ++ [hexDigit upper (n % 16)]

namespace StrValue

/-- One code point of a string in quotes; `next` is the code point after it. -/
def escapePoint (quote : Nat) (p : Nat) (next : Option Nat) : List Char :=
  if p == 0 then
    match next with
    | some d => if 48 ≤ d && d ≤ 57 then ['\\', 'x', '0', '0'] else ['\\', '0']
    | none => ['\\', '0']
  else if p == 8 then ['\\', 'b']
  else if p == 12 then ['\\', 'f']
  else if p == 10 then ['\\', 'n']
  else if p == 13 then ['\\', 'r']
  else if p == 11 then ['\\', 'v']
  else if p == 9 then ['\t']
  else if p == 92 then ['\\', '\\']
  else if p == quote then ['\\', Char.ofNat quote]
  else if p < 32 then '\\' :: 'x' :: hexDigits false 2 p
  else if p == 0x2028 || p == 0x2029 || p == 0xFEFF || (0xD800 ≤ p && p ≤ 0xDFFF) then
    '\\' :: 'u' :: hexDigits true 4 p
  else [Char.ofNat p]

def escapePoints (quote : Nat) : List Nat → List Char
  | [] => []
  | p :: rest => escapePoint quote p rest.head? ++ escapePoints quote rest

/-- A string literal: in double quotes unless those are more frequent in it than single ones. -/
def quoted (v : StrValue) : String :=
  let quote : Nat := if v.points.count 34 > v.points.count 39 then 39 else 34
  String.ofList (Char.ofNat quote :: (escapePoints quote v.points ++ [Char.ofNat quote]))

end StrValue

def Str.literal (s : Str) : String :=
  match s.raw with
  | some raw => raw
  | none => s.value.quoted

def Num.literal (n : Num) : String :=
  match n.raw with
  | some raw => raw
  | none => Text.numberText n.value

def UnaryOp.text : UnaryOp → String
  | minus => "-" | plus => "+" | bang => "!" | tilde => "~" | typeOf => "typeof" | void => "void"
  | delete => "delete"

def UpdateOp.text : UpdateOp → String
  | increment => "++" | decrement => "--"

def BinaryOp.text : BinaryOp → String
  | eqEq => "==" | notEq => "!=" | eqEqEq => "===" | notEqEq => "!==" | lt => "<" | ltEq => "<="
  | gt => ">" | gtEq => ">=" | shl => "<<" | shr => ">>" | ushr => ">>>" | add => "+" | sub => "-"
  | mul => "*" | div => "/" | mod => "%" | bitOr => "|" | bitXor => "^" | bitAnd => "&" | or => "||"
  | and => "&&" | isIn => "in" | instanceOf => "instanceof" | exp => "**" | nullish => "??"

def AssignOp.text : AssignOp → String
  | assign => "="
  | compound op => op.text ++ "="

def VarKind.text : VarKind → String
  | var => "var" | lexical => "let" | constant => "const"

end Detype
