import Detype.Syntax.Tree
import Detype.Syntax.Fault

/-
**Tokens.**

The lexical units of a source text, the text itself as the lexer reads it, and the comments that stand
between tokens.

* `Source` — characters with their positions.
* `Token` — one lexical unit; `Token.shown` is its name in messages.
* `Comment` — a line or block comment.
-/

namespace Detype

/-- A source text: its characters, and the position of each with the end position last. -/
structure Source where
  chars : Array Char
  positions : Array Nat
deriving Inhabited

namespace Source

def ofString (text : String) : Source :=
  let chars := text.toList.toArray
  let (positions, last) := chars.foldl (fun (acc, p) c => (acc.push p, p + c.utf8Size))
    ((Array.emptyWithCapacity (chars.size + 1) : Array Nat), 1)
  { chars, positions := positions.push last }

/-- The character at an index, if the text reaches that far. -/
def at? (s : Source) (i : Nat) : Option Char := s.chars[i]?

/-- The position of the character at an index, or the end of the text. -/
def position (s : Source) (i : Nat) : Nat :=
  match s.positions[i]? with
  | some p => p
  | none => s.positions.back?.getD 1

def size (s : Source) : Nat := s.chars.size

/-- The text between two indices. -/
def slice (s : Source) (i j : Nat) : String := String.ofList (s.chars.extract i j).toList

def span (s : Source) (i j : Nat) : Span := ⟨s.position i, s.position j⟩

/-- Whether the characters of a word stand at an index. -/
def startsWith (s : Source) (i : Nat) : List Char → Bool
  | [] => true
  | c :: cs => s.at? i == some c && s.startsWith (i + 1) cs

end Source

structure Comment where
  isBlock : Bool
  text : String
  span : Span
deriving Inhabited

inductive Token where
  /-- An identifier or keyword, with escapes resolved. One with an escape is never a keyword. -/
  | word (text : String) (escaped : Bool)
  | punct (text : String)
  | num (value : Float) (raw : String)
  | bigint (raw : String)
  | str (value : StrValue) (raw : String)
  /-- A piece of a template literal: its start, or what follows a substitution. -/
  | template (raw : String) (cooked : Except FaultAt StrValue) (isTail : Bool)
  | regex (pattern flags : String)
  | jsxText (raw : String)
  /-- A place where no token could be read. -/
  | error (at_ : FaultAt)
  | eof
deriving Inhabited

namespace Token

/-- Words that have a token of their own. -/
def keywords : List String :=
  ["abstract", "accessor", "any", "as", "asserts", "assert", "async", "await", "bigint", "boolean",
   "break", "case", "catch", "class", "const", "continue", "debugger", "declare", "default", "delete",
   "do", "else", "enum", "export", "extends", "false", "finally", "for", "from", "function", "get",
   "global", "if", "implements", "import", "in", "infer", "instanceof", "interface", "intrinsic", "is",
   "keyof", "let", "meta", "module", "namespace", "never", "new", "null", "number", "object", "of",
   "out", "override", "package", "private", "protected", "public", "readonly", "require", "return",
   "satisfies", "set", "static", "string", "super", "switch", "symbol", "target", "this", "throw",
   "true", "try", "type", "typeof", "undefined", "unique", "unknown", "using", "var", "void", "while",
   "with", "yield"]

/-- Words that can never be names. -/
def reservedWords : List String :=
  ["break", "case", "catch", "class", "const", "continue", "debugger", "default", "delete", "do", "else",
   "export", "extends", "false", "finally", "for", "function", "if", "import", "in", "instanceof", "new",
   "null", "return", "super", "switch", "this", "throw", "true", "try", "typeof", "var", "void", "while",
   "with"]

/-- The name of a token in messages. -/
def shown : Token → String
  | word text escaped => if !escaped && keywords.contains text then text else "ident"
  | punct text => text
  | num _ _ => "numeric literal"
  | bigint _ => "bigint literal"
  | str _ _ => "string literal"
  | template _ _ _ => "\x60"
  | regex _ _ => "regexp literal"
  | jsxText _ => "jsx text"
  | error _ => "<lexing error>"
  | eof => "<eof>"

/-- Operators between two operands. -/
def binaryOperators : List String :=
  ["==", "!=", "===", "!==", "<", "<=", ">", ">=", "<<", ">>", ">>>", "+", "-", "*", "/", "%", "|", "^",
   "&", "||", "&&", "**", "??"]

def isBinaryOperator : Token → Bool
  | punct text => binaryOperators.contains text
  | _ => false

/-- Whether a block comment on the same line belongs to this token rather than to the next. -/
def keepsBlockComment : Token → Bool
  | word text escaped => escaped || !keywords.contains text
  | punct text => text == ";" || text == "\x7b" || text == "\x7d"
  | num _ _ | bigint _ | str _ _ | regex _ _ | jsxText _ => true
  | template _ _ _ | error _ | eof => false

end Token

end Detype
