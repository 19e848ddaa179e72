import Detype.Lexer.Token
import Detype.Text.IdentChar

/-
**Reading one token.**

Every function here reads at an index of the source and tells the index after what it read. What it
finds wrong without stopping is noted in `Scan.notes`; what stops it becomes an error token.

* `scanToken` — the token at an index, in plain code or inside a JSX tag.
* `scanRegex`, `scanTemplate`, `scanJsxText` — the tokens that only the parser knows to expect.
* `scanTrivia` — blank space and comments.
-/

namespace Detype.Lexer

open Text

/-- A fault noted in passing. One with `strictOnly` counts in strict code alone. -/
structure Note where
  fault : Fault
  span : Span
  strictOnly : Bool := false
deriving Inhabited

/-- A token, the index after it, and what was noted. -/
structure Scan where
  token : Token
  stop : Nat
  notes : List Note := []

def hexValue (c : Char) : Option Nat :=
  if '0' ≤ c && c ≤ '9' then some (c.toNat - 48)
  else if 'a' ≤ c && c ≤ 'f' then some (c.toNat - 87)
  else if 'A' ≤ c && c ≤ 'F' then some (c.toNat - 55)
  else none

def digitValue (radix : Nat) (c : Char) : Option Nat :=
  (hexValue c).filter (· < radix)

/-- The first index from `i` on whose character fails a test. -/
def skipWhile (s : Source) (test : Char → Bool) : (fuel i : Nat) → Nat
  | 0, i => i
  | fuel + 1, i =>
    match s.at? i with
    | some c => if test c then skipWhile s test fuel (i + 1) else i
    | none => i

/-! ### Escapes -/

/-- Exactly `count` hexadecimal digits at an index. -/
def readHex (s : Source) : (count i acc : Nat) → Option Nat
  | 0, _, acc => some acc
  | count + 1, i, acc =>
    match (s.at? i).bind hexValue with
    | some v => readHex s count (i + 1) (acc * 16 + v)
    | none => none

/-- Hexadecimal digits at an index, as many as there are. -/
def readHexRun (s : Source) : (fuel i acc : Nat) → Nat × Nat
  | 0, i, acc => (acc, i)
  | fuel + 1, i, acc =>
    match (s.at? i).bind hexValue with
    | some v => readHexRun s fuel (i + 1) (if acc > 0x10FFFF then acc else acc * 16 + v)
    | none => (acc, i)

/-- The code point of an escape whose `u` stands at `i`, and the index after it. The fault of a
malformed one is placed where its digits should start. -/
def readUnicodeEscape (s : Source) (i : Nat) : Except FaultAt (Nat × Nat) :=
  if s.at? (i + 1) == some '\x7b' then
    let start := i + 2
    let (value, stop) := readHexRun s s.size start 0
    if stop == start then .error ⟨.badEscape "1-6 hex characters", s.span start stop⟩
    else if value > 0x10FFFF then
      .error ⟨.badEscape "1-6 hex characters in the range 0 to 10FFFF.", s.span start stop⟩
    else if s.at? stop != some '\x7d' then .error ⟨.invalidUnicodeEscape, s.span i stop⟩
    else .ok (value, stop + 1)
  else
    match readHex s 4 (i + 1) 0 with
    | some value => .ok (value, i + 5)
    | none => .error ⟨.badEscape "4 hex characters", s.span (i + 1) (i + 1)⟩

/-- Joins surrogate halves that stand side by side. -/
def joinSurrogates : List Nat → List Nat
  | hi :: lo :: rest =>
    if 0xD800 ≤ hi && hi < 0xDC00 && 0xDC00 ≤ lo && lo < 0xE000 then
      (0x10000 + (hi - 0xD800) * 0x400 + (lo - 0xDC00)) :: joinSurrogates rest
    else hi :: joinSurrogates (lo :: rest)
  | rest => rest

/-- What an escape sequence stands for. -/
structure Escape where
  points : List Nat
  stop : Nat
  notes : List Note := []

/-- Octal digits, at most `count`, while the value stays below 256. -/
def readOctal (s : Source) : (count i acc : Nat) → Nat × Nat
  | 0, i, acc => (acc, i)
  | count + 1, i, acc =>
    match (s.at? i).bind (digitValue 8) with
    | some v => if acc * 8 + v < 256 then readOctal s count (i + 1) (acc * 8 + v) else (acc, i)
    | none => (acc, i)

/-- The escape sequence whose backslash stands at `i`. -/
def readEscape (s : Source) (i : Nat) (inTemplate : Bool) : Except FaultAt Escape :=
  match s.at? (i + 1) with
  | none => .error ⟨.invalidStringEscape, s.span i i⟩
  | some c =>
    if c == 'n' then .ok ⟨[10], i + 2, []⟩
    else if c == 'r' then .ok ⟨[13], i + 2, []⟩
    else if c == 't' then .ok ⟨[9], i + 2, []⟩
    else if c == 'b' then .ok ⟨[8], i + 2, []⟩
    else if c == 'v' then .ok ⟨[11], i + 2, []⟩
    else if c == 'f' then .ok ⟨[12], i + 2, []⟩
    else if c == '\r' then
      .ok ⟨[], if s.at? (i + 2) == some '\n' then i + 3 else i + 2, []⟩
    else if isLineBreak c then .ok ⟨[], i + 2, []⟩
    else if c == 'x' then
      match readHex s 2 (i + 2) 0 with
      | some v => .ok ⟨[v], i + 4, []⟩
      | none => .error ⟨.badEscape "2 hex characters", s.span i (i + 2)⟩
    else if c == 'u' then
      match readUnicodeEscape s (i + 1) with
      | .ok (v, stop) => .ok ⟨[v], stop, []⟩
      | .error e => .error ⟨e.fault, ⟨s.position i, e.span.hi⟩⟩
    else
      match digitValue 8 c with
      | some first =>
        if c == '0' && ((s.at? (i + 2)).bind (digitValue 8)).isNone then .ok ⟨[0], i + 2, []⟩
        else if inTemplate then .error ⟨.legacyOctal, s.span i (i + 2)⟩
        else
          let (value, stop) := readOctal s 2 (i + 2) first
          .ok ⟨[value], stop, [⟨.legacyOctal, s.span i (i + 2), true⟩]⟩
      | none => .ok ⟨[c.toNat], i + 2, []⟩

/-! ### Words -/

/-- The rest of a word from `i` on: its characters in reverse, where it ends, whether an escape was
used, and the notes on escapes that stand for no part of a name. -/
def readWord (s : Source) : (fuel i : Nat) → (acc : List Char) → (escaped : Bool) → (notes : List Note) →
    Except FaultAt (List Char × Nat × Bool × List Note)
  | 0, i, acc, escaped, notes => .ok (acc, i, escaped, notes)
  | fuel + 1, i, acc, escaped, notes =>
    match s.at? i with
    | none => .ok (acc, i, escaped, notes)
    | some c =>
      if isIdentPart c then readWord s fuel (i + 1) (c :: acc) escaped notes
      else if c == '\\' then
        if s.at? (i + 1) != some 'u' then .error ⟨.expectedUnicodeEscape, s.span (i + 1) (i + 1)⟩
        else
          match readUnicodeEscape s (i + 1) with
          | .error e => .error e
          | .ok (value, stop) =>
            let d := Char.ofNat value
            let notes := if isIdentPart d then notes
              else notes ++ [⟨.invalidIdentChar, s.span i stop, false⟩]
            readWord s fuel stop (d :: acc) true notes
      else .ok (acc, i, escaped, notes)

/-- The word that starts at an index. -/
def scanWord (s : Source) (i : Nat) : Scan :=
  match readWord s (s.size + 1) i [] false [] with
  | .ok (chars, stop, escaped, notes) =>
    { token := .word (String.ofList chars.reverse) escaped, stop, notes }
  | .error e => { token := .error e, stop := max (i + 1) (i + 2) }

/-! ### Numbers -/

/-- Digits of a radix with separators: the digits in reverse, where they end, and the notes on
misplaced separators. -/
def readDigits (s : Source) (radix start : Nat) : (fuel i : Nat) → (acc : List Nat) →
    (prev : Option Char) → (notes : List Note) → List Nat × Nat × List Note
  | 0, i, acc, _, notes => (acc, i, notes)
  | fuel + 1, i, acc, prev, notes =>
    match s.at? i with
    | none => (acc, i, notes)
    | some c =>
      if c == '_' then
        let next := s.at? (i + 1)
        let forbidden (d : Option Char) : Bool :=
          match d with
          | none => false
          | some d => d == '_' || d == '.' || (if radix == 16 then d == 'x' || d == 'X'
              else d == 'B' || d == 'b' || d == 'O' || d == 'o' || d == 'E' || d == 'e')
        let allowed := (next.bind (digitValue radix)).isSome
        let notes := if !allowed || forbidden prev || forbidden next then
            notes ++ [⟨.separatorBetweenDigits, s.span start i, false⟩] else notes
        readDigits s radix start fuel (i + 1) acc (some c) notes
      else
        match digitValue radix c with
        | some v => readDigits s radix start fuel (i + 1) (v :: acc) (some c) notes
        | none => (acc, i, notes)

def digitsValue (radix : Nat) (revDigits : List Nat) : Nat :=
  revDigits.foldr (fun d acc => acc * radix + d) 0

/-- The number `mantissa · 10 ^ exponent`, infinite or zero when far out of range. -/
def decimalValue (mantissa : Nat) (exponent : Int) : Float :=
  if mantissa == 0 then 0.0
  else
    let digits : Int := (Nat.log2 mantissa / 3 : Nat)
    if exponent > 400 then (1.0 / 0.0 : Float)
    else if exponent + digits + 2 < -400 then 0.0
    else if exponent ≥ 0 then Float.ofScientific mantissa false exponent.toNat
    else Float.ofScientific mantissa true (-exponent).toNat

/-- A number may not run into a name. -/
def endNumber (s : Source) (scan : Scan) : Scan :=
  match s.at? scan.stop with
  | some c =>
    if isIdentStart c || c == '\\' then
      { scan with token := .error ⟨.identAfterNumber, s.span scan.stop scan.stop⟩ }
    else scan
  | none => scan

/-- A number with a radix prefix of two characters. -/
def scanRadix (s : Source) (i radix : Nat) : Scan :=
  let start := i + 2
  let (digits, stop, notes) := readDigits s radix start (s.size + 1) start [] (s.at? (i + 1)) []
  if digits.isEmpty then
    { token := .error ⟨.expectedDigit radix, s.span start start⟩, stop, notes }
  else if s.at? stop == some 'n' then
    endNumber s { token := .bigint (s.slice i (stop + 1)), stop := stop + 1, notes }
  else
    endNumber s { token := .num (Float.ofNat (digitsValue radix digits)) (s.slice i stop), stop, notes }

/-- The exponent part of a decimal number, if one stands at `i`. -/
def scanExponent (s : Source) (i : Nat) : Except FaultAt (Int × Nat × List Note) :=
  match s.at? i with
  | some c =>
    if c == 'e' || c == 'E' then
      match s.at? (i + 1) with
      | none => .error ⟨.exponentWithoutDigits, s.span (i + 1) (i + 1)⟩
      | some sign =>
        let signed := sign == '+' || sign == '-'
        let start := if signed then i + 2 else i + 1
        let (digits, stop, notes) := readDigits s 10 start (s.size + 1) start [] none []
        if digits.isEmpty then .error ⟨.expectedDigit 10, s.span start start⟩
        else
          let value : Int := Int.ofNat (min (digitsValue 10 digits) 100000)
          .ok (if sign == '-' then -value else value, stop, notes)
    else .ok (0, i, [])
  | none => .ok (0, i, [])

/-- A decimal number whose integer digits have been read up to `i`. -/
def scanFraction (s : Source) (start i : Nat) (intDigits : List Nat) (notes : List Note) : Scan :=
  let (digits, afterDot, notes) :=
    if s.at? i == some '.' then
      let (more, stop, fresh) := readDigits s 10 (i + 1) (s.size + 1) (i + 1) [] (some '.') []
      (more, stop, notes ++ fresh)
    else ([], i, notes)
  match scanExponent s afterDot with
  | .error e => { token := .error e, stop := afterDot + 1, notes }
  | .ok (exponent, stop, fresh) =>
    let mantissa := digitsValue 10 (digits ++ intDigits)
    let value := decimalValue mantissa (exponent - (digits.length : Int))
    endNumber s { token := .num value (s.slice start stop), stop, notes := notes ++ fresh }

/-- The number that starts at an index, with a digit or a dot. -/
def scanNumber (s : Source) (i : Nat) : Scan :=
  let second := s.at? (i + 1)
  if s.at? i == some '.' then scanFraction s i i [] []
  else if s.at? i == some '0' && (second == some 'x' || second == some 'X') then scanRadix s i 16
  else if s.at? i == some '0' && (second == some 'o' || second == some 'O') then scanRadix s i 8
  else if s.at? i == some '0' && (second == some 'b' || second == some 'B') then scanRadix s i 2
  else
    let (digits, stop, notes) := readDigits s 10 i (s.size + 1) i [] none []
    let leadingZero := s.at? i == some '0' && stop > i + 1
    if leadingZero then
      let legacy (value : Nat) : Scan :=
        let scan := endNumber s { token := .num (Float.ofNat value) (s.slice i stop), stop, notes }
        match scan.token with
        | .error _ => scan
        | _ => { scan with notes := notes ++
            [⟨.legacyOctalLiteral, s.span i stop, false⟩, ⟨.legacyOctal, s.span i stop, true⟩] }
      if digits.all (· < 8) then legacy (digitsValue 8 digits)
      else scanFraction s i stop digits (notes ++ [⟨.legacyDecimal, s.span i stop, true⟩])
    else if s.at? stop == some 'n' then
      endNumber s { token := .bigint (s.slice i (stop + 1)), stop := stop + 1, notes }
    else scanFraction s i stop digits notes

/-! ### Strings and templates -/

/-- The body of a string from `i` on, up to the closing quote. -/
def readString (s : Source) (start : Nat) (quote : Char) : (fuel i : Nat) → (acc : List Nat) →
    (notes : List Note) → Scan
  | 0, i, _, notes => { token := .error ⟨.unterminatedString, s.span start i⟩, stop := i, notes }
  | fuel + 1, i, acc, notes =>
    let close (stop : Nat) (notes : List Note) : Scan :=
      { token := .str ⟨joinSurrogates acc.reverse⟩ (s.slice start stop), stop, notes }
    match s.at? i with
    | none => close i (notes ++ [⟨.unterminatedString, s.span start i, false⟩])
    | some c =>
      if c == quote then close (i + 1) notes
      else if c == '\\' then
        match readEscape s i false with
        | .ok esc => readString s start quote fuel esc.stop (esc.points.reverse ++ acc) (notes ++ esc.notes)
        | .error e => { token := .error e, stop := i + 1, notes }
      else if c == '\n' || c == '\r' then
        close i (notes ++ [⟨.unterminatedString, s.span start i, false⟩])
      else readString s start quote fuel (i + 1) (c.toNat :: acc) notes

/-- A template piece from `i` on, up to a substitution or the closing quote. `rawAcc` has line ends
normalized, except after a backslash. -/
def readTemplate (s : Source) (start : Nat) : (fuel i : Nat) → (rawAcc : List Char) →
    (cooked : Except FaultAt (List Nat)) → Scan
  | 0, i, _, _ => { token := .error ⟨.unterminatedTemplate, s.span start i⟩, stop := i }
  | fuel + 1, i, rawAcc, cooked =>
    let finish (stop : Nat) (isTail : Bool) : Scan :=
      { token := .template (String.ofList rawAcc.reverse)
          (cooked.map fun acc => ⟨joinSurrogates acc.reverse⟩) isTail, stop }
    match s.at? i with
    | none => { token := .error ⟨.unterminatedTemplate, s.span start i⟩, stop := i }
    | some c =>
      if c == '\x60' then finish (i + 1) true
      else if c == '$' && s.at? (i + 1) == some '\x7b' then finish (i + 2) false
      else if c == '\\' then
        match readEscape s i true with
        | .ok esc =>
          readTemplate s start fuel esc.stop ((s.slice i esc.stop).toList.reverse ++ rawAcc)
            (cooked.map (esc.points.reverse ++ ·))
        | .error e =>
          let next := min (i + 2) s.size
          readTemplate s start fuel next ((s.slice i next).toList.reverse ++ rawAcc)
            (match cooked with | .ok _ => .error e | .error e => .error e)
      else if c == '\r' then
        let next := if s.at? (i + 1) == some '\n' then i + 2 else i + 1
        readTemplate s start fuel next ('\n' :: rawAcc) (cooked.map (10 :: ·))
      else readTemplate s start fuel (i + 1) (c :: rawAcc) (cooked.map (c.toNat :: ·))

/-- The template piece that starts at an index, with a back quote or a closing brace. -/
def scanTemplate (s : Source) (i : Nat) : Scan :=
  readTemplate s i (s.size + 1) (i + 1) [] (.ok [])

/-! ### Regular expressions -/

/-- The index of the slash that ends a regular expression. -/
def findRegexEnd (s : Source) : (fuel i : Nat) → (inClass : Bool) → Option Nat
  | 0, _, _ => none
  | fuel + 1, i, inClass =>
    match s.at? i with
    | none => none
    | some c =>
      if isLineBreak c then none
      else if c == '\\' then
        match s.at? (i + 1) with
        | none => none
        | some d => if isLineBreak d then none else findRegexEnd s fuel (i + 2) inClass
      else if c == '[' then findRegexEnd s fuel (i + 1) true
      else if c == ']' then findRegexEnd s fuel (i + 1) false
      else if c == '/' && !inClass then some i
      else findRegexEnd s fuel (i + 1) inClass

/-- The regular expression whose first slash stands at an index. -/
def scanRegex (s : Source) (i : Nat) : Scan :=
  match findRegexEnd s (s.size + 1) (i + 1) false with
  | none => { token := .error ⟨.unterminatedRegex, s.span i (i + 1)⟩, stop := i + 1 }
  | some close =>
    let stop := skipWhile s isIdentPart (s.size + 1) (close + 1)
    let flags := s.slice (close + 1) stop
    { token := .regex (s.slice (i + 1) close) flags, stop }

/-! ### Punctuation -/

/-- All punctuators, longer ones before their prefixes. -/
def punctuators : List String :=
  [">>>=", "...", "===", "!==", "**=", "<<=", ">>=", ">>>", "&&=", "||=", "??=", "=>", "==", "!=", "<=",
   ">=", "&&", "||", "??", "?.", "++", "--", "+=", "-=", "*=", "/=", "%=", "&=", "|=", "^=", "<<", ">>",
   "**", "\x7b", "\x7d", "(", ")", "[", "]", ";", ",", "<", ">", "+", "-", "*", "/", "%", "&", "|", "^",
   "!", "~", "?", ":", "=", ".", "@", "#"]

/-- The punctuators as characters. -/
def punctuatorChars : List (List Char × String) := punctuators.map fun p => (p.toList, p)

/-- The longest punctuator at an index. A question mark, a dot and a digit are no optional chain. -/
def readPunctuator (s : Source) (i : Nat) : Option String :=
  (punctuatorChars.find? fun (chars, text) =>
    s.startsWith i chars && !(text == "?." && ((s.at? (i + 2)).map (·.isDigit)).getD false)).map (·.2)

/-- Where tokens are read: in plain code, or inside a JSX tag. -/
inductive Mode where
  | code | jsxTag
deriving DecidableEq

/-- The token at an index where no blank space or comment stands. -/
def scanToken (s : Source) (mode : Mode) (i : Nat) : Scan :=
  match s.at? i with
  | none => { token := .eof, stop := i }
  | some c =>
    if mode == .jsxTag && isIdentStart c then
      let stop := skipWhile s (fun d => isIdentPart d || d == '-') (s.size + 1) i
      { token := .word (s.slice i stop) false, stop }
    else if isIdentStart c || c == '\\' then scanWord s i
    else if c.isDigit then scanNumber s i
    else if c == '.' && ((s.at? (i + 1)).map (·.isDigit)).getD false then scanNumber s i
    else if c == '"' || c == '\'' then readString s i c (s.size + 1) (i + 1) [] []
    else if c == '\x60' then scanTemplate s i
    else if mode == .jsxTag && c == '>' then { token := .punct ">", stop := i + 1 }
    else
      match readPunctuator s i with
      | some p => { token := .punct p, stop := i + p.length }
      | none => { token := .error ⟨.unexpectedChar c, s.span i i⟩, stop := i + 1 }

/-! ### JSX -/

/-- The text between JSX tags and containers. -/
def scanJsxText (s : Source) (i : Nat) : Scan :=
  match s.at? i with
  | none => { token := .eof, stop := i }
  | some '<' =>
    if s.at? (i + 1) == some '/' then { token := .punct "</", stop := i + 2 }
    else { token := .punct "<", stop := i + 1 }
  | some '\x7b' => { token := .punct "\x7b", stop := i + 1 }
  | some _ =>
    let stop := skipWhile s (fun c => c != '<' && c != '\x7b') (s.size + 1) i
    let notes := (List.range (stop - i)).filterMap fun k =>
      match s.at? (i + k) with
      | some '>' => some ⟨.jsxUnescaped "\x60\x7b'>'\x7d\x60 or \x60&gt;\x60", s.span (i + k) (i + k + 1), false⟩
      | some '\x7d' =>
        some ⟨.jsxUnescaped "\x60\x7b'\x7d'\x7d\x60 or \x60&rbrace;\x60", s.span (i + k) (i + k + 1), false⟩
      | _ => none
    { token := .jsxText (s.slice i stop), stop, notes }

/-- An attribute value in quotes: no escapes, line breaks allowed. -/
def scanJsxString (s : Source) (i : Nat) (quote : Char) : Scan :=
  let close := skipWhile s (· != quote) (s.size + 1) (i + 1)
  if close < s.size then
    { token := .str (.ofString (s.slice (i + 1) close)) (s.slice i (close + 1)), stop := close + 1 }
  else
    { token := .str (.ofString (s.slice (i + 1) close)) (s.slice i close), stop := close
      notes := [⟨.unterminatedString, s.span i close, false⟩] }

/-! ### Blank space and comments -/

/-- What stands between two tokens: where it ends, whether a line ended, the comments with their
side (`true` for one that belongs to the next token), and what was noted. -/
structure Trivia where
  stop : Nat
  lineBreak : Bool
  comments : List (Bool × Comment)
  notes : List Note
  /-- A sign after which no token is read. -/
  failure : Option FaultAt := none

/-- The index after the end of a block comment, and whether it spans lines. -/
def findBlockEnd (s : Source) : (fuel i : Nat) → (lines : Bool) → Option Nat × Bool
  | 0, _, lines => (none, lines)
  | fuel + 1, i, lines =>
    match s.at? i with
    | none => (none, lines)
    | some c =>
      if c == '*' && s.at? (i + 1) == some '/' then (some (i + 2), lines)
      else findBlockEnd s fuel (i + 1) (lines || isLineBreak c)

/-- Blank space and comments from `i` on. `prev` is the token before, `atStart` tells that there is
none. -/
def scanTrivia (s : Source) (prev : Token) : (fuel i : Nat) → (lineBreak : Bool) →
    (acc : List (Bool × Comment)) → (notes : List Note) → Trivia
  | 0, i, lineBreak, acc, notes => ⟨i, lineBreak, acc.reverse, notes, none⟩
  | fuel + 1, i, lineBreak, acc, notes =>
    let done : Trivia := ⟨i, lineBreak, acc.reverse, notes, none⟩
    match s.at? i with
    | none => done
    | some c =>
      if isLineBreak c then scanTrivia s prev fuel (i + 1) true acc notes
      else if isBlank c then scanTrivia s prev fuel (i + 1) lineBreak acc notes
      else
        let lineComment (sign skip : Nat) (notes : List Note) : Trivia :=
          let stop := skipWhile s (fun d => !isLineBreak d) (s.size + 1) (i + skip)
          let forNext := lineBreak || prev.isBinaryOperator
          let comment : Comment := ⟨false, s.slice (i + skip) stop, s.span (i + sign) stop⟩
          scanTrivia s prev fuel stop lineBreak ((forNext, comment) :: acc) notes
        let conflict : FaultAt := ⟨.mergeConflict, s.span i (i + 7)⟩
        let conflictLine (sign skip : Nat) : Trivia :=
          let trivia := lineComment sign skip (notes ++ [⟨conflict.fault, conflict.span, false⟩])
          if c == '|' then { trivia with failure := some conflict } else trivia
        if c == '/' && s.at? (i + 1) == some '/' then lineComment 0 2 notes
        else if c == '/' && s.at? (i + 1) == some '*' then
          match findBlockEnd s (s.size + 1) (i + 2) false with
          | (some stop, lines) =>
            let forNext := (lineBreak || !prev.keepsBlockComment)
              && !(!lineBreak && s.at? stop == some ';')
            let comment : Comment := ⟨true, s.slice (i + 2) (stop - 2), s.span i stop⟩
            scanTrivia s prev fuel stop (lineBreak || lines) ((forNext, comment) :: acc) notes
          | (none, _) =>
            ⟨s.size, lineBreak, acc.reverse,
              notes ++ [⟨.unterminatedBlockComment, s.span s.size s.size, false⟩], none⟩
        else if s.startsWith i ['<', '!', '-', '-'] then
          lineComment 1 4 (notes ++ [⟨.legacyCommentInModule, s.span i (i + 4), true⟩])
        else if lineBreak && s.startsWith i ['-', '-', '>'] then
          lineComment 2 3 (notes ++ [⟨.legacyCommentInModule, s.span i (i + 3), true⟩])
        else if lineBreak && s.startsWith i "<<<<<<< ".toList then conflictLine 2 7
        else if lineBreak && s.startsWith i "=======".toList then conflictLine 3 7
        else if lineBreak && s.startsWith i ">>>>>>> ".toList then conflictLine 3 8
        else if lineBreak && s.startsWith i "||||||| ".toList then conflictLine 2 7
        else done

end Detype.Lexer
