import Detype.Json.Value
import Detype.Text.Decimal

/-
**Reading JSON text.**

A reader walks over the text from left to right and stops at the first fault. A fault has a place, which
is a byte offset; the text turns it into a line and a column.

* `Failure` — a fault and its place; `Failure.message` words it.
* `Reader` — a computation that consumes text.
* `Reader.string`, `Reader.boolean`, `Reader.optional` — values of a known type.
* `Reader.fields`, `Reader.elements` — the inside of an object and of an array.
* `Reader.ignored` — any value, skipped.
-/

namespace Detype.Json

/-- What is wrong with a text. -/
inductive Fault where
  | endInList
  | endInObject
  | endInString
  | endInValue
  | colonExpected
  | listEndExpected
  | objectEndExpected
  | identExpected
  | valueExpected
  | invalidEscape
  | invalidNumber
  | numberOutOfRange
  | controlCharacter
  | keyExpected
  | loneSurrogate
  | unfinishedSurrogate
  | trailingComma
  | trailingCharacters
  | shape (error : DecodeError)
deriving DecidableEq, Inhabited

def Fault.message : Fault → String
  | endInList => "EOF while parsing a list"
  | endInObject => "EOF while parsing an object"
  | endInString => "EOF while parsing a string"
  | endInValue => "EOF while parsing a value"
  | colonExpected => "expected \x60:\x60"
  | listEndExpected => "expected \x60,\x60 or \x60]\x60"
  | objectEndExpected => "expected \x60,\x60 or \x60\x7d\x60"
  | identExpected => "expected ident"
  | valueExpected => "expected value"
  | invalidEscape => "invalid escape"
  | invalidNumber => "invalid number"
  | numberOutOfRange => "number out of range"
  | controlCharacter => "control character (\\u0000-\\u001F) found while parsing a string"
  | keyExpected => "key must be a string"
  | loneSurrogate => "lone leading surrogate in hex escape"
  | unfinishedSurrogate => "unexpected end of hex escape"
  | trailingComma => "trailing comma"
  | trailingCharacters => "trailing characters"
  | shape error => error.message

/-- A fault and the number of bytes before its place. -/
structure Failure where
  fault : Fault
  offset : Nat
deriving DecidableEq, Inhabited

/-- The line, from one, and the bytes before an offset on that line. -/
def linePosition (text : List Char) (offset : Nat) : Nat × Nat := go text offset 1 0
where
  go : List Char → Nat → Nat → Nat → Nat × Nat
    | [], _, line, column => (line, column)
    | c :: cs, left, line, column =>
      if left = 0 then (line, column)
      else if c = '\n' then go cs (left - 1) (line + 1) 0
      else if c.utf8Size ≤ left then go cs (left - c.utf8Size) line (column + c.utf8Size)
      else (line, column + left)

def Failure.message (f : Failure) (text : String) : String :=
  let (line, column) := linePosition text.toList f.offset
  f.fault.message ++ s!" at line {line} column {column}"

/-- The text that is left, and how many bytes were before it. -/
structure Cursor where
  rest : List Char
  offset : Nat
deriving Inhabited

abbrev Reader := StateT Cursor (Except Failure)

namespace Reader

-- Sums are those of the natural numbers themselves, whatever else is in scope.
attribute [local instance (high)] Zero.ofOfNat0

/-- Fails at the place that was reached. -/
def failHere {α : Type} (fault : Fault) : Reader α := fun s => .error ⟨fault, s.offset⟩

/-- Fails one byte further, or at the end of the text. -/
def failNext {α : Type} (fault : Fault) : Reader α := fun s =>
  .error ⟨fault, if s.rest.isEmpty then s.offset else s.offset + 1⟩

def peek : Reader (Option Char) := return (← get).rest.head?

/-- Steps over a character. -/
def skip : Reader Unit := modify fun s =>
  match s.rest with
  | [] => s
  | c :: cs => ⟨cs, s.offset + c.utf8Size⟩

def isSpace (c : Char) : Bool := c == ' ' || c == '\n' || c == '\t' || c == '\r'

/-- The bytes of a run of characters. -/
def byteLength (cs : List Char) : Nat := (cs.map Char.utf8Size).sum

/-- Steps over the characters of a class. -/
def skipWhile (p : Char → Bool) : Reader Unit := modify fun s =>
  ⟨s.rest.dropWhile p, s.offset + byteLength (s.rest.takeWhile p)⟩

/-- Steps over blanks and looks at what follows. -/
def peekToken : Reader (Option Char) := do
  skipWhile isSpace
  peek

/-- Steps over a decimal digit if there is one. -/
def isDigit (c : Char) : Bool := '0' ≤ c && c ≤ '9'

/-- The rest of a word. -/
def word : List Char → Reader Unit
  | [] => pure ()
  | c :: cs => do
    match ← peek with
    | none => failNext .endInValue
    | some d => if c == d then do skip; word cs else failNext .identExpected

/-! ### Strings -/

def hexValue? (c : Char) : Option Nat :=
  if isDigit c then some (c.toNat - 48)
  else if 'a' ≤ c && c ≤ 'f' then some (c.toNat - 87)
  else if 'A' ≤ c && c ≤ 'F' then some (c.toNat - 55)
  else none

/-- The four digits of an escape. -/
def hexEscape : Reader Nat := do
  let s ← get
  if byteLength s.rest < 4 then throw ⟨.endInString, s.offset + byteLength s.rest⟩
  match (s.rest.take 4).mapM hexValue? with
  | some digits =>
    set (⟨s.rest.drop 4, s.offset + 4⟩ : Cursor)
    return digits.foldl (fun n d => 16 * n + d) 0
  | none => throw ⟨.invalidEscape, s.offset + 4⟩

/-- A character that has to follow the first half of a pair. -/
def pairMark (c : Char) : Reader Unit := do
  match ← peek with
  | none => failHere .endInString
  | some d => if c == d then skip else failNext .unfinishedSurrogate

/-- The character of an escape that starts with `\u`. -/
def unicodeEscape : Reader Char := do
  let n ← hexEscape
  if 0xDC00 ≤ n && n ≤ 0xDFFF then failHere .loneSurrogate
  else if n < 0xD800 || 0xDBFF < n then return Char.ofNat n
  else
    pairMark '\\'
    pairMark 'u'
    let low ← hexEscape
    if low < 0xDC00 || 0xDFFF < low then failHere .loneSurrogate
    else return Char.ofNat ((n - 0xD800) * 1024 + (low - 0xDC00) + 0x10000)

/-- The character of a short escape. -/
def shortEscape? (c : Char) : Option Char :=
  if c == '"' || c == '\\' || c == '/' then some c
  else if c == 'b' then some (Char.ofNat 8)
  else if c == 'f' then some (Char.ofNat 12)
  else if c == 'n' then some '\n'
  else if c == 'r' then some '\r'
  else if c == 't' then some '\t'
  else none

/-- The character that an escape stands for, after the backslash. -/
def escape : Reader Char := do
  match ← peek with
  | none => failHere .endInString
  | some c =>
    match shortEscape? c with
    | some d =>
      skip
      return d
    | none =>
      if c == 'u' then do
        skip
        unicodeEscape
      else failNext .invalidEscape

/-- The inside of a string up to its closing quote; the characters so far are in reverse. -/
def stringBody : (fuel : Nat) → List Char → Reader String
  | 0, _ => failHere .endInString
  | fuel + 1, read => do
    match ← peek with
    | none => failHere .endInString
    | some c =>
      if c == '"' then do
        skip
        return String.ofList read.reverse
      else if c == '\\' then do
        skip
        let d ← escape
        stringBody fuel (d :: read)
      else if c.toNat < 32 then failNext .controlCharacter
      else do
        skip
        stringBody fuel (c :: read)

/-- A string from its opening quote. -/
def quoted : Reader String := do
  skip
  stringBody ((← get).rest.length + 1) []

/-- An escape whose character is not wanted. Surrogates need not be paired. -/
def skipEscape : Reader Unit := do
  match ← peek with
  | none => failHere .endInString
  | some c =>
    match shortEscape? c with
    | some _ => skip
    | none =>
      if c == 'u' then do
        skip
        discard hexEscape
      else failNext .invalidEscape

def skipStringBody : (fuel : Nat) → Reader Unit
  | 0 => failHere .endInString
  | fuel + 1 => do
    match ← peek with
    | none => failHere .endInString
    | some c =>
      if c == '"' then skip
      else if c == '\\' then do
        skip
        skipEscape
        skipStringBody fuel
      else if c.toNat < 32 then failHere .controlCharacter
      else do
        skip
        skipStringBody fuel

def skipQuoted : Reader Unit := do
  skip
  skipStringBody ((← get).rest.length + 1)

/-! ### Numbers -/

/-- The digits that follow. -/
def digits : Reader (List Char) := do
  let ds := (← get).rest.takeWhile isDigit
  skipWhile isDigit
  return ds

/-- The largest whole number that is kept exactly. -/
def wordLimit : Nat := UInt64.size

/-- Digits onto a number as long as it fits a word; gives the number and the digits left over. -/
def accumulate (n : Nat) : List Char → Nat × List Char
  | [] => (n, [])
  | d :: ds =>
    let m := 10 * n + (d.toNat - 48)
    if m < wordLimit then accumulate m ds else (n, d :: ds)

/-- The double nearest to a power of ten. -/
def powerOfTen (n : Nat) : Float := Float.ofScientific 1 false n

/-- A word scaled by a power of ten, one rounding a factor. -/
def scale (x : Float) (exponent : Int) : (fuel : Nat) → Option Float
  | 0 => some x
  | fuel + 1 =>
    if exponent.natAbs ≤ 308 then
      if exponent ≥ 0 then
        let y := x * powerOfTen exponent.natAbs
        if y.isInf then none else some y
      else some (x / powerOfTen exponent.natAbs)
    else if x == 0.0 then some x
    else if exponent ≥ 0 then none
    else scale (x / powerOfTen 308) (exponent + 308) fuel

def floatFrom (negative : Bool) (significand : Nat) (exponent : Int) : Reader Found := do
  match scale (UInt64.ofNat significand).toFloat exponent (exponent.natAbs / 308 + 2) with
  | none => failHere .numberOutOfRange
  | some x => return .float (Text.pointedText (if negative then -x else x))

/-- Whether the sign of an exponent, if it has one, is a minus. -/
def exponentSign : Reader Bool := do
  match ← peek with
  | some '-' => do skip; return true
  | some '+' => do skip; return false
  | _ => return false

/-- A number with an exponent of the given digits, which begin at `start`. -/
def scaled (negative down : Bool) (significand : Nat) (exponent : Int) (start : Nat) (ds : List Char) : Reader Found :=
  let sizes := ds.foldl (fun (n : List Nat) d => (10 * n.headD 0 + (d.toNat - 48)) :: n) []
  match sizes.reverse.findIdx? (UInt32.size / 2 ≤ ·) with
  | some i =>
    if significand != 0 && !down then throw ⟨.numberOutOfRange, start + i + 1⟩
    else return .float (Text.pointedText (if negative then -0.0 else 0.0))
  | none =>
    let e : Int := sizes.headD 0
    floatFrom negative significand (if down then exponent - e else exponent + e)

/-- The digits of an exponent, after its sign. -/
def exponentDigits (negative down : Bool) (significand : Nat) (exponent : Int) : Reader Found := do
  match ← peek with
  | none => failHere .endInValue
  | some c =>
    if isDigit c then do
      let start := (← get).offset
      let ds ← digits
      scaled negative down significand exponent start ds
    else failNext .invalidNumber

/-- An exponent that starts with `e`. -/
def exponentPart (negative : Bool) (significand : Nat) (exponent : Int) : Reader Found := do
  skip
  let down ← exponentSign
  exponentDigits negative down significand exponent

/-- A number after the digits of its fraction. -/
def fractionEnding (negative : Bool) (significand : Nat) (exponent : Int) : Reader Found := do
  match ← peek with
  | some 'e' | some 'E' => exponentPart negative significand exponent
  | _ => floatFrom negative significand exponent

/-- A fraction that starts with a point. -/
def fraction (negative : Bool) (significand : Nat) (exponent : Int) : Reader Found := do
  skip
  let ds ← digits
  if ds.isEmpty then
    match ← peek with
    | none => failNext .endInValue
    | some _ => failNext .invalidNumber
  else
    let (n, rest) := accumulate significand ds
    fractionEnding negative n (exponent - ((ds.length - rest.length : Nat) : Int))

/-- The digits before a point, the first of which is next. No digit follows a zero at the front. -/
def wholePart (first : Char) : Reader (List Char) := do
  if first == '0' then
    skip
    match ← peek with
    | some d => if isDigit d then failNext .invalidNumber else return ['0']
    | none => return ['0']
  else digits

/-- A number without fraction and exponent, given its first digits and those that were left over. -/
def wholeNumber (negative : Bool) (n : Nat) (rest : List Char) : Reader Found := do
  if !rest.isEmpty then floatFrom negative n rest.length
  else if !negative then return .int n
  else if n == 0 || UInt64.size / 2 < n then
    return .float (Text.pointedText (-(UInt64.ofNat n).toFloat))
  else return .int (-(n : Int))

/-- A number after the digits before its point. -/
def numberEnding (negative : Bool) (whole : List Char) : Reader Found := do
  let (n, rest) := accumulate 0 whole
  match ← peek with
  | some '.' => fraction negative n rest.length
  | some 'e' | some 'E' => exponentPart negative n rest.length
  | _ => wholeNumber negative n rest

/-- A number after its sign, as what a message shows. -/
def number (negative : Bool) : Reader Found := do
  match ← peek with
  | none => failHere .endInValue
  | some c =>
    if !isDigit c then failNext .invalidNumber
    else
      let ds ← wholePart c
      numberEnding negative ds

def skipExponent : Reader Unit := do
  skip
  discard exponentSign
  match ← peek with
  | some c => if isDigit c then skipWhile isDigit else failNext .invalidNumber
  | none => failNext .invalidNumber

/-- An exponent, if there is one. -/
def skipAnyExponent : Reader Unit := do
  match ← peek with
  | some 'e' | some 'E' => skipExponent
  | _ => pure ()

/-- What follows the digits before a point. -/
def skipEnding : Reader Unit := do
  match ← peek with
  | some '.' =>
    skip
    if (← digits).isEmpty then failNext .invalidNumber
    else skipAnyExponent
  | _ => skipAnyExponent

/-- A number after its sign whose value is not wanted. -/
def skipNumber : Reader Unit := do
  match ← peek with
  | none => failNext .invalidNumber
  | some c =>
    if !isDigit c then failNext .invalidNumber
    else
      discard (wholePart c)
      skipEnding

/-! ### Values -/

/-- Fails because a value is not what was expected. The value itself is read first, so that a fault
inside it comes first. -/
def unexpected {α : Type} (expected : String) : Reader α := do
  let found ← match ← peek with
    | some 'n' => do skip; word ['u', 'l', 'l']; pure Found.null
    | some 't' => do skip; word ['r', 'u', 'e']; pure (Found.bool true)
    | some 'f' => do skip; word ['a', 'l', 's', 'e']; pure (Found.bool false)
    | some '-' => do skip; number true
    | some '"' => return ← failHere (.shape (.invalidType (.str (← quoted)) expected))
    | some '[' => pure Found.sequence
    | some '{' => pure Found.map
    | some c => if isDigit c then number false else failNext .valueExpected
    | none => failNext .valueExpected
  failHere (.shape (.invalidType found expected))

/-- The first character of a value. -/
def valueStart : Reader Char := do
  match ← peekToken with
  | some c => return c
  | none => failNext .endInValue

def string : Reader String := do
  if (← valueStart) == '"' then quoted else unexpected "a string"

def boolean : Reader Bool := do
  match ← valueStart with
  | 't' =>
    skip
    word ['r', 'u', 'e']
    return true
  | 'f' =>
    skip
    word ['a', 'l', 's', 'e']
    return false
  | _ => unexpected "a boolean"

/-- A value, or nothing for `null`. -/
def optional {α : Type} (value : Reader α) : Reader (Option α) := do
  match ← peekToken with
  | some 'n' =>
    skip
    word ['u', 'l', 'l']
    return none
  | _ => some <$> value

/-- The colon after a key. -/
def colon : Reader Unit := do
  match ← peekToken with
  | some ':' => skip
  | some _ => failNext .colonExpected
  | none => failNext .endInObject

/-- Whether another entry follows inside an object; the cursor then stands at its key. -/
def nextKey (first : Bool) : Reader Bool := do
  match ← peekToken with
  | none => failNext .endInObject
  | some '}' => return false
  | some c =>
    if first then
      if c == '"' then return true else failNext .keyExpected
    else if c == ',' then do
      skip
      match ← peekToken with
      | some '"' => return true
      | some '}' => failNext .trailingComma
      | some _ => failNext .keyExpected
      | none => failNext .endInValue
    else failNext .objectEndExpected

/-- Whether another element follows inside an array. -/
def nextElement (first : Bool) : Reader Bool := do
  match ← peekToken with
  | none => failNext .endInList
  | some ']' => return false
  | some c =>
    if first then return true
    else if c == ',' then do
      skip
      match ← peekToken with
      | some ']' => failNext .trailingComma
      | some _ => return true
      | none => failNext .endInValue
    else failNext .listEndExpected

/-- The end of an array after the elements that were wanted. -/
def endList : Reader Unit := do
  match ← peekToken with
  | some ']' => skip
  | some ',' =>
    skip
    match ← peekToken with
    | some ']' => failNext .trailingComma
    | _ => failNext .trailingCharacters
  | some _ => failNext .trailingCharacters
  | none => failNext .endInList

/-- Fails on account of what an object holds, after its end if that comes at once. -/
def failInObject {α : Type} (fault : Fault) : Reader α := do
  match ← peekToken with
  | some '}' => skip
  | _ => pure ()
  failHere fault

/-- Fails on account of how many elements an array has, after its end. -/
def failInList {α : Type} (fault : Fault) : Reader α := do
  match ← peekToken with
  | some ']' => skip
  | _ => pure ()
  failHere fault

/-- The entries of an object after its opening bracket. `entry` reads what follows a key. -/
def fieldsWithin {σ : Type} (entry : σ → String → Reader σ) : (fuel : Nat) → (first : Bool) → σ → Reader σ
  | 0, _, s => return s
  | fuel + 1, first, s => do
    if ← nextKey first then
      let key ← quoted
      let s ← entry s key
      fieldsWithin entry fuel false s
    else
      skip
      return s

/-- An object from its opening bracket. -/
def fields {σ : Type} (entry : σ → String → Reader σ) (s : σ) : Reader σ := do
  skip
  fieldsWithin entry ((← get).rest.length + 1) true s

/-! ### Values that are not wanted -/

/-- What is open around a place: an array or an object. -/
inductive Frame where
  | list
  | object
deriving DecidableEq

/-- A scalar, or the opening of an array or object. -/
def skipScalar : Reader (Option Frame) := do
  match ← valueStart with
  | 'n' => skip; word ['u', 'l', 'l']; return none
  | 't' => skip; word ['r', 'u', 'e']; return none
  | 'f' => skip; word ['a', 'l', 's', 'e']; return none
  | '-' => skip; skipNumber; return none
  | '"' => skipQuoted; return none
  | '[' => skip; return some .list
  | '{' => skip; return some .object
  | c => if isDigit c then do skipNumber; return none else failNext .valueExpected

/-- Closes what ends here, innermost first. Gives what is still open when another item follows. -/
def closeFrames : (fuel : Nat) → (started : Bool) → List Frame → Reader (List Frame)
  | 0, _, frames => return frames
  | _ + 1, _, [] => return []
  | fuel + 1, started, frame :: frames => do
    match ← peekToken with
    | none => failNext (if frame = .list then .endInList else .endInObject)
    | some c =>
      if c == ',' && started then do
        skip
        return frame :: frames
      else if (c == ']' && frame = .list) || (c == '}' && frame = .object) then do
        skip
        closeFrames fuel true frames
      else if started then failNext (if frame = .list then .listEndExpected else .objectEndExpected)
      else return frame :: frames

/-- The key and colon of an item of an object. -/
def skipKey : Reader Unit := do
  match ← peekToken with
  | some '"' => skipQuoted
  | some _ => failNext .keyExpected
  | none => failNext .endInObject
  match ← peekToken with
  | some ':' => skip
  | some _ => failNext .colonExpected
  | none => failNext .endInObject

def ignoredWithin : (fuel : Nat) → List Frame → Reader Unit
  | 0, _ => pure ()
  | fuel + 1, frames => do
    let frames ← match ← skipScalar with
      | some frame => closeFrames (frames.length + 2) false (frame :: frames)
      | none => closeFrames (frames.length + 2) true frames
    match frames with
    | [] => pure ()
    | frame :: _ =>
      if frame = .object then skipKey
      ignoredWithin fuel frames

/-- Any value. -/
def ignored : Reader Unit := do ignoredWithin ((← get).rest.length + 1) []

/-- The end of the text. -/
def finish : Reader Unit := do
  match ← peekToken with
  | none => pure ()
  | some _ => failNext .trailingCharacters

/-- Reads a whole text. -/
def run {α : Type} (reader : Reader α) (text : String) : Except Failure α :=
  (do let a ← reader; finish; return a : Reader α).run' ⟨text.toList, 0⟩

end Reader

end Detype.Json
