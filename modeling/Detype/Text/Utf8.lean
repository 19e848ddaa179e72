/-
**Bytes as UTF-8 text.**

* `utf8Pieces` — a byte string as characters and runs of bytes that belong to none.
* `utf8Fault?` — the first such run, with where it starts.
* `utf8Lossy` — the text with a replacement character for each run.
* `bytesOf`, `textOf?` — a text as bytes and back.
-/

namespace Detype.Text

-- Powers are those of the natural numbers themselves, whatever else is in scope.
attribute [local instance (high)] instPowNat

/-- A part of a byte string. -/
inductive Utf8Piece where
  | char (c : Char)
  /-- Bytes that begin no character; `cut` if the bytes end where more were needed. -/
  | invalid (count : Nat) (cut : Bool)
deriving DecidableEq, Inhabited, Repr

/-- What has to follow a first byte above the ASCII range: the number of continuation bytes and the
range of the first of them. -/
def utf8Lead (b : Nat) : Option (Nat × Nat × Nat) :=
  if 0xC2 ≤ b && b ≤ 0xDF then some (1, 0x80, 0xBF)
  else if b == 0xE0 then some (2, 0xA0, 0xBF)
  else if b == 0xED then some (2, 0x80, 0x9F)
  else if 0xE1 ≤ b && b ≤ 0xEF then some (2, 0x80, 0xBF)
  else if b == 0xF0 then some (3, 0x90, 0xBF)
  else if 0xF1 ≤ b && b ≤ 0xF3 then some (3, 0x80, 0xBF)
  else if b == 0xF4 then some (3, 0x80, 0x8F)
  else none

/-- Reads up to `count` continuation bytes onto a value; the first has to lie between `low` and
`high`. Gives the number of bytes read and the value, or whether the bytes ended too early. -/
def utf8Tail (count low high value read : Nat) (bytes : List UInt8) : Except Bool Nat × Nat :=
  match count, bytes with
  | 0, _ => (.ok value, read)
  | _ + 1, [] => (.error true, read)
  | count + 1, b :: bs =>
    let b := b.toNat
    if low ≤ b && b ≤ high then utf8Tail count 0x80 0xBF (value * 64 + b % 64) (read + 1) bs
    else (.error false, read)

/-- The first part of a byte string that starts with `b`, and its length. -/
def utf8First (b : UInt8) (bs : List UInt8) : Utf8Piece × Nat :=
  let b := b.toNat
  if b < 0x80 then (.char (Char.ofNat b), 1)
  else
    match utf8Lead b with
    | none => (.invalid 1 false, 1)
    | some (count, low, high) =>
      match utf8Tail count low high (b % 2 ^ (6 - count)) 1 bs with
      | (.ok value, length) => (.char (Char.ofNat value), length)
      | (.error cut, length) => (.invalid length cut, length)

/-- A byte string as characters and runs of bytes that belong to none. -/
def utf8Pieces : List UInt8 → List Utf8Piece
  | [] => []
  | b :: bs =>
    let (piece, length) := utf8First b bs
    piece :: utf8Pieces (bs.drop (length - 1))
termination_by bytes => bytes.length
decreasing_by exact Nat.lt_succ_of_le (by rw [List.length_drop]; exact Nat.sub_le ..)

/-- Bytes that are not UTF-8. -/
structure Utf8Fault where
  /-- Where the bytes at fault start. -/
  index : Nat
  /-- How many they are; none if the text ends in the middle of a character. -/
  length : Option Nat
deriving DecidableEq, Inhabited, Repr

def Utf8Piece.size : Utf8Piece → Nat
  | char c => c.utf8Size
  | invalid count _ => count

/-- The first fault among parts that start at an index. -/
def firstFault (index : Nat) : List Utf8Piece → Option Utf8Fault
  | [] => none
  | .invalid count cut :: _ => some ⟨index, if cut then none else some count⟩
  | p@(.char _) :: ps => firstFault (index + p.size) ps

/-- Where a byte string first fails to be UTF-8. -/
def utf8Fault? (bytes : List UInt8) : Option Utf8Fault := firstFault 0 (utf8Pieces bytes)

def Utf8Fault.message (f : Utf8Fault) : String :=
  match f.length with
  | some n => s!"invalid utf-8 sequence of {n} bytes from index {f.index}"
  | none => s!"incomplete utf-8 byte sequence from index {f.index}"

/-- The text of bytes, with a replacement character for each run that belongs to none. -/
def utf8Lossy (bytes : List UInt8) : String :=
  String.ofList <| (utf8Pieces bytes).map fun
    | .char c => c
    | .invalid .. => Char.ofNat 0xFFFD

/-- The bytes of a text. -/
def bytesOf (text : String) : List UInt8 := text.toUTF8.data.toList

/-- The text of bytes that are UTF-8. -/
def textOf? (bytes : List UInt8) : Option String := String.fromUTF8? ⟨⟨bytes⟩⟩

end Detype.Text
