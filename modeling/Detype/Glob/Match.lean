import Detype.Glob.Pattern
import Detype.Text.Utf8

/-
**Matching paths against glob patterns.**

Patterns match bytes, so `?` stands for one byte and a class holds the bytes of its characters.

* `Glob.ends` — what can be left of a byte string after a part of a pattern.
* `Glob.matches` — whether a pattern matches a whole path.
* `Glob.Patterns` — several patterns, one of which has to match.
-/

namespace Detype.Glob

/-- A byte string and what is left of it after each further byte. -/
def suffixes : List UInt8 → List (List UInt8)
  | [] => [[]]
  | b :: bs => (b :: bs) :: suffixes bs

def slash : UInt8 := 47

/-- What follows each slash. -/
def afterSlashes : List UInt8 → List (List UInt8)
  | [] => []
  | b :: bs => if b = slash then bs :: afterSlashes bs else afterSlashes bs

/-- What is left after given bytes. -/
def afterBytes : List UInt8 → List UInt8 → List (List UInt8)
  | [], s => [s]
  | _ :: _, [] => []
  | b :: bs, c :: cs => if b = c then afterBytes bs cs else []

/-- The bytes of a character. -/
def charBytes (c : Char) : List UInt8 := Text.bytesOf (String.singleton c)

/-- Whether a byte belongs to a class: it is a byte of one of the characters, or lies between the last
byte of the one end of a range and the first byte of the other. -/
def inRanges (ranges : List (Char × Char)) (b : UInt8) : Bool :=
  ranges.any fun (low, high) =>
    let lows := charBytes low
    let highs := charBytes high
    if low = high then lows.contains b
    else
      lows.dropLast.contains b || (highs.drop 1).contains b
        || (lows.getLast?.any (· ≤ b) && highs.head?.any (b ≤ ·))

/-- Byte strings that differ in length, each once. All are ends of one string, so that the length tells
them apart. -/
def distinct (ends : List (List UInt8)) : List (List UInt8) :=
  ends.foldr (fun e rest => if rest.any (·.length == e.length) then rest else e :: rest) []

mutual

/-- Whether a part of a pattern has nothing to match. -/
def isVoid : Token → Bool
  | .choice branches => areVoid branches
  | _ => false

def areVoid : List (List Token) → Bool
  | [] => true
  | b :: bs => isVoidBranch b && areVoid bs

def isVoidBranch : List Token → Bool
  | [] => true
  | t :: ts => isVoid t && isVoidBranch ts

end

mutual

/-- What can be left of a byte string after a part of a pattern. -/
def ends (s : List UInt8) : Token → List (List UInt8)
  | .literal c => afterBytes (charBytes c) s
  | .any => [s.drop 1].filter fun _ => !s.isEmpty
  | .star => suffixes s
  | .anyDirs => s :: afterSlashes s
  | .subtree =>
    match s with
    | [] => []
    | b :: bs => if b = slash then suffixes bs else []
  | .between =>
    match s with
    | [] => []
    | b :: bs => if b = slash then bs :: afterSlashes bs else []
  | .set negated ranges =>
    match s with
    | [] => []
    | b :: bs => if inRanges ranges b != negated then [bs] else []
  | .choice branches => if areVoid branches then [s] else branchEnds s branches

/-- What can be left after one of several branches; empty branches do not count. -/
def branchEnds (s : List UInt8) : List (List Token) → List (List UInt8)
  | [] => []
  | b :: bs => (if isVoidBranch b then [] else seqEnds [s] b) ++ branchEnds s bs

/-- What can be left after parts in a row, from any of several starts. -/
def seqEnds (starts : List (List UInt8)) : List Token → List (List UInt8)
  | [] => starts
  | t :: ts => seqEnds (distinct (starts.flatMap fun s => ends s t)) ts

end

/-- Whether a pattern matches a whole byte string. A lone `**` matches everything. -/
def matchesBytes (pattern : List Token) (s : List UInt8) : Bool :=
  match pattern with
  | [.anyDirs] => true
  | pattern => (seqEnds [s] pattern).any List.isEmpty

/-- Several patterns. -/
abbrev Patterns := List (List Token)

/-- Whether one of the patterns matches a path. -/
def Patterns.matches (patterns : Patterns) (path : String) : Bool :=
  patterns.any (matchesBytes · (Text.bytesOf path))

end Detype.Glob
