/-
**Words that look alike.**

* `similarity` — the Jaro similarity of two words, from none (0) to equal (1).
* `mostSimilar?` — the word most like a given one, if any is close enough.
-/

namespace Detype.CommandLine

/-- Takes the first character equal to `c` at an index between `low` and `high` that is not taken yet.
The characters of a word are given with whether they are taken. -/
def takeMatch (c : Char) (low high : Nat) : (index : Nat) → List (Char × Bool) →
    Option (List (Char × Bool))
  | _, [] => none
  | i, (d, taken) :: rest =>
    if low ≤ i && i < high && c == d && !taken then some ((d, true) :: rest)
    else (takeMatch c low high (i + 1) rest).map ((d, taken) :: ·)

/-- Pairs off the characters of a word, from index `i` on, with equal ones at most `range` away in the
other. Gives the characters that found a partner, and the other word with what was taken. -/
def pairOff (range : Nat) : (index : Nat) → List Char → List (Char × Bool) →
    List Char × List (Char × Bool)
  | _, [], other => ([], other)
  | i, c :: cs, other =>
    match takeMatch c (i - range) (i + range + 1) 0 other with
    | some other =>
      let (matched, other) := pairOff range (i + 1) cs other
      (c :: matched, other)
    | none => pairOff range (i + 1) cs other

/-- The Jaro similarity of two words. -/
def similarity (a b : String) : Float :=
  let m := a.length
  let n := b.length
  if m == 0 && n == 0 then 1.0
  else
    let range := max m n / 2 - 1
    let (left, other) := pairOff range 0 a.toList (b.toList.map (·, false))
    let right := (other.filter (·.2)).map (·.1)
    let matched := left.length
    if matched == 0 then 0.0
    else
      let swapped := ((left.zip right).filter fun (c, d) => c != d).length / 2
      (matched.toFloat / m.toFloat + matched.toFloat / n.toFloat
        + (matched - swapped).toFloat / matched.toFloat) / 3.0

/-- The word most like the given one among those that are like it at all; the last of equals. -/
def mostSimilar? (word : String) (words : List String) : Option String :=
  let close := (words.map fun w => (similarity word w, w)).filter fun (s, _) => s > 0.7
  (close.foldl (fun best c =>
    match best with
    | some b => if c.1 ≥ b.1 then some c else some b
    | none => some c) none).map (·.2)

end Detype.CommandLine
