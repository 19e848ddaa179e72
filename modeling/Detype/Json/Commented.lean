import Detype.Text.WhiteSpace

/-
**JSON with comments and trailing commas.**

* `Commented.plain` — the text without its comments and without the commas that stand before a closing
  bracket. The contents of strings stay.
* `Commented.closes` — whether the next thing after blanks and comments is a closing bracket.
-/

namespace Detype.Json.Commented

/-- What follows the opening quote of a string: the part that belongs to the string, and the rest. -/
def splitString : List Char → List Char × List Char
  | [] => ([], [])
  | '"' :: cs => (['"'], cs)
  | ['\\'] => (['\\'], [])
  | '\\' :: c :: cs =>
    let (inside, rest) := splitString cs
    ('\\' :: c :: inside, rest)
  | c :: cs =>
    let (inside, rest) := splitString cs
    (c :: inside, rest)

/-- What follows a line comment, given what follows its slashes. The line feed is not part of it. -/
def afterLine : List Char → List Char
  | [] => []
  | c :: cs => if c = '\n' then c :: cs else afterLine cs

/-- What follows a block comment, given what follows its opening. -/
def afterBlock : List Char → List Char
  | [] => []
  | '*' :: '/' :: cs => cs
  | _ :: cs => afterBlock cs

theorem length_splitString_le (cs : List Char) : (splitString cs).2.length ≤ cs.length := by
  fun_induction splitString cs <;> simp_all <;> omega

theorem length_afterLine_le (cs : List Char) : (afterLine cs).length ≤ cs.length := by
  fun_induction afterLine cs with
  | case1 => exact Nat.le_refl 0
  | case2 => exact Nat.le_refl _
  | case3 _ _ _ ih => exact Nat.le_succ_of_le ih

theorem length_afterBlock_le (cs : List Char) : (afterBlock cs).length ≤ cs.length := by
  fun_induction afterBlock cs with
  | case1 => exact Nat.le_refl 0
  | case2 cs => simp only [List.length_cons]; omega
  | case3 _ _ _ ih => exact Nat.le_succ_of_le ih

/-- Whether the next character after blanks and comments closes an array or an object. -/
def closes : List Char → Bool
  | '}' :: _ => true
  | ']' :: _ => true
  | '/' :: '/' :: cs => closes (afterLine cs)
  | '/' :: '*' :: cs => closes (afterBlock cs)
  | c :: cs => if Text.isWhiteSpace c then closes cs else false
  | [] => false
termination_by cs => cs.length
decreasing_by
  · have := length_afterLine_le cs
    simp; omega
  · have := length_afterBlock_le cs
    simp; omega
  · simp

/-- The characters that are left without comments and trailing commas. -/
def strip : List Char → List Char
  | '"' :: cs => '"' :: (splitString cs).1 ++ strip (splitString cs).2
  | '/' :: '/' :: cs => strip (afterLine cs)
  | '/' :: '*' :: cs => strip (afterBlock cs)
  | ',' :: cs => if closes cs then strip cs else ',' :: strip cs
  | c :: cs => c :: strip cs
  | [] => []
termination_by cs => cs.length
decreasing_by
  · have := length_splitString_le cs
    simp; omega
  · have := length_afterLine_le cs
    simp; omega
  · have := length_afterBlock_le cs
    simp; omega
  all_goals simp

/-- A text without comments and trailing commas. -/
def plain (text : String) : String := String.ofList (strip text.toList)

end Detype.Json.Commented
