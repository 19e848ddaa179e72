/-
**Glob patterns.**

* `Glob.Token` — the parts of a pattern.
* `Glob.parse` — reads a pattern; `Glob.Fault` says what can be wrong with it.
-/

namespace Detype.Glob

/-- A part of a pattern. -/
inductive Token where
  | literal (c : Char)
  /-- `?`: any one byte. -/
  | any
  /-- `*`: any bytes. -/
  | star
  /-- A leading `**`: nothing, or any directories. -/
  | anyDirs
  /-- A trailing `**`: anything below a directory. -/
  | subtree
  /-- `**` between slashes: a slash, or directories between slashes. -/
  | between
  | set (negated : Bool) (ranges : List (Char × Char))
  | choice (branches : List (List Token))
deriving Inhabited

/-- What is wrong with a pattern. -/
inductive Fault where
  | unclosedClass
  | invalidRange (low high : Char)
  | unopenedChoice
  | unclosedChoice
  | danglingEscape
deriving DecidableEq, Inhabited, Repr

def Fault.message : Fault → String
  | unclosedClass => "unclosed character class; missing ']'"
  | invalidRange low high =>
    "invalid range; '" ++ String.singleton low ++ "' > '" ++ String.singleton high ++ "'"
  | unopenedChoice => "unopened alternate group; missing '\x7b' (maybe escape '\x7d' with '[\x7d]'?)"
  | unclosedChoice => "unclosed alternate group; missing '\x7d' (maybe escape '\x7b' with '[\x7b]'?)"
  | danglingEscape => "dangling '\\'"

/-! ### Reading -/

/-- The branches that are open: for each group its finished branches and the one that is being read,
both in reverse, innermost group first. The last one is the pattern itself. -/
structure Reading where
  /-- Finished branches of the innermost group, and its current branch. -/
  current : List Token := []
  done : List (List Token) := []
  outer : List (List Token × List (List Token)) := []
deriving Inhabited

namespace Reading

def push (r : Reading) (t : Token) : Reading := { r with current := t :: r.current }

def inGroup (r : Reading) : Bool := !r.outer.isEmpty

def openGroup (r : Reading) : Reading :=
  { current := [], done := [], outer := (r.current, r.done) :: r.outer }

def nextBranch (r : Reading) : Reading := { r with current := [], done := r.current.reverse :: r.done }

def closeGroup (r : Reading) : Except Fault Reading :=
  match r.outer with
  | [] => .error .unopenedChoice
  | (current, done) :: outer =>
    let branches := (r.current.reverse :: r.done).reverse
    .ok { current := .choice branches :: current, done, outer }

end Reading

/-- The ranges of a character class with a character added, the newest range first. -/
def addToClass (ranges : List (Char × Char)) (inRange : Bool) (c : Char) :
    Except Fault (List (Char × Char)) :=
  match inRange, ranges with
  | true, (low, _) :: rest => if c < low then .error (.invalidRange low c) else .ok ((low, c) :: rest)
  | _, ranges => .ok ((c, c) :: ranges)

/-- A character class after its opening bracket and negation. Gives the ranges and what follows. -/
def readClass (first inRange : Bool) (ranges : List (Char × Char)) :
    List Char → Except Fault (List (Char × Char) × List Char)
  | [] => .error .unclosedClass
  | c :: cs =>
    if c = ']' && !first then
      .ok ((if inRange then ('-', '-') :: ranges else ranges).reverse, cs)
    else if c = '-' && !first && !inRange then readClass false true ranges cs
    else
      match addToClass ranges inRange c with
      | .ok ranges => readClass false false ranges cs
      | .error e => .error e

theorem length_readClass_lt {first inRange : Bool} {ranges out : List (Char × Char)}
    {cs rest : List Char} (read : readClass first inRange ranges cs = .ok (out, rest)) :
    rest.length < cs.length := by
  induction cs generalizing first inRange ranges with
  | nil => simp [readClass] at read
  | cons c cs ih =>
    rw [readClass] at read
    split at read
    · simp only [Except.ok.injEq, Prod.mk.injEq] at read
      simp [read.2]
    · split at read
      · exact Nat.lt_succ_of_lt (ih read)
      · split at read
        · exact Nat.lt_succ_of_lt (ih read)
        · simp at read

/-- What two stars mean, given the character before them and what follows. Gives the reading and
whether a slash after them belongs to them. -/
def twoStars (r : Reading) (before : Option Char) (rest : List Char) : Reading × List Char :=
  let plain : Reading × List Char := ((r.push .star).push .star, rest)
  match r.current with
  | [] =>
    match rest with
    | [] => (r.push .anyDirs, [])
    | '/' :: rest => (r.push .anyDirs, rest)
    | _ => plain
  | last :: earlier =>
    let startsPiece := before == some '/' || (r.inGroup && (before == some ',' || before == some '{'))
    let replace (t : Token) : Reading :=
      match last with
      | .anyDirs => { r with current := .anyDirs :: earlier }
      | .subtree => { r with current := .subtree :: earlier }
      | _ => { r with current := t :: earlier }
    if !startsPiece then plain
    else
      match rest with
      | [] => (replace .subtree, [])
      | '/' :: rest => (replace .between, rest)
      | ',' :: _ => if r.inGroup then (replace .subtree, rest) else plain
      | '}' :: _ => if r.inGroup then (replace .subtree, rest) else plain
      | _ => plain

theorem length_twoStars_le (r : Reading) (before : Option Char) (rest : List Char) :
    (twoStars r before rest).2.length ≤ rest.length := by
  unfold twoStars
  simp only
  split
  · split <;> simp
  · split
    · simp
    · split <;> try simp
      all_goals (split <;> simp)

/-- Reads the rest of a pattern after a character. -/
def readTokens (r : Reading) (before : Option Char) : List Char → Except Fault Reading
  | [] => .ok r
  | '?' :: cs => readTokens (r.push .any) (some '?') cs
  | '*' :: '*' :: cs =>
    let next := twoStars r before cs
    readTokens next.1 (some (if next.2.length < cs.length then '/' else '*')) next.2
  | '*' :: cs => readTokens (r.push .star) (some '*') cs
  | '[' :: cs =>
    let negated := cs.head? == some '!' || cs.head? == some '^'
    match _read : readClass true false [] (if negated then cs.drop 1 else cs) with
    | .ok (ranges, rest) => readTokens (r.push (.set negated ranges)) (some ']') rest
    | .error e => .error e
  | '{' :: cs => readTokens r.openGroup (some '{') cs
  | '}' :: cs =>
    match r.closeGroup with
    | .ok r => readTokens r (some '}') cs
    | .error e => .error e
  | ',' :: cs => readTokens (if r.inGroup then r.nextBranch else r.push (.literal ',')) (some ',') cs
  | '\\' :: c :: cs => readTokens (r.push (.literal c)) (some c) cs
  | ['\\'] => .error .danglingEscape
  | c :: cs => readTokens (r.push (.literal c)) (some c) cs
termination_by cs => cs.length
decreasing_by
  · simp
  · have := length_twoStars_le r before cs
    simp
    omega
  · simp
  · have shorter := length_readClass_lt _read
    split at shorter <;> simp_all <;> omega
  all_goals (simp only [List.length_cons]; omega)

/-- Reads a pattern. -/
def parse (pattern : String) : Except Fault (List Token) :=
  match readTokens {} none pattern.toList with
  | .error e => .error e
  | .ok r => if r.inGroup then .error .unclosedChoice else .ok r.current.reverse

end Detype.Glob
