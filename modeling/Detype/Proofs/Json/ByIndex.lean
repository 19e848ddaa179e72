import Detype.Proofs.Json.Segments

/-
**Stripping by index.**

The characters of a text stand in an array and are walked over by index. A loop is given a number of turns. An access
outside of the array has no result, and neither has a loop that takes more turns than it is given; it is shown here that
a turn more than there are characters is enough, and that the result is what `Commented.plain` gives.

* `loop` — turn after turn, as long as there are turns.
* `stringEnd`, `startsComment`, `commentEnd`, `closesAt`, `stripByIndex` — the walk.
* `Lands` — an index to go on from: it lies ahead and not beyond the end.
* `stringEnd_lands`, `commentEnd_line`, `commentEnd_block` — where strings and comments end.
* `Ends` — functions that the walk asks where strings and comments end; `Ends.checked` — with a check of each answer.
* `Ends.Agree` — they tell what is found, wherever they are asked; `Ends.Agree.checked` — the check is always passed.
* `loop_stringTurn`, `loop_closesTurn`, `loop_stripTurn` — the loops end, and with which result.
* `stripByIndex_total` — the whole statement.
-/

namespace Detype.Json.Commented

/-! ### Loops -/

section Loop

variable {σ β : Type} {turn : σ → Option (σ ⊕ β)} {turns : Nat} {s : σ}

/-- A loop: a turn goes on to the next state or ends it with a result. -/
def loop (turn : σ → Option (σ ⊕ β)) : (turns : Nat) → σ → Option β
  | 0, _ => none
  | turns + 1, s => do
    match ← turn s with
    | .inl next => loop turn turns next
    | .inr result => return result

theorem loop_next {next : σ} (enough : 0 < turns) (step : turn s = some (.inl next)) :
    loop turn turns s = loop turn (turns - 1) next := by
  obtain ⟨n, rfl⟩ := Nat.exists_eq_add_of_lt enough
  rw [Nat.zero_add, loop, step]
  rfl

theorem loop_done {result : β} (enough : 0 < turns) (step : turn s = some (.inr result)) :
    loop turn turns s = some result := by
  obtain ⟨n, rfl⟩ := Nat.exists_eq_add_of_lt enough
  rw [Nat.zero_add, loop, step]
  rfl

end Loop

/-! ### The walk -/

/-- The characters from an index on. -/
def tailFrom (chars : Array Char) (i : Nat) : Option (List Char) :=
  if i ≤ chars.size then some (chars.toList.drop i) else none

/-- The characters from an index up to another one. -/
def slice (chars : Array Char) (i stop : Nat) : Option (List Char) :=
  if i ≤ stop ∧ stop ≤ chars.size then some ((chars.toList.drop i).take (stop - i)) else none

/-- A turn inside a string: the next index, or the one after the string. -/
def stringTurn (chars : Array Char) (i : Nat) : Option (Nat ⊕ Nat) :=
  if i < chars.size then do
    match ← chars[i]? with
    | '\\' => return .inl (i + 2)
    | '"' => return .inr (i + 1)
    | _ => return .inl (i + 1)
  else return .inr chars.size

/-- The index after the string that opens at an index. -/
def stringEnd (turns : Nat) (chars : Array Char) (start : Nat) : Option Nat :=
  loop (stringTurn chars) turns (start + 1)

def startsComment (chars : Array Char) (i : Nat) : Option Bool := do
  return (← chars[i]?) == '/' && (chars[i + 1]? == some '/' || chars[i + 1]? == some '*')

/-- The length of a line comment after its slashes; its line feed is no part of it. -/
def lineLength (body : List Char) : Nat := body.findIdx (· == '\n')

/-- The length of a block comment after its opening, found among the pairs of neighbours. -/
def blockLength (body : List Char) : Nat :=
  ((body.zip body.tail).findIdx? (· == ('*', '/'))).elim body.length (· + 2)

/-- The index after the comment that opens at an index. -/
def commentEnd (chars : Array Char) (start : Nat) : Option Nat := do
  let body ← tailFrom chars (start + 2)
  return start + 2 + if (← chars[start + 1]?) == '/' then lineLength body else blockLength body

/-- Functions that tell where the string and the comment end that open at an index. -/
structure Ends where
  string : Array Char → Nat → Option Nat
  comment : Array Char → Nat → Option Nat

/-- A turn of looking for a closing bracket, blanks and comments aside. -/
def closesTurn (ends : Ends) (chars : Array Char) (i : Nat) : Option (Nat ⊕ Bool) :=
  match chars[i]? with
  | none => return .inr false
  | some '}' | some ']' => return .inr true
  | some c =>
    if Text.isWhiteSpace c then return .inl (i + 1)
    else if c = '/' then do
      if ← startsComment chars i then return .inl (← ends.comment chars i) else return .inr false
    else return .inr false

/-- Whether the next token from an index on is a closing bracket. -/
def closesAt (ends : Ends) (turns : Nat) (chars : Array Char) (i : Nat) : Option Bool :=
  loop (closesTurn ends chars) turns i

/-- A turn of stripping, at an index and with what is left of the characters before it. -/
def stripTurn (ends : Ends) (turns : Nat) (chars : Array Char) :
    Nat × List Char → Option ((Nat × List Char) ⊕ List Char)
  | (i, left) =>
    if i < chars.size then do
      match ← chars[i]? with
      | '"' =>
        let stop ← ends.string chars i
        return .inl (stop, left ++ (← slice chars i stop))
      | '/' =>
        if ← startsComment chars i then return .inl (← ends.comment chars i, left)
        else return .inl (i + 1, left ++ ['/'])
      | ',' =>
        if ← closesAt ends turns chars (i + 1) then return .inl (i + 1, left)
        else return .inl (i + 1, left ++ [','])
      | c => return .inl (i + 1, left ++ [c])
    else return .inr left

/-- A text without comments and trailing commas, by index; each loop is given as many turns. -/
def stripByIndex (ends : Ends) (turns : Nat) (content : String) : Option String :=
  (loop (stripTurn ends turns content.toList.toArray) turns (0, [])).map String.ofList

/-! ### Indices and what follows them -/

variable {chars : Array Char} {i turns : Nat}

theorem lt_size_of_drop {c : Char} {cs : List Char} (here : chars.toList.drop i = c :: cs) : i < chars.size := by
  by_contra beyond
  rw [List.drop_eq_nil_of_le (by simpa using beyond)] at here
  cases here

theorem getElem?_of_drop {c : Char} {cs : List Char} (here : chars.toList.drop i = c :: cs) : chars[i]? = some c := by
  rw [← Array.getElem?_toList, ← List.head?_drop, here]
  rfl

theorem drop_succ_of_drop {c : Char} {cs : List Char} (here : chars.toList.drop i = c :: cs) :
    chars.toList.drop (i + 1) = cs := by
  rw [← List.tail_drop, here]
  rfl

theorem drop_of_getElem? {c : Char} (there : chars[i]? = some c) :
    chars.toList.drop i = c :: chars.toList.drop (i + 1) := by
  rw [← Array.getElem?_toList] at there
  obtain ⟨inside, rfl⟩ := List.getElem?_eq_some_iff.mp there
  exact List.drop_eq_getElem_cons inside

theorem size_of_drop {cs : List Char} (here : chars.toList.drop i = cs) (inside : i ≤ chars.size) :
    chars.size = i + cs.length := by
  rw [← here, List.length_drop, Array.length_toList]
  omega

/-- An index to go on from: it lies ahead and not beyond the end, and what follows it is known. -/
structure Lands (chars : Array Char) (i stop : Nat) (rest : List Char) : Prop where
  ahead : i < stop
  inside : stop ≤ chars.size
  left : chars.toList.drop stop = rest

/-- Less is left after going on. -/
theorem Lands.length_lt {stop : Nat} {cs rest : List Char} (lands : Lands chars i stop rest)
    (here : chars.toList.drop i = cs) : rest.length < cs.length := by
  have ahead := lands.ahead
  have inside := lands.inside
  rw [← here, ← lands.left, List.length_drop, List.length_drop, Array.length_toList]
  omega

/-! ### Where strings and comments end -/

theorem splitString_append (cs : List Char) : (splitString cs).1 ++ (splitString cs).2 = cs := by
  fun_induction splitString cs <;> simp_all

theorem take_splitString (cs : List Char) : cs.take (splitString cs).1.length = (splitString cs).1 := by
  have parts := splitString_append cs
  generalize splitString cs = split at parts ⊢
  rw [← parts, List.take_left]

theorem drop_splitString (cs : List Char) : cs.drop (splitString cs).1.length = (splitString cs).2 := by
  have parts := splitString_append cs
  generalize splitString cs = split at parts ⊢
  rw [← parts, List.drop_left]

/-- A backslash goes two characters on, a quote ends the string, and every other character is one of it. -/
theorem stringTurn_eq {c : Char} {cs : List Char} (here : chars.toList.drop i = c :: cs) :
    stringTurn chars i =
      some (if c = '\\' then .inl (i + 2) else if c = '"' then .inr (i + 1) else .inl (i + 1)) := by
  rw [stringTurn, if_pos (lt_size_of_drop here), getElem?_of_drop here]
  by_cases backslash : c = '\\'
  · subst backslash
    rfl
  · by_cases quote : c = '"'
    · subst quote
      rfl
    · simp [backslash, quote]

/-- **The loop through a string ends** after what belongs to the string. By induction on the string; a backslash goes
two characters on, past the end if it is the last one. -/
theorem loop_stringTurn {cs : List Char} (here : chars.toList.drop i = cs) (inside : i ≤ chars.size)
    (enough : cs.length < turns) : loop (stringTurn chars) turns i = some (i + (splitString cs).1.length) := by
  have size := size_of_drop here inside
  fun_induction splitString cs generalizing i turns with
  | case1 =>
    have ended : stringTurn chars i = some (.inr chars.size) := if_neg (by simp at size; omega)
    rw [loop_done enough ended, size]
  | case2 cs =>
    exact loop_done (Nat.zero_lt_of_lt enough) (stringTurn_eq here)
  | case3 =>
    have step : stringTurn chars i = some (.inl (i + 2)) := stringTurn_eq here
    have ended : stringTurn chars (i + 2) = some (.inr chars.size) := if_neg (by simp at size; omega)
    simp only [List.length_cons, List.length_nil] at enough
    rw [loop_next (by omega) step, loop_done (by omega) ended, size]
  | case4 c cs front rest split ih =>
    have step : stringTurn chars i = some (.inl (i + 2)) := stringTurn_eq here
    simp only [List.length_cons] at enough size
    have found : loop (stringTurn chars) (turns - 1) (i + 2) = some (i + 2 + front.length) := by
      rw [ih (drop_succ_of_drop (drop_succ_of_drop here)) (by omega) (by omega) (by omega), split]
    rw [loop_next (by omega) step, found]
    exact congrArg some (by simp only [List.length_cons]; omega)
  | case5 c cs quote last escaped front rest split ih =>
    have backslash := ne_backslash last escaped
    have step : stringTurn chars i = some (.inl (i + 1)) := by
      rw [stringTurn_eq here, if_neg backslash, if_neg quote]
    simp only [List.length_cons] at enough size
    have found : loop (stringTurn chars) (turns - 1) (i + 1) = some (i + 1 + front.length) := by
      rw [ih (drop_succ_of_drop here) (by omega) (by omega) (by omega), split]
    rw [loop_next (by omega) step, found]
    exact congrArg some (by simp only [List.length_cons]; omega)

/-- **A string ends ahead of its quote and not beyond the end of the text**, closed or not. -/
theorem stringEnd_lands {cs : List Char} (here : chars.toList.drop i = '"' :: cs) (enough : chars.size < turns) :
    ∃ stop, stringEnd turns chars i = some stop ∧ Lands chars i stop (splitString cs).2 ∧
      slice chars i stop = some ('"' :: (splitString cs).1) := by
  have size := size_of_drop here (lt_size_of_drop here).le
  have parts := congrArg List.length (splitString_append cs)
  rw [List.length_append] at parts
  rw [List.length_cons] at size
  refine ⟨_, loop_stringTurn (drop_succ_of_drop here) (lt_size_of_drop here) (by omega), ⟨by omega, by omega, ?_⟩, ?_⟩
  · rw [← List.drop_drop, drop_succ_of_drop here, drop_splitString]
  · have length : i + 1 + (splitString cs).1.length - i = (splitString cs).1.length + 1 := by omega
    rw [slice, if_pos (by omega), here, length, List.take_succ_cons, take_splitString]

theorem drop_lineLength (cs : List Char) : cs.drop (lineLength cs) = afterLine cs := by
  unfold lineLength
  induction cs with
  | nil => rfl
  | cons c cs ih =>
    rw [List.findIdx_cons, afterLine]
    by_cases feed : c = '\n'
    · simp [feed]
    · rw [beq_eq_false_iff_ne.mpr feed, cond_false, List.drop_succ_cons, if_neg feed, ih]

theorem lineLength_le (cs : List Char) : lineLength cs ≤ cs.length := List.findIdx_le_length

theorem blockLength_cons {c : Char} {cs : List Char} (opens : ∀ tail, c = '*' → cs = '/' :: tail → False) :
    blockLength (c :: cs) = blockLength cs + 1 := by
  cases cs with
  | nil => rfl
  | cons d ds =>
    have other : ((c, d) == ('*', '/')) = false := by
      rw [beq_eq_false_iff_ne]
      rintro ⟨⟩
      exact opens ds rfl rfl
    unfold blockLength
    rw [List.tail_cons, List.zip_cons_cons, List.findIdx?_cons, other, if_neg Bool.false_ne_true, List.tail_cons]
    cases ((d :: ds).zip ds).findIdx? (· == ('*', '/')) <;> rfl

theorem drop_blockLength (cs : List Char) : cs.drop (blockLength cs) = afterBlock cs ∧ blockLength cs ≤ cs.length := by
  fun_induction afterBlock cs with
  | case1 => exact ⟨rfl, Nat.le_refl 0⟩
  | case2 cs =>
    have two : blockLength ('*' :: '/' :: cs) = 2 := by simp [blockLength, List.findIdx?_cons]
    rw [two]
    exact ⟨rfl, by simp⟩
  | case3 c cs opens ih =>
    rw [blockLength_cons fun tail star slash => opens tail star slash]
    exact ⟨ih.1, Nat.succ_le_succ ih.2⟩

section Comment

variable {c : Char} {cs : List Char} (here : chars.toList.drop i = '/' :: c :: cs)

include here

theorem commentEnd_eq :
    commentEnd chars i = some (i + 2 + if c == '/' then lineLength cs else blockLength cs) := by
  have next := drop_succ_of_drop here
  have inside : i + 2 ≤ chars.size := lt_size_of_drop next
  rw [commentEnd, tailFrom, if_pos inside, drop_succ_of_drop next, getElem?_of_drop next]
  rfl

theorem lands_of_le {n : Nat} (le : n ≤ cs.length) : Lands chars i (i + 2 + n) (cs.drop n) := by
  have size := size_of_drop here (lt_size_of_drop here).le
  rw [List.length_cons, List.length_cons] at size
  refine ⟨by omega, by omega, ?_⟩
  rw [← List.drop_drop, ← List.drop_drop, here]
  rfl

end Comment

/-- **A line comment ends ahead of its slashes and not beyond the end of the text**, whether a line feed ends it or
not. -/
theorem commentEnd_line {cs : List Char} (here : chars.toList.drop i = '/' :: '/' :: cs) :
    ∃ stop, commentEnd chars i = some stop ∧ Lands chars i stop (afterLine cs) :=
  ⟨_, commentEnd_eq here, drop_lineLength cs ▸ lands_of_le here (lineLength_le cs)⟩

/-- **A block comment ends ahead of its opening and not beyond the end of the text**, closed or not. -/
theorem commentEnd_block {cs : List Char} (here : chars.toList.drop i = '/' :: '*' :: cs) :
    ∃ stop, commentEnd chars i = some stop ∧ Lands chars i stop (afterBlock cs) :=
  ⟨_, commentEnd_eq here, (drop_blockLength cs).1 ▸ lands_of_le here (drop_blockLength cs).2⟩

/-! ### Whether a comment starts -/

theorem startsComment_line {cs : List Char} (here : chars.toList.drop i = '/' :: '/' :: cs) :
    startsComment chars i = some true := by
  rw [startsComment, getElem?_of_drop here, getElem?_of_drop (drop_succ_of_drop here)]
  rfl

theorem startsComment_block {cs : List Char} (here : chars.toList.drop i = '/' :: '*' :: cs) :
    startsComment chars i = some true := by
  rw [startsComment, getElem?_of_drop here, getElem?_of_drop (drop_succ_of_drop here)]
  rfl

theorem startsComment_slash {cs : List Char} (here : chars.toList.drop i = '/' :: cs)
    (line : ∀ tail, cs = '/' :: tail → False) (block : ∀ tail, cs = '*' :: tail → False) :
    startsComment chars i = some false := by
  have next : chars[i + 1]? = cs.head? := by
    rw [← Array.getElem?_toList, ← List.head?_drop, drop_succ_of_drop here]
  rw [startsComment, getElem?_of_drop here, next]
  cases cs with
  | nil => rfl
  | cons d tail =>
    have slash : d ≠ '/' := fun same => line tail (by rw [same])
    have star : d ≠ '*' := fun same => block tail (by rw [same])
    simp [slash, star]

/-- Where a comment starts, it is a line comment or a block comment. -/
theorem exists_comment (starts : startsComment chars i = some true) :
    (∃ cs, chars.toList.drop i = '/' :: '/' :: cs) ∨ ∃ cs, chars.toList.drop i = '/' :: '*' :: cs := by
  cases there : chars[i]? with
  | none =>
    rw [startsComment, there] at starts
    cases starts
  | some c =>
    have marks : c = '/' ∧ (chars[i + 1]? = some '/' ∨ chars[i + 1]? = some '*') := by
      rw [startsComment, there] at starts
      simpa using starts
    obtain ⟨rfl, line | block⟩ := marks
    · exact .inl ⟨_, by rw [drop_of_getElem? there, drop_of_getElem? line]⟩
    · exact .inr ⟨_, by rw [drop_of_getElem? there, drop_of_getElem? block]⟩

theorem getElem?_of_startsComment (starts : startsComment chars i = some true) : chars[i]? = some '/' := by
  rcases exists_comment starts with ⟨cs, here⟩ | ⟨cs, here⟩ <;> exact getElem?_of_drop here

/-- **Where a comment starts, its end is found**, ahead and not beyond the end of the text. -/
theorem commentEnd_lands (starts : startsComment chars i = some true) :
    ∃ stop rest, commentEnd chars i = some stop ∧ Lands chars i stop rest := by
  rcases exists_comment starts with ⟨cs, here⟩ | ⟨cs, here⟩
  · obtain ⟨stop, found, lands⟩ := commentEnd_line here
    exact ⟨stop, _, found, lands⟩
  · obtain ⟨stop, found, lands⟩ := commentEnd_block here
    exact ⟨stop, _, found, lands⟩

/-! ### Asking for ends -/

/-- The ends as they are found. -/
def Ends.found (turns : Nat) : Ends := ⟨stringEnd turns, commentEnd⟩

/-- An end that is found, if it lies ahead and not beyond the end of the text. -/
def checkedEnd (find : Array Char → Nat → Option Nat) (chars : Array Char) (i : Nat) : Option Nat :=
  (find chars i).filter fun stop => i < stop && stop ≤ chars.size

/-- The ends as they are found, each of them checked. -/
def Ends.checked (turns : Nat) : Ends := ⟨checkedEnd (stringEnd turns), checkedEnd commentEnd⟩

theorem checkedEnd_eq {find : Array Char → Nat → Option Nat} {stop : Nat} {rest : List Char}
    (found : find chars i = some stop) (lands : Lands chars i stop rest) : checkedEnd find chars i = find chars i := by
  rw [checkedEnd, found, Option.filter_some, if_pos]
  simp [lands.ahead, lands.inside]

/-- Where strings and comments open, the ends are told as they are found. -/
structure Ends.Agree (ends : Ends) (turns : Nat) (chars : Array Char) : Prop where
  string : ∀ i, chars[i]? = some '"' → ends.string chars i = stringEnd turns chars i
  comment : ∀ i, startsComment chars i = some true → ends.comment chars i = commentEnd chars i

theorem Ends.Agree.found (turns : Nat) (chars : Array Char) : (Ends.found turns).Agree turns chars :=
  ⟨fun _ _ => rfl, fun _ _ => rfl⟩

/-- The check is always passed. -/
theorem Ends.Agree.checked (enough : chars.size < turns) : (Ends.checked turns).Agree turns chars where
  string := by
    intro i opens
    obtain ⟨stop, found, lands, -⟩ := stringEnd_lands (drop_of_getElem? opens) enough
    exact checkedEnd_eq found lands
  comment := by
    intro i starts
    obtain ⟨stop, rest, found, lands⟩ := commentEnd_lands starts
    exact checkedEnd_eq found lands

/-! ### The loops -/

section Loops

variable {ends : Ends} {most : Nat} (agree : ends.Agree most chars)

include agree

/-- Looking for a bracket goes on after a comment. -/
theorem closesTurn_comment {stop : Nat} (starts : startsComment chars i = some true)
    (found : commentEnd chars i = some stop) : closesTurn ends chars i = some (.inl stop) := by
  have blank : Text.isWhiteSpace '/' = false := by decide
  rw [closesTurn, getElem?_of_startsComment starts]
  simp [blank, starts, agree.comment i starts, found]

/-- **Looking for a closing bracket ends.** By induction on what follows; a comment may be skipped at once. -/
theorem loop_closesTurn {cs : List Char} (here : chars.toList.drop i = cs) (enough : cs.length < turns) :
    loop (closesTurn ends chars) turns i = some (closes cs) := by
  have some_turn : 0 < turns := Nat.zero_lt_of_lt enough
  fun_induction closes cs generalizing i turns with
  | case1 | case2 =>
    refine loop_done some_turn ?_
    rw [closesTurn, getElem?_of_drop here]
    rfl
  | case3 cs ih =>
    obtain ⟨stop, found, lands⟩ := commentEnd_line here
    have less := lands.length_lt here
    rw [loop_next some_turn (closesTurn_comment agree (startsComment_line here) found)]
    exact ih lands.left (by omega) (by omega)
  | case4 cs ih =>
    obtain ⟨stop, found, lands⟩ := commentEnd_block here
    have less := lands.length_lt here
    rw [loop_next some_turn (closesTurn_comment agree (startsComment_block here) found)]
    exact ih lands.left (by omega) (by omega)
  | case5 c cs brace bracket line block white ih =>
    have step : closesTurn ends chars i = some (.inl (i + 1)) := by
      rw [closesTurn, getElem?_of_drop here]
      simp [white]
    rw [List.length_cons] at enough
    rw [loop_next some_turn step]
    exact ih (drop_succ_of_drop here) (by omega) (by omega)
  | case6 c cs brace bracket line block black =>
    refine loop_done some_turn ?_
    rw [closesTurn, getElem?_of_drop here]
    by_cases slash : c = '/'
    · subst slash
      have alone := startsComment_slash here (fun tail => line tail rfl) fun tail => block tail rfl
      simp [black, alone]
    · simp [black, slash]
  | case7 =>
    refine loop_done some_turn ?_
    have beyond : chars[i]? = none := by rw [← Array.getElem?_toList, ← List.head?_drop, here, List.head?_nil]
    rw [closesTurn, beyond]
    rfl

/-- Whether a closing bracket follows is found, at any index. -/
theorem closesAt_eq (enough : chars.size < turns) (i : Nat) :
    closesAt ends turns chars i = some (closes (chars.toList.drop i)) := by
  refine loop_closesTurn agree rfl ?_
  rw [List.length_drop, Array.length_toList]
  omega

/-- Stripping goes on after a comment. -/
theorem stripTurn_comment {stop : Nat} {left : List Char} (starts : startsComment chars i = some true)
    (found : commentEnd chars i = some stop) : stripTurn ends turns chars (i, left) = some (.inl (stop, left)) := by
  have slash := getElem?_of_startsComment starts
  have inside : i < chars.size := (Array.getElem?_eq_some_iff.mp slash).1
  rw [stripTurn, if_pos inside, slash]
  simp [starts, agree.comment i starts, found]

/-- A string stays as it is. -/
theorem stripTurn_string {cs : List Char} (here : chars.toList.drop i = '"' :: cs) (enough : chars.size < most)
    (left : List Char) :
    ∃ stop, stripTurn ends most chars (i, left) = some (.inl (stop, left ++ '"' :: (splitString cs).1)) ∧
      Lands chars i stop (splitString cs).2 := by
  obtain ⟨stop, found, lands, sliced⟩ := stringEnd_lands here enough
  refine ⟨stop, ?_, lands⟩
  rw [stripTurn, if_pos (lt_size_of_drop here), getElem?_of_drop here]
  simp [agree.string i (getElem?_of_drop here), found, sliced]

/-- A comma stays if no closing bracket follows. -/
theorem stripTurn_comma {cs : List Char} (here : chars.toList.drop i = ',' :: cs) (enough : chars.size < turns)
    (left : List Char) :
    stripTurn ends turns chars (i, left) = some (.inl (i + 1, if closes cs then left else left ++ [','])) := by
  have closing := closesAt_eq agree enough (i + 1)
  rw [drop_succ_of_drop here] at closing
  rw [stripTurn, if_pos (lt_size_of_drop here), getElem?_of_drop here]
  cases drops : closes cs <;> simp [closing, drops]

/-- **Stripping ends**, with what is left of the text. By induction on what follows the index. -/
theorem loop_stripTurn (most_enough : chars.size < most) {cs left : List Char} (here : chars.toList.drop i = cs)
    (enough : cs.length < turns) :
    loop (stripTurn ends most chars) turns (i, left) = some (left ++ strip cs) := by
  have some_turn : 0 < turns := Nat.zero_lt_of_lt enough
  fun_induction strip cs generalizing i left turns with
  | case1 cs ih =>
    obtain ⟨stop, step, lands⟩ := stripTurn_string agree here most_enough left
    have less := lands.length_lt here
    rw [loop_next some_turn step, ih lands.left (by omega) (by omega), List.append_assoc]
  | case2 cs ih =>
    obtain ⟨stop, found, lands⟩ := commentEnd_line here
    have less := lands.length_lt here
    rw [loop_next some_turn (stripTurn_comment agree (startsComment_line here) found)]
    exact ih lands.left (by omega) (by omega)
  | case3 cs ih =>
    obtain ⟨stop, found, lands⟩ := commentEnd_block here
    have less := lands.length_lt here
    rw [loop_next some_turn (stripTurn_comment agree (startsComment_block here) found)]
    exact ih lands.left (by omega) (by omega)
  | case4 cs drops ih =>
    have step := stripTurn_comma agree here most_enough left
    rw [if_pos drops] at step
    rw [List.length_cons] at enough
    rw [loop_next some_turn step]
    exact ih (drop_succ_of_drop here) (by omega) (by omega)
  | case5 cs stays ih =>
    have step := stripTurn_comma agree here most_enough left
    rw [if_neg stays] at step
    rw [List.length_cons] at enough
    rw [loop_next some_turn step, ih (drop_succ_of_drop here) (by omega) (by omega), List.append_assoc]
    rfl
  | case6 c cs quote line block comma ih =>
    have step : stripTurn ends most chars (i, left) = some (.inl (i + 1, left ++ [c])) := by
      rw [stripTurn, if_pos (lt_size_of_drop here), getElem?_of_drop here]
      by_cases slash : c = '/'
      · subst slash
        have alone := startsComment_slash here (fun tail => line tail rfl) fun tail => block tail rfl
        simp [alone]
      · simp
    rw [List.length_cons] at enough
    rw [loop_next some_turn step, ih (drop_succ_of_drop here) (by omega) (by omega), List.append_assoc]
    rfl
  | case7 =>
    have beyond : ¬ i < chars.size := by
      rw [List.drop_eq_nil_iff, Array.length_toList] at here
      omega
    have ended : stripTurn ends most chars (i, left) = some (.inr left) := if_neg beyond
    rw [loop_done some_turn ended, List.append_nil]

end Loops

/-- What is left of a text does not depend on whether the ends are checked, nor on the number of turns. -/
theorem stripByIndex_eq {ends : Ends} {content : String} (agree : ends.Agree turns content.toList.toArray)
    (enough : content.toList.length < turns) : stripByIndex ends turns content = some (plain content) := by
  have size : content.toList.toArray.size < turns := by simpa using enough
  rw [stripByIndex, loop_stripTurn agree size (List.drop_zero) enough]
  rfl

/-- **Stripping by index ends on every text, without an access outside of it**, and leaves what `plain` does: a turn
more than there are characters is enough for each loop. Wherever a string or a comment opens, its end is found ahead of
it and not beyond the end of the text, and nothing changes if each end that is asked for is checked to be so. Whether a
closing bracket follows is found at any index. -/
theorem stripByIndex_total (content : String) (enough : content.toList.length < turns) :
    stripByIndex (.found turns) turns content = some (plain content) ∧
      stripByIndex (.checked turns) turns content = some (plain content) ∧
      ∀ (chars : Array Char) (i : Nat), chars.size < turns →
        (chars[i]? = some '"' → ∃ stop, stringEnd turns chars i = some stop ∧ i < stop ∧ stop ≤ chars.size) ∧
        (startsComment chars i = some true → ∃ stop, commentEnd chars i = some stop ∧ i < stop ∧ stop ≤ chars.size) ∧
        ∃ closing, closesAt (.found turns) turns chars i = some closing := by
  have size : content.toList.toArray.size < turns := by simpa using enough
  refine ⟨stripByIndex_eq (.found turns _) enough, stripByIndex_eq (.checked size) enough, ?_⟩
  intro chars i inside
  refine ⟨?_, ?_, _, closesAt_eq (.found turns chars) inside i⟩
  · intro opens
    obtain ⟨stop, found, lands, -⟩ := stringEnd_lands (drop_of_getElem? opens) inside
    exact ⟨stop, found, lands.ahead, lands.inside⟩
  · intro starts
    obtain ⟨stop, _, found, lands⟩ := commentEnd_lands starts
    exact ⟨stop, found, lands.ahead, lands.inside⟩

/-- A string that ends in a backslash, an opening that does not close itself, a comma before a comment at the end, and a
slash as the last character. -/
theorem malformed_byIndex :
    stripByIndex (.checked 8) 8 "[\"a\\" = some "[\"a\\" ∧ stripByIndex (.checked 8) 8 "[1,/*/" = some "[1," ∧
      stripByIndex (.checked 8) 8 "[1,]//" = some "[1]" ∧ stripByIndex (.checked 8) 8 "[1,/" = some "[1,/" ∧
      (∃ stop, stringEnd 8 #['[', '"', 'a', '\\'] 1 = some stop ∧ 1 < stop ∧ stop ≤ 4) ∧
      ∃ stop, commentEnd #['[', '1', ',', '/', '*', '/'] 3 = some stop ∧ 3 < stop ∧ stop ≤ 6 := by
  have backslash := stripByIndex_total "[\"a\\" (show _ < 8 by decide)
  have opening := stripByIndex_total "[1,/*/" (show _ < 8 by decide)
  have comma := stripByIndex_total "[1,]//" (show _ < 8 by decide)
  have slash := stripByIndex_total "[1,/" (show _ < 8 by decide)
  exact ⟨backslash.2.1.trans (by decide +kernel), opening.2.1.trans (by decide +kernel),
    comma.2.1.trans (by decide +kernel), slash.2.1.trans (by decide +kernel),
    (backslash.2.2 #['[', '"', 'a', '\\'] 1 (by decide)).1 rfl,
    (opening.2.2 #['[', '1', ',', '/', '*', '/'] 3 (by decide)).2.1 (by decide)⟩

end Detype.Json.Commented
