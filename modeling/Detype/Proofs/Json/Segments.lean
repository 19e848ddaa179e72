import Detype.Proofs.Json.Rendering

/-
**The segments of a text with comments.**

Any text, malformed or not, is cut from left to right into strings, comments and single other characters. A string or
a block comment that nothing closes runs to the end of the text.

* `Segment` — a part of a text; `Segment.Stands` — it ends where its kind says, given what follows.
* `Cut` — the segments of a text; `exists_cut`, `Cut.unique` — every text has them, in one way.
* `kept` — the segments without comments and without commas that close a list or an object.
* `Cut.strip_eq` — they are what stripping leaves; `Cut.kept` — and what it leaves is cut there again.
* `plain_segments` — the whole statement for a text.
-/

namespace Detype.Json.Commented

/-! ### Segments -/

/-- A part of a text. -/
inductive Segment where
  | string (inside : List Char)
  /-- A string that nothing closes. -/
  | openString (inside : List Char)
  | line (body : List Char)
  | block (body : List Char)
  /-- A block comment that nothing closes. -/
  | openBlock (body : List Char)
  | other (c : Char)
deriving DecidableEq

namespace Segment

def text : Segment → List Char
  | string inside => '"' :: inside ++ ['"']
  | openString inside => '"' :: inside
  | line body => '/' :: '/' :: body
  | block body => '/' :: '*' :: body ++ ['*', '/']
  | openBlock body => '/' :: '*' :: body
  | other c => [c]

/-- A segment ends where it does, given the text after it: a string at its closing quote, a line comment before a line
feed, a block comment at the first star and slash. Other characters open neither a string nor a comment. -/
def Stands : Segment → (rest : List Char) → Prop
  | string inside, _ => Inside inside
  | openString inside, rest => (∀ front back, inside = front ++ '"' :: back → ¬ Inside front) ∧ rest = []
  | line body, rest => '\n' ∉ body ∧ ∀ c ∈ rest.head?, c = '\n'
  | block body, _ => ¬ ['*', '/'] <:+: body
  | openBlock body, rest => ¬ ['*', '/'] <:+: body ∧ rest = []
  | other c, rest => c ≠ '"' ∧ (c = '/' → ∀ d ∈ rest.head?, d ≠ '/' ∧ d ≠ '*')

def isString : Segment → Bool
  | string _ | openString _ => true
  | _ => false

def isComment : Segment → Bool
  | line _ | block _ | openBlock _ => true
  | _ => false

def isBlank : Segment → Bool
  | other c => Text.isWhiteSpace c
  | _ => false

end Segment

/-- The segments of a text. -/
inductive Cut : List Char → List Segment → Prop
  | nil : Cut [] []
  | cons {s : Segment} {cs : List Char} {ss : List Segment} (stands : s.Stands cs) (later : Cut cs ss) :
      Cut (s.text ++ cs) (s :: ss)

/-- Segments as one text. -/
def textOf (ss : List Segment) : List Char := ss.flatMap Segment.text

theorem textOf_cons (s : Segment) (ss : List Segment) : textOf (s :: ss) = s.text ++ textOf ss := rfl

theorem Cut.text_eq {cs : List Char} {ss : List Segment} (cut : Cut cs ss) : textOf ss = cs := by
  induction cut with
  | nil => rfl
  | cons _ _ ih => rw [textOf_cons, ih]

/-- Whether the next segment that is neither blank nor a comment is a closing bracket. -/
def closesNext (ss : List Segment) : Bool :=
  let next := ss.find? fun s => !s.isBlank && !s.isComment
  next == some (.other '}') || next == some (.other ']')

/-- Whether a segment is a comment, or a comma before a closing bracket. -/
def isDropped (s : Segment) (later : List Segment) : Bool := s.isComment || (s == .other ',' && closesNext later)

/-- The segments that are neither comments nor commas before a closing bracket. -/
def kept : List Segment → List Segment
  | [] => []
  | s :: ss => if isDropped s ss then kept ss else s :: kept ss

/-! ### Where a segment ends -/

/-- What is read as a character of its own in a string is no backslash. -/
theorem ne_backslash {c : Char} {cs : List Char} (last : c = '\\' → cs = [] → False)
    (escaped : ∀ d ds, c = '\\' → cs = d :: ds → False) : c ≠ '\\' := by
  intro backslash
  cases cs with
  | nil => exact last backslash rfl
  | cons d ds => exact escaped d ds backslash rfl

theorem splitString_open {inside : List Char}
    (never : ∀ front back, inside = front ++ '"' :: back → ¬ Inside front) : splitString inside = (inside, []) := by
  fun_induction splitString inside with
  | case1 => rfl
  | case2 cs => exact absurd .nil (never [] cs rfl)
  | case3 => rfl
  | case4 c cs inside rest split ih =>
    have later := ih fun front back shape valid =>
      never ('\\' :: c :: front) back (by rw [shape]; rfl) (.escape c valid)
    rw [split] at later
    obtain ⟨rfl, rfl⟩ := Prod.mk.inj later
    rfl
  | case5 c cs quote last escaped inside rest split ih =>
    have backslash := ne_backslash last escaped
    have later := ih fun front back shape valid =>
      never (c :: front) back (by rw [shape]; rfl) (.char quote backslash valid)
    rw [split] at later
    obtain ⟨rfl, rfl⟩ := Prod.mk.inj later
    rfl

/-- After its opening quote, a string is closed or runs to the end. -/
theorem exists_string (cs : List Char) :
    ∃ s : Segment, s.text ++ (splitString cs).2 = '"' :: cs ∧ s.Stands (splitString cs).2 := by
  suffices split : (∃ inside, Inside inside ∧ cs = inside ++ '"' :: (splitString cs).2) ∨
      ((∀ front back, cs = front ++ '"' :: back → ¬ Inside front) ∧ (splitString cs).2 = []) by
    rcases split with ⟨inside, valid, shape⟩ | ⟨never, ended⟩
    · refine ⟨.string inside, ?_, valid⟩
      conv_rhs => rw [shape]
      simp [Segment.text]
    · exact ⟨.openString cs, by simp [Segment.text, ended], never, ended⟩
  fun_induction splitString cs with
  | case1 => exact .inr ⟨fun front back shape => by simp at shape, rfl⟩
  | case2 cs => exact .inl ⟨[], .nil, rfl⟩
  | case3 =>
    refine .inr ⟨fun front back shape => ?_, rfl⟩
    rcases List.cons_eq_append_iff.mp shape with ⟨_, quote⟩ | ⟨front, _, rest⟩
    · simp at quote
    · simp at rest
  | case4 c cs inside rest split ih =>
    rw [split] at ih
    rcases ih with ⟨inside, valid, shape⟩ | ⟨never, ended⟩
    · exact .inl ⟨'\\' :: c :: inside, .escape c valid, by rw [shape]; rfl⟩
    · refine .inr ⟨fun front back shape valid => ?_, ended⟩
      cases valid with
      | nil => simp at shape
      | char _ backslash _ => exact backslash (List.cons.inj shape).1.symm
      | escape d later => exact never _ back (List.cons.inj (List.cons.inj shape).2).2 later
  | case5 c cs quote last escaped inside rest split ih =>
    rw [split] at ih
    have backslash := ne_backslash last escaped
    rcases ih with ⟨inside, valid, shape⟩ | ⟨never, ended⟩
    · exact .inl ⟨c :: inside, .char quote backslash valid, by rw [shape]; rfl⟩
    · refine .inr ⟨fun front back shape valid => ?_, ended⟩
      cases valid with
      | nil => exact quote (List.cons.inj shape).1
      | char _ _ later => exact never _ back (List.cons.inj shape).2 later
      | escape d later => exact backslash (List.cons.inj shape).1

theorem afterLine_stands {body rest : List Char} (oneLine : '\n' ∉ body) (stop : ∀ c ∈ rest.head?, c = '\n') :
    afterLine (body ++ rest) = rest := by
  cases rest with
  | nil => rw [List.append_nil, afterLine_last oneLine]
  | cons c rest =>
    rw [stop c rfl]
    exact afterLine_append oneLine rest

theorem exists_line (cs : List Char) :
    ∃ body, cs = body ++ afterLine cs ∧ '\n' ∉ body ∧ ∀ c ∈ (afterLine cs).head?, c = '\n' := by
  induction cs with
  | nil => exact ⟨[], rfl, by simp, by simp [afterLine]⟩
  | cons c cs ih =>
    rw [afterLine]
    split
    · next feed => exact ⟨[], rfl, by simp, by simp [feed]⟩
    · next other =>
      obtain ⟨body, shape, oneLine, stop⟩ := ih
      refine ⟨c :: body, ?_, ?_, stop⟩
      · conv_lhs => rw [shape]
        rfl
      · rw [List.mem_cons, not_or]
        exact ⟨Ne.symm other, oneLine⟩

theorem afterBlock_open {body : List Char} (unclosed : ¬ ['*', '/'] <:+: body) : afterBlock body = [] := by
  fun_induction afterBlock body with
  | case1 => rfl
  | case2 cs => exact absurd ⟨[], cs, rfl⟩ unclosed
  | case3 c cs _ ih => exact ih fun inside => unclosed (inside.trans (List.suffix_cons c cs).isInfix)

theorem exists_block (cs : List Char) :
    ∃ s : Segment, s.isComment = true ∧ s.text ++ afterBlock cs = '/' :: '*' :: cs ∧ s.Stands (afterBlock cs) := by
  suffices split : (∃ body, ¬ ['*', '/'] <:+: body ∧ cs = body ++ '*' :: '/' :: afterBlock cs) ∨
      (¬ ['*', '/'] <:+: cs ∧ afterBlock cs = []) by
    rcases split with ⟨body, unclosed, shape⟩ | ⟨unclosed, ended⟩
    · refine ⟨.block body, rfl, ?_, unclosed⟩
      conv_rhs => rw [shape]
      simp [Segment.text]
    · exact ⟨.openBlock cs, rfl, by simp [Segment.text, ended], unclosed, ended⟩
  fun_induction afterBlock cs with
  | case1 => exact .inr ⟨by simp, rfl⟩
  | case2 cs => exact .inl ⟨[], by simp, rfl⟩
  | case3 c cs opens ih =>
    -- A star here is not followed by a slash.
    have later : ∀ body : List Char, ¬ ['*', '/'] <:+: body → (∀ tail, body = '/' :: tail → ∃ tail, cs = '/' :: tail) →
        ¬ ['*', '/'] <:+: c :: body := by
      intro body unclosed first inside
      rcases List.infix_cons_iff.mp inside with atFront | inside
      · obtain ⟨tail, shape⟩ := atFront
        obtain ⟨star, shape⟩ := List.cons.inj shape
        obtain ⟨rest, shape'⟩ := first tail shape.symm
        exact opens rest star.symm shape'
      · exact unclosed inside
    rcases ih with ⟨body, unclosed, shape⟩ | ⟨unclosed, ended⟩
    · refine .inl ⟨c :: body, later body unclosed fun tail first => ?_, by rw [List.cons_append, ← shape]⟩
      rw [first] at shape
      exact ⟨_, shape⟩
    · exact .inr ⟨later cs unclosed fun tail first => ⟨tail, first⟩, ended⟩

/-! ### Every text has segments, in one way -/

theorem Cut.other {c : Char} {cs : List Char} {ss : List Segment} (quote : c ≠ '"')
    (slash : c = '/' → ∀ d ∈ cs.head?, d ≠ '/' ∧ d ≠ '*') (later : Cut cs ss) : Cut (c :: cs) (.other c :: ss) :=
  .cons (s := .other c) ⟨quote, slash⟩ later

/-- Every text has segments. -/
theorem exists_cut (cs : List Char) : ∃ ss, Cut cs ss := by
  induction cs using strip.induct with
  | case1 cs ih =>
    obtain ⟨s, text, stands⟩ := exists_string cs
    obtain ⟨ss, later⟩ := ih
    exact ⟨s :: ss, text ▸ .cons stands later⟩
  | case2 cs ih =>
    obtain ⟨body, shape, stands⟩ := exists_line cs
    obtain ⟨ss, later⟩ := ih
    have cut := Cut.cons (s := .line body) stands later
    rw [Segment.text, List.cons_append, List.cons_append, ← shape] at cut
    exact ⟨_, cut⟩
  | case3 cs ih =>
    obtain ⟨s, _, text, stands⟩ := exists_block cs
    obtain ⟨ss, later⟩ := ih
    exact ⟨s :: ss, text ▸ .cons stands later⟩
  | case4 cs _ ih | case5 cs _ ih =>
    obtain ⟨ss, later⟩ := ih
    exact ⟨_, .other (by decide) (fun slash => absurd slash (by decide)) later⟩
  | case6 c cs quote line block comma ih =>
    obtain ⟨ss, later⟩ := ih
    refine ⟨_, .other quote (fun slash d first => ?_) later⟩
    obtain ⟨rest, rfl⟩ := List.head?_eq_some_iff.mp first
    exact ⟨fun same => line rest slash (by rw [same]), fun same => block rest slash (by rw [same])⟩
  | case7 => exact ⟨[], .nil⟩

/-- What follows the first segment of a text, by how it begins. -/
def afterFirst : List Char → List Char
  | '"' :: cs => (splitString cs).2
  | '/' :: '/' :: cs => afterLine cs
  | '/' :: '*' :: cs => afterBlock cs
  | _ :: cs => cs
  | [] => []

theorem Segment.Stands.afterFirst_eq {s : Segment} {cs : List Char} (stands : s.Stands cs) :
    afterFirst (s.text ++ cs) = cs := by
  cases s with
  | string inside => simp [text, afterFirst, splitString_inside stands]
  | openString inside => simp [text, afterFirst, stands.2, splitString_open stands.1]
  | line body => simp [text, afterFirst, afterLine_stands stands.1 stands.2]
  | block body => simp [text, afterFirst, afterBlock_append stands]
  | openBlock body => simp [text, afterFirst, stands.2, afterBlock_open stands.1]
  | other c =>
    show afterFirst (c :: cs) = cs
    unfold afterFirst
    split
    · next same => exact absurd (List.cons.inj same).1 stands.1
    · next same =>
      obtain ⟨slash, rfl⟩ := List.cons.inj same
      exact absurd rfl (stands.2 slash _ rfl).1
    · next same =>
      obtain ⟨slash, rfl⟩ := List.cons.inj same
      exact absurd rfl (stands.2 slash _ rfl).2
    · next same => exact (List.cons.inj same).2.symm
    · next same => cases same

/-- A closing quote ends a string. -/
theorem Segment.not_stands_openString {inside : List Char} (valid : Inside inside) (cs : List Char) :
    ¬ (openString (inside ++ ['"'])).Stands cs := fun stands => stands.1 inside [] rfl valid

/-- A star and a slash end a block comment. -/
theorem Segment.not_stands_openBlock (body cs : List Char) : ¬ (openBlock (body ++ ['*', '/'])).Stands cs :=
  fun stands => stands.1 (List.suffix_append body _).isInfix

/-- One text is one segment where it stands. -/
theorem Segment.Stands.eq_of_text {s s' : Segment} {cs : List Char} (stands : s.Stands cs) (stands' : s'.Stands cs)
    (same : s.text = s'.text) : s = s' := by
  cases s <;> cases s' <;> simp only [text, List.cons_append, List.cons.injEq, reduceCtorEq,
    List.append_cancel_right_eq, List.nil_eq, true_and, and_true, false_and, and_false, Char.reduceEq] at same
  case string.string | line.line | block.block | openString.openString | openBlock.openBlock | other.other => rw [same]
  case string.openString => exact absurd (same ▸ stands') (not_stands_openString stands cs)
  case openString.string => exact absurd (same ▸ stands) (not_stands_openString stands' cs)
  case block.openBlock => exact absurd (same ▸ stands') (not_stands_openBlock _ cs)
  case openBlock.block => exact absurd (same ▸ stands) (not_stands_openBlock _ cs)
  case string.other | openString.other => exact absurd same.1.symm stands'.1
  case other.string | other.openString => exact absurd same.1 stands.1

/-- Where a text begins with a segment, it is the only one. -/
theorem Segment.Stands.unique {s s' : Segment} {cs cs' : List Char} (stands : s.Stands cs) (stands' : s'.Stands cs')
    (same : s.text ++ cs = s'.text ++ cs') : s = s' ∧ cs = cs' := by
  have rest : cs = cs' := by rw [← stands.afterFirst_eq, same, stands'.afterFirst_eq]
  subst rest
  exact ⟨stands.eq_of_text stands' (List.append_cancel_right same), rfl⟩

theorem Segment.text_ne_nil (s : Segment) : s.text ≠ [] := by cases s <;> simp [text]

theorem textOf_eq_nil {ss : List Segment} (empty : textOf ss = []) : ss = [] := by
  cases ss with
  | nil => rfl
  | cons s ss => exact absurd (List.append_eq_nil_iff.mp empty).1 s.text_ne_nil

/-- **A text has its segments in one way only.** -/
theorem Cut.unique {cs : List Char} {ss ss' : List Segment} (cut : Cut cs ss) (cut' : Cut cs ss') : ss = ss' := by
  induction cut generalizing ss' with
  | nil => exact (textOf_eq_nil cut'.text_eq).symm
  | @cons s cs ss stands later ih =>
    generalize given : s.text ++ cs = text at cut'
    cases cut' with
    | nil => exact absurd (List.append_eq_nil_iff.mp given).1 s.text_ne_nil
    | cons stands' later' =>
      obtain ⟨rfl, rfl⟩ := stands.unique stands' given
      rw [ih later']

/-! ### What is dropped -/

theorem closes_slash {cs : List Char} (alone : ∀ d ∈ cs.head?, d ≠ '/' ∧ d ≠ '*') : closes ('/' :: cs) = false := by
  rw [closes.eq_def]
  split
  · next same => cases same
  · next same => cases same
  · next same => exact absurd rfl (alone '/' (by rw [(List.cons.inj same).2]; rfl)).1
  · next same => exact absurd rfl (alone '*' (by rw [(List.cons.inj same).2]; rfl)).2
  · next same =>
    obtain ⟨rfl, _⟩ := List.cons.inj same
    rfl
  · next same => cases same

theorem strip_slash {cs : List Char} (alone : ∀ d ∈ cs.head?, d ≠ '/' ∧ d ≠ '*') :
    strip ('/' :: cs) = '/' :: strip cs := by
  rw [strip]
  · decide
  · exact fun rest _ same => (alone '/' (by rw [same]; rfl)).1 rfl
  · exact fun rest _ same => (alone '*' (by rw [same]; rfl)).2 rfl
  · decide

theorem closesNext_cons (s : Segment) (ss : List Segment) :
    closesNext (s :: ss) =
      if s.isBlank || s.isComment then closesNext ss else s == .other '}' || s == .other ']' := by
  unfold closesNext
  rw [List.find?_cons]
  cases s.isBlank <;> cases s.isComment <;> simp

theorem closesNext_skip {s : Segment} (skipped : (s.isBlank || s.isComment) = true) (ss : List Segment) :
    closesNext (s :: ss) = closesNext ss := by rw [closesNext_cons, if_pos skipped]

/-- **Looking ahead in the text is looking for the next segment that counts.** -/
theorem Cut.closes_eq {cs : List Char} {ss : List Segment} (cut : Cut cs ss) : closes cs = closesNext ss := by
  induction cut with
  | nil => rw [closes_nil]; rfl
  | @cons s cs ss stands _ ih =>
    have quoted : ∀ rest, closes ('"' :: rest) = false := fun rest => by
      rw [closes_other (by decide) (by decide) (by decide)]
      rfl
    cases s with
    | string inside => exact quoted _
    | openString inside => exact quoted _
    | line body =>
      rw [closesNext_skip rfl, ← ih, Segment.text, List.cons_append, List.cons_append, closes_line,
        afterLine_stands stands.1 stands.2]
    | block body =>
      rw [closesNext_skip rfl, ← ih]
      simp [Segment.text, closes_block, afterBlock_append stands]
    | openBlock body =>
      rw [closesNext_skip rfl, ← ih, Segment.text, List.cons_append, List.cons_append, closes_block, stands.2,
        List.append_nil, afterBlock_open stands.1]
    | other c =>
      rw [closesNext_cons]
      by_cases object : c = '}'
      · rw [object]; exact closes_closer .object cs
      by_cases list : c = ']'
      · rw [list]; exact closes_closer .list cs
      by_cases slash : c = '/'
      · subst slash
        exact closes_slash (stands.2 rfl)
      have noBracket : (Segment.other c == .other '}' || Segment.other c == .other ']') = false := by
        simp [object, list]
      rw [Segment.text, List.singleton_append, closes_other object list slash, ih, noBracket]
      simp [Segment.isBlank, Segment.isComment]

theorem kept_cons_dropped {s : Segment} {ss : List Segment} (dropped : isDropped s ss = true) :
    kept (s :: ss) = kept ss := by rw [kept, if_pos dropped]

theorem kept_cons {s : Segment} {ss : List Segment} (stays : isDropped s ss = false) :
    kept (s :: ss) = s :: kept ss := by rw [kept, if_neg (by rw [stays]; exact Bool.false_ne_true)]

/-- **What is left of a text are the segments that are kept.** By induction on the segments, each of which the text is
read by as one. -/
theorem Cut.strip_eq {cs : List Char} {ss : List Segment} (cut : Cut cs ss) : strip cs = textOf (kept ss) := by
  induction cut with
  | nil => simp [strip, kept, textOf]
  | @cons s cs ss stands later ih =>
    cases s with
    | string inside =>
      rw [kept_cons rfl, textOf_cons, ← ih]
      simp [Segment.text, strip_quote, splitString_inside stands]
    | openString inside =>
      rw [kept_cons rfl, textOf_cons, ← ih]
      simp [Segment.text, strip_quote, stands.2, splitString_open stands.1]
    | line body =>
      rw [kept_cons_dropped rfl, ← ih, Segment.text, List.cons_append, List.cons_append, strip_line,
        afterLine_stands stands.1 stands.2]
    | block body =>
      rw [kept_cons_dropped rfl, ← ih]
      simp [Segment.text, strip_block, afterBlock_append stands]
    | openBlock body =>
      rw [kept_cons_dropped rfl, ← ih, Segment.text, List.cons_append, List.cons_append, strip_block, stands.2,
        List.append_nil, afterBlock_open stands.1]
    | other c =>
      rw [Segment.text, List.singleton_append]
      by_cases comma : c = ','
      · subst comma
        rw [strip_comma, later.closes_eq, ih]
        cases closing : closesNext ss with
        | true => rw [if_pos rfl, kept_cons_dropped (by simp [isDropped, closing])]
        | false =>
          rw [if_neg Bool.false_ne_true, kept_cons (by simp [isDropped, Segment.isComment, closing])]
          rfl
      · rw [kept_cons (by simp [isDropped, Segment.isComment, comma]), textOf_cons, ← ih]
        by_cases slash : c = '/'
        · subst slash
          exact strip_slash (stands.2 rfl)
        · exact strip_other stands.1 slash comma cs

/-! ### What is left has the segments that are left -/

/-- Before a closing bracket only blanks are kept. -/
theorem head_kept_of_closesNext {ss : List Segment} (closing : closesNext ss = true) :
    ∀ c ∈ (textOf (kept ss)).head?, Text.isWhiteSpace c = true ∨ c = '}' ∨ c = ']' := by
  induction ss with
  | nil => cases closing
  | cons s ss ih =>
    cases comment : s.isComment with
    | true =>
      rw [kept_cons_dropped (by simp [isDropped, comment])]
      exact ih (by rwa [closesNext_skip (by simp [comment])] at closing)
    | false =>
      -- What is next is a blank or the bracket itself.
      obtain ⟨c, rfl, known⟩ : ∃ c, s = .other c ∧ (Text.isWhiteSpace c = true ∨ c = '}' ∨ c = ']') := by
        rw [closesNext_cons, comment, Bool.or_false] at closing
        split at closing
        · next blank =>
          cases s with
          | other c => exact ⟨c, rfl, .inl blank⟩
          | _ => cases blank
        · rcases Bool.or_eq_true_iff.mp closing with bracket | bracket
          · exact ⟨_, eq_of_beq bracket, .inr (.inl rfl)⟩
          · exact ⟨_, eq_of_beq bracket, .inr (.inr rfl)⟩
      have comma : c ≠ ',' := by
        rintro rfl
        exact absurd known (by decide)
      rw [kept_cons (by simp [isDropped, comment, comma])]
      rintro d first
      cases first
      exact known

/-- What follows a slash alone is no slash or star once segments are dropped. -/
theorem Cut.head_kept {cs : List Char} {ss : List Segment} (cut : Cut cs ss)
    (alone : ∀ d ∈ cs.head?, d ≠ '/' ∧ d ≠ '*') : ∀ d ∈ (textOf (Commented.kept ss)).head?, d ≠ '/' ∧ d ≠ '*' := by
  cases cut with
  | nil => simp [Commented.kept, textOf]
  | @cons s cs ss stands later =>
    cases dropped : isDropped s ss with
    | false =>
      obtain ⟨c, rest, text⟩ := List.exists_cons_of_ne_nil s.text_ne_nil
      rw [kept_cons dropped, textOf_cons, text]
      rw [text] at alone
      exact alone
    | true =>
      rw [kept_cons_dropped dropped]
      rcases Bool.or_eq_true_iff.mp dropped with comment | comma
      · -- A comment begins with a slash.
        cases s with
        | line _ | block _ | openBlock _ => exact absurd rfl (alone '/' rfl).1
        | _ => cases comment
      · intro d first
        have known := head_kept_of_closesNext (Bool.and_eq_true_iff.mp comma).2 d first
        exact ⟨by rintro rfl; exact absurd known (by decide), by rintro rfl; exact absurd known (by decide)⟩

/-- **What is left of a text is cut into the segments that are kept.** -/
theorem Cut.kept {cs : List Char} {ss : List Segment} (cut : Cut cs ss) :
    Cut (textOf (Commented.kept ss)) (Commented.kept ss) := by
  induction cut with
  | nil => exact .nil
  | @cons s cs ss stands later ih =>
    cases dropped : isDropped s ss with
    | true =>
      rw [kept_cons_dropped dropped]
      exact ih
    | false =>
      have nothing : cs = [] → textOf (Commented.kept ss) = [] := by
        rintro rfl
        rw [textOf_eq_nil later.text_eq]
        rfl
      rw [kept_cons dropped]
      refine .cons ?_ ih
      cases s with
      | string inside => exact stands
      | openString inside => exact ⟨stands.1, nothing stands.2⟩
      | line _ | block _ | openBlock _ => cases dropped
      | other c => exact ⟨stands.1, fun slash => later.head_kept (stands.2 slash)⟩

/-- The strings are kept. -/
theorem filter_isString_kept (ss : List Segment) :
    (kept ss).filter Segment.isString = ss.filter Segment.isString := by
  induction ss with
  | nil => rfl
  | cons s ss ih =>
    cases dropped : isDropped s ss with
    | false => rw [kept_cons dropped, List.filter_cons, List.filter_cons, ih]
    | true =>
      have noString : s.isString = false := by
        rcases Bool.or_eq_true_iff.mp dropped with comment | comma
        · cases s <;> first | rfl | cases comment
        · rw [eq_of_beq (Bool.and_eq_true_iff.mp comma).1]
          rfl
      rw [kept_cons_dropped dropped, List.filter_cons_of_neg (by simp [noString]), ih]

/-- **A text without comments and trailing commas is what the segments that are kept say.** Every text has segments,
in one way. Those that are neither comments nor commas before a closing bracket are what is left, and are the segments
of what is left; so the strings of both texts are the same. -/
theorem plain_segments (content : String) :
    ∃ ss, Cut content.toList ss ∧ (∀ ss', Cut content.toList ss' → ss' = ss) ∧
      plain content = String.ofList (textOf (kept ss)) ∧
      Cut (plain content).toList (kept ss) ∧ (∀ ss', Cut (plain content).toList ss' → ss' = kept ss) ∧
      (kept ss).filter Segment.isString = ss.filter Segment.isString := by
  obtain ⟨ss, cut⟩ := exists_cut content.toList
  have left : plain content = String.ofList (textOf (kept ss)) := by rw [plain, cut.strip_eq]
  have again : Cut (plain content).toList (kept ss) := by
    rw [left, String.toList_ofList]
    exact cut.kept
  exact ⟨ss, cut, fun _ cut' => cut'.unique cut, left, again, fun _ cut' => cut'.unique again, filter_isString_kept ss⟩

example : plain "[\"/*,]\", 2, /*,*/ ] /*" = "[\"/*,]\", 2  ] " := by decide +kernel

end Detype.Json.Commented
