import Detype.Json.Commented
import Detype.Proofs.Json.Tokens

/-
**JSON texts with comments and trailing commas.**

A value is written as its tokens with blanks and comments between them and at both ends. After the last item of
an array or object, a comma may stand. The text without comments and trailing commas is what is left of the
others.

* `Piece` — a token, a blank, a comment or a trailing comma.
* `Rendering` — a text of a value; `Rendering.text`, and `Rendering.bare` without comments and trailing commas.
* `Rendering.strip_text` — the second is what `Commented.strip` makes of the first.
-/

namespace Detype.Json

open Reader

/-! ### Pieces of a text -/

/-- A part of a text. -/
inductive Piece where
  | blank (c : Char) (isBlank : isSpace c = true)
  /-- A line comment and the line feed that ends it. -/
  | line (body : List Char) (oneLine : '\n' ∉ body)
  | block (body : List Char) (unclosed : ¬ ['*', '/'] <:+: body)
  | token (t : Token (List Part))
  /-- A comma after the last item of an array or object. -/
  | trailing

namespace Piece

def text : Piece → List Char
  | blank c _ => [c]
  | line body _ => '/' :: '/' :: body ++ ['\n']
  | block body _ => '/' :: '*' :: body ++ ['*', '/']
  | token t => t.text
  | trailing => [',']

/-- What is left of a piece without comments and trailing commas. The line feed after a comment is no part of it. -/
def bare : Piece → List Char
  | blank c _ => [c]
  | line _ _ => ['\n']
  | block _ _ => []
  | token t => t.text
  | trailing => []

def token? : Piece → Option (Token (List Part))
  | token t => some t
  | _ => none

/-- A piece of plain JSON. -/
def Plain : Piece → Prop
  | blank _ _ | token _ => True
  | _ => False

/-- Whether the next thing after blanks and comments is a closing bracket. -/
def closesNext : List Piece → Prop
  | [] => False
  | token (.closing _) :: _ => True
  | token _ :: _ | trailing :: _ => False
  | _ :: ps => closesNext ps

/-- Trailing commas stand between the end of an item, which `ended` tells of what comes before, and a closing
bracket. -/
def Placed : (ended : Prop) → List Piece → Prop
  | _, [] => True
  | ended, trailing :: ps => ended ∧ closesNext ps ∧ Placed False ps
  | _, token t :: ps => Placed t.Ends ps
  | ended, _ :: ps => Placed ended ps

theorem placed_of_plain (ended : Prop) {ps : List Piece} (plain : ∀ p ∈ ps, p.Plain) : Placed ended ps := by
  induction ps generalizing ended with
  | nil => trivial
  | cons p ps ih =>
    obtain ⟨first, later⟩ := List.forall_mem_cons.mp plain
    cases p with
    | blank c _ => exact ih ended later
    | token t => exact ih t.Ends later
    | _ => exact absurd first id

theorem placed_tokens (ended : Prop) (ts : List (Token (List Part))) : Placed ended (ts.map token) := by
  refine placed_of_plain ended fun p member => ?_
  obtain ⟨t, _, rfl⟩ := List.mem_map.mp member
  trivial

end Piece

/-- A text of a value. -/
structure Rendering (v : Value) where
  pieces : List Piece
  /-- A line comment that ends with the text. -/
  lastLine : Option { body : List Char // '\n' ∉ body } := none
  tokens_eq : pieces.filterMap Piece.token? = v.tokens
  placed : Piece.Placed False pieces

/-- The text of a line comment at the end. -/
def lastLineText : Option { body : List Char // '\n' ∉ body } → List Char
  | some body => '/' :: '/' :: body.val
  | none => []

namespace Rendering

variable {v : Value}

def text (r : Rendering v) : List Char := r.pieces.flatMap Piece.text ++ lastLineText r.lastLine

/-- The text without its comments and trailing commas. -/
def bare (r : Rendering v) : List Char := r.pieces.flatMap Piece.bare

/-- A text without comments and trailing commas. -/
structure Plain (r : Rendering v) : Prop where
  pieces : ∀ p ∈ r.pieces, p.Plain
  lastLine : r.lastLine = none

theorem bare_of_plain {r : Rendering v} (plain : r.Plain) : r.bare = r.text := by
  have same : ∀ p ∈ r.pieces, p.bare = p.text := by
    intro p member
    have isPlain := plain.pieces p member
    cases p <;> first | rfl | exact absurd isPlain id
  rw [bare, text, plain.lastLine, lastLineText, List.append_nil]
  exact List.flatMap_congr same

/-- The tokens of a value with nothing between them. -/
def compact (v : Value) : Rendering v where
  pieces := v.tokens.map .token
  tokens_eq := by
    rw [List.filterMap_map]
    exact List.filterMap_some
  placed := Piece.placed_tokens False v.tokens

theorem compact_text (v : Value) : (compact v).text = v.tokens.flatMap Token.text := by
  rw [text, compact, List.flatMap_map, lastLineText, List.append_nil]
  rfl

theorem compact_plain (v : Value) : (compact v).Plain := by
  refine ⟨fun p member => ?_, rfl⟩
  obtain ⟨t, _, rfl⟩ := List.mem_map.mp member
  trivial

end Rendering

/-! ### Stripping pieces -/

namespace Commented

/-- Hexadecimal digits are neither quotes nor backslashes. -/
theorem hexDigits_plain {ds : List Char} {values : List Nat} (valid : ds.mapM hexValue? = some values) :
    ∀ d ∈ ds, d ≠ '"' ∧ d ≠ '\\' := by
  induction ds generalizing values with
  | nil => simp
  | cons d ds ih =>
    rw [List.mapM_cons] at valid
    obtain ⟨n, first, valid⟩ := Option.bind_eq_some_iff.mp valid
    obtain ⟨ns, later, _⟩ := Option.bind_eq_some_iff.mp valid
    intro e member
    rcases List.mem_cons.mp member with rfl | member
    · refine ⟨?_, ?_⟩
      · rintro rfl
        rw [show hexValue? '"' = none by decide] at first
        cases first
      · rintro rfl
        rw [show hexValue? '\\' = none by decide] at first
        cases first
    · exact ih later e member

theorem strip_other {c : Char} (quote : c ≠ '"') (slash : c ≠ '/') (comma : c ≠ ',') (cs : List Char) :
    strip (c :: cs) = c :: strip cs := by
  rw [strip]
  · exact quote
  · exact fun _ first _ => slash first
  · exact fun _ first _ => slash first
  · exact comma

theorem strip_line (cs : List Char) : strip ('/' :: '/' :: cs) = strip (afterLine cs) := by rw [strip]

theorem strip_block (cs : List Char) : strip ('/' :: '*' :: cs) = strip (afterBlock cs) := by rw [strip]

theorem strip_comma (cs : List Char) : strip (',' :: cs) = if closes cs then strip cs else ',' :: strip cs := by
  rw [strip]

theorem strip_quote (cs : List Char) :
    strip ('"' :: cs) = '"' :: (splitString cs).1 ++ strip (splitString cs).2 := by rw [strip]

/-- Characters that open nothing and separate nothing stay. -/
theorem strip_append {first : List Char} (plain : ∀ c ∈ first, c ≠ '"' ∧ c ≠ '/' ∧ c ≠ ',') (cs : List Char) :
    strip (first ++ cs) = first ++ strip cs := by
  induction first with
  | nil => rfl
  | cons c first ih =>
    obtain ⟨quote, slash, comma⟩ := plain c List.mem_cons_self
    rw [List.cons_append, strip_other quote slash comma, ih fun d member => plain d (List.mem_cons_of_mem c member)]
    rfl

theorem afterLine_append {body : List Char} (oneLine : '\n' ∉ body) (cs : List Char) :
    afterLine (body ++ '\n' :: cs) = '\n' :: cs := by
  induction body with
  | nil => simp [afterLine]
  | cons c body ih =>
    rw [List.mem_cons, not_or] at oneLine
    rw [List.cons_append, afterLine, if_neg (Ne.symm oneLine.1), ih oneLine.2]

theorem afterLine_last {body : List Char} (oneLine : '\n' ∉ body) : afterLine body = [] := by
  induction body with
  | nil => rfl
  | cons c body ih =>
    rw [List.mem_cons, not_or] at oneLine
    rw [afterLine, if_neg (Ne.symm oneLine.1), ih oneLine.2]

theorem afterBlock_append {body : List Char} (unclosed : ¬ ['*', '/'] <:+: body) (cs : List Char) :
    afterBlock (body ++ '*' :: '/' :: cs) = cs := by
  induction body with
  | nil => rw [List.nil_append, afterBlock]
  | cons c body ih =>
    have later : ¬ ['*', '/'] <:+: body := fun inside => unclosed (inside.trans (List.suffix_cons c body).isInfix)
    rw [List.cons_append, afterBlock]
    · exact ih later
    · -- A star and a slash at once would close the comment here.
      rintro rest rfl follows
      cases body with
      | nil => simp at follows
      | cons d body =>
        obtain ⟨rfl, _⟩ := List.cons.inj follows
        exact unclosed ⟨[], body, rfl⟩

theorem splitString_escape (c : Char) (cs : List Char) :
    splitString ('\\' :: c :: cs) = ('\\' :: c :: (splitString cs).1, (splitString cs).2) := by rw [splitString]

theorem splitString_char {c : Char} (quote : c ≠ '"') (backslash : c ≠ '\\') (cs : List Char) :
    splitString (c :: cs) = (c :: (splitString cs).1, (splitString cs).2) := by
  rw [splitString]
  · exact quote
  · exact fun first _ => backslash first
  · exact fun _ _ first _ => backslash first

/-- The inside of a string: characters, and backslashes with the character after each. -/
inductive Inside : List Char → Prop
  | nil : Inside []
  | char {c : Char} {cs : List Char} (quote : c ≠ '"') (backslash : c ≠ '\\') (later : Inside cs) : Inside (c :: cs)
  | escape (c : Char) {cs : List Char} (later : Inside cs) : Inside ('\\' :: c :: cs)

/-- The inside of a string and its closing quote are what belongs to it. -/
theorem splitString_inside {inside : List Char} (valid : Inside inside) (cs : List Char) :
    splitString (inside ++ '"' :: cs) = (inside ++ ['"'], cs) := by
  induction valid with
  | nil => rw [List.nil_append, List.nil_append, splitString]
  | char quote backslash _ ih => rw [List.cons_append, splitString_char quote backslash, ih, List.cons_append]
  | escape c _ ih =>
    rw [List.cons_append, List.cons_append, splitString_escape, ih, List.cons_append, List.cons_append]

/-- The parts of a string are the inside of one. -/
theorem inside_partsText (parts : List Part) : Inside (partsText parts) := by
  induction parts with
  | nil => exact .nil
  | cons part parts ih =>
    have split : partsText (part :: parts) = part.text ++ partsText parts := by simp [partsText]
    rw [split]
    cases part with
    | char c plain => exact .char plain.1 plain.2.1 ih
    | short c d known => exact .escape c ih
    | unit ds four values valid =>
      refine .escape 'u' ?_
      have plain := hexDigits_plain valid
      clear split four valid
      induction ds with
      | nil => exact ih
      | cons d ds later =>
        obtain ⟨quote, backslash⟩ := plain d List.mem_cons_self
        exact .char quote backslash (later fun e member => plain e (List.mem_cons_of_mem d member))

theorem splitString_parts (parts : List Part) (cs : List Char) :
    splitString (partsText parts ++ '"' :: cs) = (partsText parts ++ ['"'], cs) :=
  splitString_inside (inside_partsText parts) cs

/-! ### Tokens among other text -/

theorem toNat_of_isDigit {c : Char} (digit : isDigit c = true) : 48 ≤ c.toNat ∧ c.toNat ≤ 57 := by
  simp only [isDigit, Bool.and_eq_true, decide_eq_true_eq, Char.le_def, UInt32.le_iff_toNat_le] at digit
  exact digit

/-- What can stand in a number. -/
theorem numeral_chars (n : Numeral) : ∀ c ∈ n.text, isDigit c = true ∨ c ∈ ['-', '+', '.', 'e', 'E'] := by
  have ending : ∀ c ∈ n.ending, isDigit c = true ∨ c ∈ ['-', '+', '.', 'e', 'E'] := by
    intro c member
    rcases List.mem_append.mp member with inFraction | inExponent
    · cases fraction : n.fraction with
      | none => simp [fraction, fractionText] at inFraction
      | some ds =>
        rw [fraction] at inFraction
        rcases List.mem_cons.mp inFraction with rfl | inDigits
        · exact .inr (by decide)
        · exact .inl (ds.valid c inDigits)
    · cases exponent : n.exponent with
      | none => simp [exponent, exponentText] at inExponent
      | some e =>
        simp only [exponent, exponentText, Exponent.text, List.cons_append, List.mem_cons, List.mem_append,
          Option.mem_toList] at inExponent
        rcases inExponent with rfl | inSign | inDigits
        · rcases e.isLetter with letter | letter <;> exact .inr (by simp [letter])
        · rcases e.isSign c inSign with rfl | rfl <;> exact .inr (by decide)
        · exact .inl (e.digits.valid c inDigits)
  have unsigned : ∀ c ∈ n.unsigned, isDigit c = true ∨ c ∈ ['-', '+', '.', 'e', 'E'] := by
    intro c member
    rcases List.mem_append.mp member with inWhole | inEnding
    · exact .inl (n.whole.valid c inWhole)
    · exact ending c inEnding
  intro c member
  rw [Numeral.text] at member
  split at member
  · rcases List.mem_cons.mp member with rfl | member
    · exact .inr (by decide)
    · exact unsigned c member
  · exact unsigned c member

/-- A character of a number is none of those that mean something to `strip` and `closes`. -/
theorem ne_of_numeral {n : Numeral} {c : Char} (member : c ∈ n.text) {d : Char}
    (other : isDigit d = false ∧ d ∉ ['-', '+', '.', 'e', 'E']) : c ≠ d := by
  rintro rfl
  rcases numeral_chars n c member with digit | mark
  · rw [other.1] at digit
    cases digit
  · exact other.2 mark

theorem numeral_text_ne_nil (n : Numeral) : n.text ≠ [] := by
  have some : n.unsigned ≠ [] := List.append_ne_nil_of_left_ne_nil n.whole.some _
  rw [Numeral.text]
  split
  · exact List.cons_ne_nil _ _
  · exact some

theorem closes_other {c : Char} (object : c ≠ '}') (list : c ≠ ']') (slash : c ≠ '/') (cs : List Char) :
    closes (c :: cs) = if Text.isWhiteSpace c then closes cs else false := by
  rw [closes.eq_def]
  split
  · next same => exact absurd (List.cons.inj same).1 object
  · next same => exact absurd (List.cons.inj same).1 list
  · next same => exact absurd (List.cons.inj same).1 slash
  · next same => exact absurd (List.cons.inj same).1 slash
  · next same =>
    obtain ⟨rfl, rfl⟩ := List.cons.inj same
    rfl
  · next same => cases same

theorem closes_blank {c : Char} (blank : isSpace c = true) (cs : List Char) : closes (c :: cs) = closes cs := by
  simp only [isSpace, Bool.or_eq_true, beq_iff_eq] at blank
  rcases blank with ((rfl | rfl) | rfl) | rfl <;>
    rw [closes_other (by decide) (by decide) (by decide), if_pos (by decide)]

-- The equations of `closes` are taken from its unfolding, which is far quicker to check than all of them at once.
theorem closes_nil : closes [] = false := (closes.eq_def []).trans rfl

theorem closes_block (cs : List Char) : closes ('/' :: '*' :: cs) = closes (afterBlock cs) :=
  (closes.eq_def ('/' :: '*' :: cs)).trans rfl

theorem closes_line (cs : List Char) : closes ('/' :: '/' :: cs) = closes (afterLine cs) :=
  (closes.eq_def ('/' :: '/' :: cs)).trans rfl

theorem closes_closer (f : Frame) (cs : List Char) : closes (Token.closer f :: cs) = true := by
  cases f <;> exact (closes.eq_def _).trans rfl

/-- Of all tokens, only a closing bracket closes. -/
theorem closes_token (t : Token (List Part)) (cs : List Char) :
    closes (t.text ++ cs) = true ↔ ∃ f, t = .closing f := by
  have never : ∀ {c : Char} (rest : List Char), c ≠ '}' → c ≠ ']' → c ≠ '/' → Text.isWhiteSpace c = false →
      closes (c :: rest) = false := by
    intro c rest object list slash blank
    rw [closes_other object list slash, if_neg (by rw [blank]; exact Bool.false_ne_true)]
  cases t with
  | opening f =>
    have open_ : closes (Token.opener f :: cs) = false := by
      cases f <;> exact never cs (by decide) (by decide) (by decide) (by decide)
    simp [Token.text, open_]
  | closing f => simp [Token.text, closes_closer]
  | comma =>
    have comma : closes (',' :: cs) = false := never cs (by decide) (by decide) (by decide) (by decide)
    simp [Token.text, comma]
  | colon =>
    have colon : closes (':' :: cs) = false := never cs (by decide) (by decide) (by decide) (by decide)
    simp [Token.text, colon]
  | word w =>
    have word : closes (w.text ++ cs) = false := by
      cases w <;> exact never _ (by decide) (by decide) (by decide) (by decide)
    simp [Token.text, word]
  | number n =>
    obtain ⟨c, rest, text⟩ := List.exists_cons_of_ne_nil (numeral_text_ne_nil n)
    have member : c ∈ n.text := by rw [text]; exact List.mem_cons_self
    have blank : Text.isWhiteSpace c = false := by
      rcases numeral_chars n c member with digit | mark
      · have range := toNat_of_isDigit digit
        simp only [Text.isWhiteSpace]
        grind
      · simp only [List.mem_cons, List.not_mem_nil, or_false] at mark
        rcases mark with rfl | rfl | rfl | rfl | rfl <;> decide
    have number : closes (n.text ++ cs) = false := by
      rw [text, List.cons_append]
      exact never _ (ne_of_numeral member (by decide)) (ne_of_numeral member (by decide))
        (ne_of_numeral member (by decide)) blank
    simp [Token.text, number]
  | string parts =>
    have string : closes ('"' :: (partsText parts ++ ['"']) ++ cs) = false :=
      never _ (by decide) (by decide) (by decide) (by decide)
    simpa [Token.text] using string

/-- A token stays, unless it is a comma before a closing bracket. -/
theorem strip_token {t : Token (List Part)} {cs : List Char} (kept : t = .comma → closes cs = false) :
    strip (t.text ++ cs) = t.text ++ strip cs := by
  cases t with
  | opening f => cases f <;> exact strip_append (by simp [Token.text, Token.opener]) cs
  | closing f => cases f <;> exact strip_append (by simp [Token.text, Token.closer]) cs
  | comma =>
    have stays : ¬ closes cs = true := by simp [kept rfl]
    exact (strip_comma cs).trans (if_neg stays)
  | colon => exact strip_append (by simp [Token.text]) cs
  | word w => cases w <;> exact strip_append (by simp [Token.text, Word.text]) cs
  | number n =>
    exact strip_append (fun c member => ⟨ne_of_numeral member (by decide), ne_of_numeral member (by decide),
      ne_of_numeral member (by decide)⟩) cs
  | string parts =>
    rw [Token.string_text_append, strip_quote, splitString_parts]
    rfl

end Commented

/-! ### Stripping a text -/

namespace Piece

open Commented

theorem line_text_append {body : List Char} (oneLine : '\n' ∉ body) (cs : List Char) :
    (line body oneLine).text ++ cs = '/' :: '/' :: (body ++ '\n' :: cs) := by simp [text]

theorem block_text_append {body : List Char} (unclosed : ¬ ['*', '/'] <:+: body) (cs : List Char) :
    (block body unclosed).text ++ cs = '/' :: '*' :: (body ++ '*' :: '/' :: cs) := by simp [text]

theorem closes_text (ps : List Piece) {tail : List Char} (nothing : closes tail = false) :
    closes (ps.flatMap text ++ tail) = true ↔ closesNext ps := by
  induction ps with
  | nil => simp [nothing, closesNext]
  | cons p ps ih =>
    rw [List.flatMap_cons, List.append_assoc]
    cases p with
    | blank c isBlank =>
      rw [text, List.singleton_append, closes_blank isBlank]
      exact ih
    | line body oneLine =>
      rw [line_text_append, closes_line, afterLine_append oneLine, closes_blank (by decide)]
      exact ih
    | block body unclosed =>
      rw [block_text_append, closes_block, afterBlock_append unclosed]
      exact ih
    | token t =>
      rw [text, closes_token]
      cases t <;> simp [closesNext]
    | trailing => exact (closes_token .comma _).trans (by simp [closesNext])

/-- A closing bracket that comes next is the next token. -/
theorem tokens_of_closesNext {ps : List Piece} (closed : closesNext ps) :
    ∃ f ts, ps.filterMap token? = .closing f :: ts := by
  induction ps with
  | nil => exact absurd closed id
  | cons p ps ih =>
    cases p with
    | blank _ _ | line _ _ | block _ _ => exact ih closed
    | token t =>
      cases t with
      | closing f => exact ⟨f, _, rfl⟩
      | _ => exact absurd closed id
    | trailing => exact absurd closed id

/-- **What is stripped from pieces are the comments and the trailing commas**, if nothing is left of what follows. By
induction on the pieces; a comma among the tokens has no closing bracket after it, and one that trails has. -/
theorem strip_pieces {ps : List Piece} {ended : Prop} (placed : Placed ended ps)
    (chain : (ps.filterMap token?).IsChain Token.Fits) {tail : List Char} (nothing : closes tail = false)
    (gone : strip tail = []) : strip (ps.flatMap text ++ tail) = ps.flatMap bare := by
  induction ps generalizing ended with
  | nil => exact gone
  | cons p ps ih =>
    rw [List.flatMap_cons, List.flatMap_cons, List.append_assoc]
    cases p with
    | blank c isBlank =>
      have kept : ∀ d ∈ [c], d ≠ '"' ∧ d ≠ '/' ∧ d ≠ ',' := by
        intro d member
        rw [List.mem_singleton.mp member]
        simp only [isSpace, Bool.or_eq_true, beq_iff_eq] at isBlank
        rcases isBlank with ((rfl | rfl) | rfl) | rfl <;> decide
      rw [text, strip_append kept, ih placed chain]
      rfl
    | line body oneLine =>
      rw [line_text_append, strip_line, afterLine_append oneLine,
        strip_other (by decide) (by decide) (by decide), ih placed chain]
      rfl
    | block body unclosed =>
      rw [block_text_append, strip_block, afterBlock_append unclosed, ih placed chain]
      rfl
    | token t =>
      have kept : t = .comma → closes (ps.flatMap text ++ tail) = false := by
        rintro rfl
        refine Bool.eq_false_iff.mpr fun closed => ?_
        obtain ⟨f, ts, next⟩ := tokens_of_closesNext ((closes_text ps nothing).mp closed)
        have tokens : (token .comma :: ps).filterMap token? = .comma :: .closing f :: ts := congrArg _ next
        rw [tokens] at chain
        exact List.IsChain.rel chain
      rw [text, strip_token kept, ih placed chain.tail]
      rfl
    | trailing =>
      obtain ⟨_, closed, placed⟩ := placed
      have dropped := (closes_text ps nothing).mpr closed
      rw [text, List.singleton_append, strip_comma, if_pos dropped, ih placed chain]
      rfl

/-- Nothing is left of a line comment at the end, and it closes nothing. -/
theorem closes_lastLineText (last : Option { body : List Char // '\n' ∉ body }) :
    closes (lastLineText last) = false ∧ strip (lastLineText last) = [] := by
  cases last with
  | none => exact ⟨closes_nil, by rw [lastLineText, strip]⟩
  | some body =>
    rw [lastLineText, closes_line, strip_line, afterLine_last body.property]
    exact ⟨closes_nil, by rw [strip]⟩

end Piece

/-- **Stripping a text deletes its comments and its trailing commas and nothing else.** -/
theorem Rendering.strip_text {v : Value} (r : Rendering v) : Commented.strip r.text = r.bare := by
  have chain : (r.pieces.filterMap Piece.token?).IsChain Token.Fits := by
    rw [r.tokens_eq]
    exact (sentence_tokens v).chain
  obtain ⟨nothing, gone⟩ := Piece.closes_lastLineText r.lastLine
  exact Piece.strip_pieces r.placed chain nothing gone

end Detype.Json
