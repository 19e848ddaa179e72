import Detype.Proofs.Json.Printed
import Detype.Proofs.Json.Segments

/-
**JSON texts with comments and trailing commas, cut into segments.**

* `IsJson`, `IsCommentedJson` — texts of JSON values, without and with comments and trailing commas.
* `IsCommentedJson.strip` — the second are stripped to the first.
* `joins` — comments stand inside a word or a number; `hasLoneComma` — a comma that is dropped follows an opening
  bracket.
* `Piece.segments` — the segments of the pieces of a text.
* `IsCommentedJson.segments` — in JSON text with comments, neither is there.
-/

namespace Detype.Json

open Reader Commented

/-! ### Texts of JSON -/

/-- JSON text, without comments and trailing commas. -/
def IsJson (cs : List Char) : Prop := ∃ (v : Value) (r : Rendering v), r.Plain ∧ r.text = cs

/-- What can follow the last piece of a text: nothing, or a comment that runs to the end. -/
inductive Ending where
  | nothing
  | line (body : List Char) (oneLine : '\n' ∉ body)
  | block (body : List Char) (unclosed : ¬ ['*', '/'] <:+: body)

namespace Ending

def segments : Ending → List Segment
  | nothing => []
  | line body _ => [.line body]
  | block body _ => [.openBlock body]

def text (e : Ending) : List Char := textOf e.segments

theorem cut (e : Ending) : Cut e.text e.segments := by
  cases e with
  | nothing => exact .nil
  | line body oneLine => exact .cons (s := .line body) ⟨oneLine, by simp⟩ .nil
  | block body unclosed => exact .cons (s := .openBlock body) ⟨unclosed, rfl⟩ .nil

theorem closes_text (e : Ending) : closes e.text = false := by
  rw [e.cut.closes_eq]
  cases e <;> rfl

theorem strip_text (e : Ending) : strip e.text = [] := by
  rw [e.cut.strip_eq]
  cases e <;> rfl

end Ending

/-- A text of tokens with blanks and comments between them, and with commas after the last item of arrays and objects.
A comment may run to the end of the text; `ended` tells whether what comes before the text ends an item. -/
def Spread (ended : Prop) (ts : List (Token (List Part))) (cs : List Char) : Prop :=
  ∃ (ps : List Piece) (e : Ending), ps.filterMap Piece.token? = ts ∧ Piece.Placed ended ps ∧
    ps.flatMap Piece.text ++ e.text = cs

/-- JSON text with comments and trailing commas. -/
def IsCommentedJson (cs : List Char) : Prop := ∃ v : Value, Spread False v.tokens cs

theorem Laid.bare (ps : List Piece) : Laid (ps.filterMap Piece.token?) (ps.flatMap Piece.bare) := by
  induction ps with
  | nil => exact .nil
  | cons p ps ih =>
    rw [List.flatMap_cons]
    cases p with
    | blank c isBlank => exact ih.blanks (List.forall_mem_singleton.mpr isBlank)
    | line body _ => exact ih.blanks (List.forall_mem_singleton.mpr rfl)
    | block body _ => exact ih
    | token t => exact .cons t ih
    | trailing => exact ih

/-- What is left of JSON text with comments is JSON text. -/
theorem IsCommentedJson.strip {cs : List Char} (commented : IsCommentedJson cs) : IsJson (strip cs) := by
  obtain ⟨v, ps, e, tokens, placed, rfl⟩ := commented
  have chain : (ps.filterMap Piece.token?).IsChain Token.Fits := by
    rw [tokens]
    exact (sentence_tokens v).chain
  rw [Piece.strip_pieces placed chain e.closes_text e.strip_text]
  exact ⟨v, Laid.rendering (tokens ▸ Laid.bare ps)⟩

/-! ### Words, numbers and marks -/

/-- A word or a number. -/
def Token.IsScalar {σ : Type} : Token σ → Prop
  | word _ | number _ => True
  | _ => False

/-- A character that opens neither a string nor a comment and is neither a blank nor a mark. -/
structure Bare (c : Char) : Prop where
  quote : c ≠ '"'
  slash : c ≠ '/'
  space : isSpace c = false
  blank : Text.isWhiteSpace c = false
  mark : c ∉ marks

theorem Bare.of_listed {c : Char}
    (listed : c ∈ ['-', '+', '.', 'e', 'E', 'n', 'u', 'l', 't', 'r', 'f', 'a', 's']) : Bare c := by
  simp only [List.mem_cons, List.not_mem_nil, or_false] at listed
  rcases listed with rfl | rfl | rfl | rfl | rfl | rfl | rfl | rfl | rfl | rfl | rfl | rfl | rfl <;>
    exact ⟨by decide, by decide, by decide, by decide, by decide⟩

theorem Bare.of_isDigit {c : Char} (digit : isDigit c = true) : Bare c := by
  have differs : ∀ d, isDigit d = false → c ≠ d := by
    rintro d other rfl
    rw [digit] at other
    cases other
  refine ⟨differs _ (by decide), differs _ (by decide), ?_, ?_, ?_⟩
  · simp [isSpace, differs _ (show isDigit ' ' = false by decide), differs _ (show isDigit '\n' = false by decide),
      differs _ (show isDigit '\t' = false by decide), differs _ (show isDigit '\r' = false by decide)]
  · have range := toNat_of_isDigit digit
    simp only [Text.isWhiteSpace]
    grind
  · intro isMark
    rw [isDigit_of_mark isMark] at digit
    cases digit

/-- The characters of words and numbers. -/
theorem Token.IsScalar.bare {t : Token (List Part)} (scalar : t.IsScalar) : ∀ c ∈ t.text, Bare c := by
  intro c member
  cases t with
  | word w =>
    refine .of_listed ?_
    cases w <;> simp only [text, Word.text, List.mem_cons, List.not_mem_nil, or_false] at member <;>
      rcases member with rfl | rfl | rfl | rfl | rfl <;> decide
  | number n =>
    rcases numeral_chars n c member with digit | mark
    · exact .of_isDigit digit
    · exact .of_listed (by simp only [List.mem_cons, List.not_mem_nil, or_false] at mark ⊢; tauto)
  | _ => exact absurd scalar id

theorem Token.IsScalar.ends {t : Token (List Part)} (scalar : t.IsScalar) : t.Ends := by
  cases t <;> trivial

/-- A token is a word or a number, a string, or a mark. -/
theorem Token.kinds (t : Token (List Part)) :
    t.IsScalar ∨ (∃ parts, t = .string parts) ∨ ∃ c ∈ marks, t.text = [c] := by
  cases t with
  | word | number => exact .inl trivial
  | string parts => exact .inr (.inl ⟨parts, rfl⟩)
  | opening f | closing f => cases f <;> exact .inr (.inr ⟨_, by decide, rfl⟩)
  | comma | colon => exact .inr (.inr ⟨_, by decide, rfl⟩)

theorem eq_of_mark_text {t u : Token (List Part)} {c : Char} (isMark : c ∈ marks) (text : t.text = [c])
    (text' : u.text = [c]) : t = u :=
  Option.some.inj ((markToken?_eq isMark text).symm.trans (markToken?_eq isMark text'))

theorem ne_of_isSpace {c d : Char} (space : isSpace c = true) (other : isSpace d = false) : c ≠ d := by
  rintro rfl
  rw [space] at other
  cases other

theorem ne_of_mark {c d : Char} (isMark : c ∈ marks) (other : d ∉ marks) : c ≠ d := by
  rintro rfl
  exact other isMark

/-! ### Comments in the wrong place, and commas -/

namespace Commented

/-- A character that can stand in a word or a number: neither a blank nor a mark. -/
def Segment.isBare : Segment → Bool
  | other c => !isSpace c && !marks.contains c
  | _ => false

/-- Comments come next, and right after them such a character. -/
def resumes (ss : List Segment) : Bool :=
  ss.head?.any Segment.isComment && (ss.find? (!·.isComment)).any Segment.isBare

/-- Comments stand right between two characters of words or numbers. -/
def joins : List Segment → Bool
  | [] => false
  | s :: ss => (s.isBare && resumes ss) || joins ss

/-- A comma comes next, blanks and comments aside, and after it a closing bracket. -/
def commaNext (ss : List Segment) : Bool :=
  match ss.dropWhile fun s => s.isBlank || s.isComment with
  | .other c :: later => c == ',' && closesNext later
  | _ => false

/-- An opening bracket, a comma and a closing bracket follow each other, blanks and comments aside. -/
def hasLoneComma : List Segment → Bool
  | [] => false
  | s :: ss => ((s == .other '[' || s == .other '{') && commaNext ss) || hasLoneComma ss

theorem other_beq (c d : Char) : (Segment.other c == Segment.other d) = (c == d) := by
  rw [Bool.eq_iff_iff, beq_iff_eq, beq_iff_eq, Segment.other.injEq]

theorem commaNext_cons (s : Segment) (ss : List Segment) :
    commaNext (s :: ss) = if s.isBlank || s.isComment then commaNext ss else s == .other ',' && closesNext ss := by
  unfold commaNext
  rw [List.dropWhile_cons]
  cases skipped : s.isBlank || s.isComment with
  | true => rfl
  | false =>
    cases s with
    | other c => rw [other_beq]; rfl
    | _ => rfl

theorem commaNext_skip {s : Segment} (skipped : (s.isBlank || s.isComment) = true) (ss : List Segment) :
    commaNext (s :: ss) = commaNext ss := by rw [commaNext_cons, if_pos skipped]

theorem commaNext_other {c : Char} (counts : Text.isWhiteSpace c = false) (ss : List Segment) :
    commaNext (.other c :: ss) = (c == ',' && closesNext ss) := by
  rw [commaNext_cons, if_neg (by simp [Segment.isBlank, Segment.isComment, counts]), other_beq]

theorem isBare_of_bare {c : Char} (bare : Bare c) : (Segment.other c).isBare = true := by
  simp [Segment.isBare, bare.space, bare.mark]

theorem not_isBare_of_space {c : Char} (space : isSpace c = true) : (Segment.other c).isBare = false := by
  simp [Segment.isBare, space]

theorem not_isBare_of_mark {c : Char} (mark : c ∈ marks) : (Segment.other c).isBare = false := by
  simp [Segment.isBare, mark]

/-- Characters of one token are not joined by comments, unless one stands behind the last of them. -/
theorem joins_others (xs : List Char) {ss : List Segment}
    (safe : resumes ss = true → ∀ x ∈ xs, (Segment.other x).isBare = false) (apart : joins ss = false) :
    joins (xs.map .other ++ ss) = false := by
  induction xs with
  | nil => exact apart
  | cons x xs ih =>
    have later := ih fun next y member => safe next y (List.mem_cons_of_mem x member)
    rw [List.map_cons, List.cons_append, joins, later, Bool.or_false, Bool.and_eq_false_iff]
    cases xs with
    | nil =>
      cases next : resumes ss with
      | false => exact .inr next
      | true => exact .inl (safe next x List.mem_cons_self)
    | cons y ys => exact .inr rfl

theorem hasLoneComma_others (xs : List Char) {ss : List Segment} (plain : ∀ x ∈ xs, x ≠ '[' ∧ x ≠ '\x7b')
    (none : hasLoneComma ss = false) : hasLoneComma (xs.map .other ++ ss) = false := by
  induction xs with
  | nil => exact none
  | cons x xs ih =>
    obtain ⟨list, object⟩ := plain x List.mem_cons_self
    rw [List.map_cons, List.cons_append, hasLoneComma, ih fun y member => plain y (List.mem_cons_of_mem x member)]
    simp [list, object]

end Commented

/-! ### The segments of pieces -/

namespace Piece

/-- The segments of a piece. -/
def segments : Piece → List Segment
  | blank c _ => [.other c]
  | line body _ => [.line body, .other '\n']
  | block body _ => [.block body]
  | token (.string parts) => [.string (partsText parts)]
  | token t => t.text.map .other
  | trailing => [.other ',']

end Piece

theorem Token.segments_eq {t : Token (List Part)} (other : t.IsScalar ∨ ∃ c ∈ marks, t.text = [c]) :
    (Piece.token t).segments = t.text.map .other := by
  cases t with
  | string parts =>
    rcases other with scalar | ⟨c, _, text⟩
    · exact absurd scalar id
    · simp [Token.text] at text
  | _ => rfl

namespace Commented.Cut

variable {cs : List Char} {ss : List Segment}

theorem others (xs : List Char) (plain : ∀ c ∈ xs, c ≠ '"' ∧ c ≠ '/') (later : Cut cs ss) :
    Cut (xs ++ cs) (xs.map .other ++ ss) := by
  induction xs with
  | nil => exact later
  | cons x xs ih =>
    obtain ⟨quote, slash⟩ := plain x List.mem_cons_self
    exact .other quote (fun same => absurd same slash) (ih fun c member => plain c (List.mem_cons_of_mem x member))

theorem piece (p : Piece) (later : Cut cs ss) : Cut (p.text ++ cs) (p.segments ++ ss) := by
  cases p with
  | blank c isBlank =>
    refine .others [c] (List.forall_mem_singleton.mpr ?_) later
    exact ⟨ne_of_isSpace isBlank rfl, ne_of_isSpace isBlank rfl⟩
  | line body oneLine =>
    have feed : Cut ('\n' :: cs) (.other '\n' :: ss) := .other (by decide) (fun same => absurd same (by decide)) later
    have cut : Cut ((Segment.line body).text ++ '\n' :: cs) (.line body :: .other '\n' :: ss) :=
      .cons ⟨oneLine, by rintro c first; cases first; rfl⟩ feed
    rw [Piece.line_text_append]
    exact cut
  | block body unclosed => exact .cons (s := .block body) unclosed later
  | trailing => exact .others [','] (by simp) later
  | token t =>
    rcases t.kinds with scalar | ⟨parts, rfl⟩ | ⟨c, isMark, text⟩
    · rw [Token.segments_eq (.inl scalar)]
      exact .others t.text (fun c member => ⟨(scalar.bare c member).quote, (scalar.bare c member).slash⟩) later
    · exact .cons (s := .string (partsText parts)) (inside_partsText parts) later
    · rw [Token.segments_eq (.inr ⟨c, isMark, text⟩), Piece.text, text]
      refine .others [c] (List.forall_mem_singleton.mpr ?_) later
      exact ⟨ne_of_mark isMark (by decide), ne_of_mark isMark (by decide)⟩

theorem pieces (ps : List Piece) (e : Ending) :
    Cut (ps.flatMap Piece.text ++ e.text) (ps.flatMap Piece.segments ++ e.segments) := by
  induction ps with
  | nil => exact e.cut
  | cons p ps ih =>
    rw [List.flatMap_cons, List.flatMap_cons, List.append_assoc, List.append_assoc]
    exact ih.piece p

end Commented.Cut

/-! ### Pieces are not joined and their commas follow items -/

theorem find_other {c : Char} (other : (Segment.other c).isBare = false) (ss : List Segment) :
    ((Segment.other c :: ss).find? (!·.isComment)).any Segment.isBare ≠ true := Bool.eq_false_iff.mp other

/-- After the comments, a word or a number comes only if it is the next token. -/
theorem scalar_of_find {ps : List Piece} {e : Ending}
    (found : ((ps.flatMap Piece.segments ++ e.segments).find? (!·.isComment)).any Segment.isBare = true) :
    ∃ t ts, ps.filterMap Piece.token? = t :: ts ∧ t.IsScalar := by
  induction ps with
  | nil => cases e <;> cases found
  | cons p ps ih =>
    rw [List.flatMap_cons, List.append_assoc] at found
    cases p with
    | blank c isBlank => exact absurd found (find_other (not_isBare_of_space isBlank) _)
    | line body _ =>
      have feed : isSpace '\n' = true := rfl
      exact absurd found (find_other (not_isBare_of_space feed) (ps.flatMap Piece.segments ++ e.segments))
    | block body _ => exact ih found
    | trailing => exact absurd found (find_other (not_isBare_of_mark (by decide)) _)
    | token t =>
      rcases t.kinds with scalar | ⟨parts, rfl⟩ | ⟨c, isMark, text⟩
      · exact ⟨t, _, rfl, scalar⟩
      · cases found
      · rw [Token.segments_eq (.inr ⟨c, isMark, text⟩), text] at found
        exact absurd found (find_other (not_isBare_of_mark isMark) _)

theorem not_fits_scalar {t u : Token (List Part)} (scalar : t.IsScalar) (scalar' : u.IsScalar) : ¬ t.Fits u := by
  cases t <;> cases u <;> first | exact id | exact absurd scalar id | exact absurd scalar' id

/-- **No comment stands inside a word or a number**, since no two of them stand beside each other. -/
theorem joins_pieces {ps : List Piece} (chain : (ps.filterMap Piece.token?).IsChain Token.Fits) (e : Ending) :
    joins (ps.flatMap Piece.segments ++ e.segments) = false := by
  induction ps with
  | nil => cases e <;> rfl
  | cons p ps ih =>
    rw [List.flatMap_cons, List.append_assoc]
    cases p with
    | blank c isBlank =>
      exact joins_others [c] (fun _ => List.forall_mem_singleton.mpr (not_isBare_of_space isBlank)) (ih chain)
    | line body _ =>
      exact joins_others ['\n'] (fun _ => List.forall_mem_singleton.mpr (not_isBare_of_space rfl)) (ih chain)
    | block body _ => exact ih chain
    | trailing =>
      exact joins_others [','] (fun _ => List.forall_mem_singleton.mpr (not_isBare_of_mark (by decide))) (ih chain)
    | token t =>
      rcases t.kinds with scalar | ⟨parts, rfl⟩ | ⟨c, isMark, text⟩
      · rw [Token.segments_eq (.inl scalar)]
        refine joins_others t.text (fun resumed => ?_) (ih chain.tail)
        obtain ⟨u, ts, next, scalar'⟩ := scalar_of_find (Bool.and_eq_true_iff.mp resumed).2
        have fits : t.Fits u := (List.isChain_cons.mp chain).1 u (by rw [next]; rfl)
        exact absurd fits (not_fits_scalar scalar scalar')
      · exact ih chain.tail
      · rw [Token.segments_eq (.inr ⟨c, isMark, text⟩), text]
        exact joins_others [c] (fun _ => List.forall_mem_singleton.mpr (not_isBare_of_mark isMark)) (ih chain.tail)

theorem isWhiteSpace_of_isSpace {c : Char} (space : isSpace c = true) : Text.isWhiteSpace c = true := by
  simp only [isSpace, Bool.or_eq_true, beq_iff_eq] at space
  rcases space with ((rfl | rfl) | rfl) | rfl <;> decide

theorem isWhiteSpace_of_mark {c : Char} (isMark : c ∈ marks) : Text.isWhiteSpace c = false := by
  simp only [marks, List.mem_cons, List.not_mem_nil, or_false] at isMark
  rcases isMark with rfl | rfl | rfl | rfl | rfl | rfl <;> decide

theorem closesNext_pieces {ps : List Piece} {e : Ending} :
    closesNext (ps.flatMap Piece.segments ++ e.segments) = true ↔ Piece.closesNext ps := by
  rw [← (Cut.pieces ps e).closes_eq]
  exact Piece.closes_text ps e.closes_text

/-- **A comma before a closing bracket trails the end of an item**, which `ended` tells of what comes before. -/
theorem ended_of_commaNext {ps : List Piece} (chain : (ps.filterMap Piece.token?).IsChain Token.Fits) {ended : Prop}
    (placed : Piece.Placed ended ps) {e : Ending}
    (comma : commaNext (ps.flatMap Piece.segments ++ e.segments) = true) : ended := by
  induction ps with
  | nil => cases e <;> cases comma
  | cons p ps ih =>
    rw [List.flatMap_cons, List.append_assoc] at comma
    cases p with
    | blank c isBlank =>
      exact ih chain placed (by rwa [Piece.segments, List.singleton_append, commaNext_skip (by
        simp [Segment.isBlank, isWhiteSpace_of_isSpace isBlank])] at comma)
    | line body _ => exact ih chain placed comma
    | block body _ => exact ih chain placed comma
    | trailing => exact placed.1
    | token t =>
      exfalso
      rcases t.kinds with scalar | ⟨parts, rfl⟩ | ⟨c, isMark, text⟩
      · obtain ⟨c, later, text, _⟩ := t.text_eq_cons
        have bare := scalar.bare c (by rw [text]; exact List.mem_cons_self)
        rw [Token.segments_eq (.inl scalar), text, List.map_cons, List.cons_append, commaNext_other bare.blank,
          Bool.and_eq_true_iff, beq_iff_eq] at comma
        exact bare.mark (by rw [comma.1]; decide)
      · cases comma
      · rw [Token.segments_eq (.inr ⟨c, isMark, text⟩), text, List.map_singleton, List.singleton_append,
          commaNext_other (isWhiteSpace_of_mark isMark), Bool.and_eq_true_iff, beq_iff_eq] at comma
        obtain ⟨rfl, closing⟩ := comma
        obtain rfl := eq_of_mark_text isMark text (u := .comma) rfl
        obtain ⟨f, ts, next⟩ := Piece.tokens_of_closesNext (closesNext_pieces.mp closing)
        exact (List.isChain_cons.mp chain).1 (.closing f) (by rw [next]; rfl)

/-- **No comma that is dropped follows an opening bracket**, since no item ends with one. -/
theorem hasLoneComma_pieces {ps : List Piece} (chain : (ps.filterMap Piece.token?).IsChain Token.Fits) {ended : Prop}
    (placed : Piece.Placed ended ps) (e : Ending) : hasLoneComma (ps.flatMap Piece.segments ++ e.segments) = false := by
  induction ps generalizing ended with
  | nil => cases e <;> rfl
  | cons p ps ih =>
    rw [List.flatMap_cons, List.append_assoc]
    cases p with
    | blank c isBlank =>
      refine hasLoneComma_others [c] (List.forall_mem_singleton.mpr ?_) (ih chain placed)
      exact ⟨ne_of_isSpace isBlank rfl, ne_of_isSpace isBlank rfl⟩
    | line body _ => exact hasLoneComma_others ['\n'] (by simp) (ih chain placed)
    | block body _ => exact ih chain placed
    | trailing => exact hasLoneComma_others [','] (by simp) (ih chain placed.2.2)
    | token t =>
      have later := ih chain.tail placed
      rcases t.kinds with scalar | ⟨parts, rfl⟩ | ⟨c, isMark, text⟩
      · rw [Token.segments_eq (.inl scalar)]
        refine hasLoneComma_others t.text (fun x member => ?_) later
        have noMark := (scalar.bare x member).mark
        exact ⟨(ne_of_mark (by decide) noMark).symm, (ne_of_mark (by decide) noMark).symm⟩
      · exact later
      · rw [Token.segments_eq (.inr ⟨c, isMark, text⟩), text, List.map_singleton, List.singleton_append, hasLoneComma,
          later, Bool.or_false, Bool.and_eq_false_iff]
        refine or_iff_not_imp_right.mpr fun comma => ?_
        -- A mark after which a comma trails is the end of an item, and no opening bracket.
        have ends := ended_of_commaNext chain.tail placed (Bool.not_eq_false _ ▸ comma)
        have noOpener : ∀ f, c ≠ Token.opener f := by
          rintro f rfl
          obtain rfl := eq_of_mark_text isMark text (u := .opening f) rfl
          exact ends
        have list : c ≠ '[' := noOpener .list
        have object : c ≠ '\x7b' := noOpener .object
        simp [list, object]

/-- **In JSON text with comments, no comment stands inside a word or a number, and no comma that is dropped follows an
opening bracket.** -/
theorem IsCommentedJson.segments {cs : List Char} (commented : IsCommentedJson cs) {ss : List Segment}
    (cut : Cut cs ss) : joins ss = false ∧ hasLoneComma ss = false := by
  obtain ⟨v, ps, e, tokens, placed, rfl⟩ := commented
  have chain : (ps.filterMap Piece.token?).IsChain Token.Fits := by
    rw [tokens]
    exact (sentence_tokens v).chain
  rw [cut.unique (Cut.pieces ps e)]
  exact ⟨joins_pieces chain e, hasLoneComma_pieces chain placed e⟩

end Detype.Json
