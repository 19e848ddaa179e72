import Detype.Proofs.Json.CommentedText

/-
**Texts that are JSON once they are stripped.**

Stripping makes JSON of JSON with comments, and of two other kinds of text: of those in which a comment stands inside
a word or a number, whose parts are joined when it is dropped, and of those in which a comma follows an opening bracket
and stands before the closing one.

* `Spread.blank`, `Spread.token` and so on — a text of tokens with comments, from its end to its beginning.
* `heads` — how a segment that stays begins what is left.
* `spread_of_laid` — the tokens of what is left are those of the text, unless it is of one of the two kinds.
* `isCommentedJson_iff` — the whole statement.
-/

namespace Detype.Json

open Reader Commented

/-! ### What is left of a text -/

/-- What is not dropped and begins with another character than a quote is that character. -/
theorem eq_other_of_text {s : Segment} {cs later : List Char} {c : Char} (noComment : s.isComment = false)
    (text : s.text ++ cs = c :: later) (quote : c ≠ '"') : s = .other c ∧ cs = later := by
  cases s with
  | string inside | openString inside => exact absurd (List.cons.inj text).1.symm quote
  | line _ | block _ | openBlock _ => cases noComment
  | other d =>
    obtain ⟨rfl, rfl⟩ := List.cons.inj text
    exact ⟨rfl, rfl⟩

theorem isComment_of_stays {s : Segment} {ss : List Segment} (stays : isDropped s ss = false) : s.isComment = false :=
  (Bool.or_eq_false_iff.mp stays).1

/-- If a character of a word or a number comes first in what is left, then only comments come before it. -/
theorem find_of_kept {ss : List Segment} {c : Char} {later : List Char} (bare : Bare c)
    (text : textOf (kept ss) = c :: later) : (ss.find? (!·.isComment)).any Segment.isBare = true := by
  induction ss with
  | nil => cases text
  | cons s ss ih =>
    cases comment : s.isComment with
    | true =>
      rw [kept_cons_dropped (by simp [isDropped, comment])] at text
      rw [List.find?_cons_of_neg (by simp [comment])]
      exact ih text
    | false =>
      rw [List.find?_cons_of_pos (by simp [comment])]
      cases dropped : isDropped s ss with
      | false =>
        rw [kept_cons dropped, textOf_cons] at text
        obtain ⟨rfl, _⟩ := eq_other_of_text comment text bare.quote
        exact isBare_of_bare bare
      | true =>
        -- After a comma that is dropped, a blank or a bracket comes first.
        rw [isDropped, comment, Bool.false_or, Bool.and_eq_true_iff] at dropped
        rw [kept_cons_dropped (by simp [isDropped, comment, dropped])] at text
        rcases head_kept_of_closesNext dropped.2 c (by rw [text]; rfl) with blank | rfl | rfl
        · rw [bare.blank] at blank
          cases blank
        · exact absurd (by decide) bare.mark
        · exact absurd (by decide) bare.mark

/-- If a character of a word or a number comes first in what is left, and no comment before it, then it comes first. -/
theorem stays_of_bare {s : Segment} {ss : List Segment} {c : Char} {later : List Char} (bare : Bare c)
    (text : textOf (kept (s :: ss)) = c :: later) (apart : resumes (s :: ss) = false) :
    s = .other c ∧ textOf (kept ss) = later := by
  have found := find_of_kept bare text
  have noComment : s.isComment = false := by
    rw [resumes, found, Bool.and_true] at apart
    exact apart
  rw [List.find?_cons_of_pos (by simp [noComment])] at found
  obtain ⟨d, rfl⟩ : ∃ d, s = .other d := by
    cases s with
    | other d => exact ⟨d, rfl⟩
    | _ => cases found
  have comma : d ≠ ',' := by
    rintro rfl
    exact absurd found (by decide)
  rw [kept_cons (by simp [isDropped, noComment, comma]), textOf_cons] at text
  exact eq_other_of_text noComment text bare.quote

/-- A closing bracket that is next stays next when segments are dropped. -/
theorem closesNext_kept {ss : List Segment} (closing : closesNext ss = true) : closesNext (kept ss) = true := by
  induction ss with
  | nil => cases closing
  | cons s ss ih =>
    cases comment : s.isComment with
    | true =>
      rw [kept_cons_dropped (by simp [isDropped, comment])]
      exact ih (by rwa [closesNext_skip (by simp [comment])] at closing)
    | false =>
      have stays : isDropped s ss = false := by
        rw [isDropped, comment, Bool.false_or]
        refine Bool.and_eq_false_iff.mpr (.inl (beq_eq_false_iff_ne.mpr ?_))
        rintro rfl
        rw [closesNext_cons] at closing
        cases closing
      rw [kept_cons stays, closesNext_cons]
      rw [closesNext_cons] at closing
      split at closing
      · next skipped => rw [if_pos skipped]; exact ih closing
      · next counts => rw [if_neg counts]; exact closing

/-- Where a comma is next that is dropped, a closing bracket is next once it is. -/
theorem closesNext_kept_of_commaNext {ss : List Segment} (comma : commaNext ss = true) :
    closesNext (kept ss) = true := by
  induction ss with
  | nil => cases comma
  | cons s ss ih =>
    rw [commaNext_cons] at comma
    split at comma
    · next skipped =>
      cases dropped : isDropped s ss with
      | true =>
        rw [kept_cons_dropped dropped]
        exact ih comma
      | false =>
        rw [kept_cons dropped, closesNext_skip skipped]
        exact ih comma
    · next counts =>
      rw [kept_cons_dropped (by simp [isDropped, comma])]
      exact closesNext_kept (Bool.and_eq_true_iff.mp comma).2

/-- So the next token of what is left is a closing bracket. -/
theorem closing_of_commaNext {cs : List Char} {ss : List Segment} (cut : Cut cs ss) {ts : List (Token (List Part))}
    (laid : Laid ts (textOf (kept ss))) (comma : commaNext ss = true) : ∃ f us, ts = .closing f :: us := by
  have closing := cut.kept.closes_eq.trans (closesNext_kept_of_commaNext comma)
  obtain ⟨ps, _, rfl, text⟩ := laid
  rw [← text, ← List.append_nil (ps.flatMap Piece.text)] at closing
  exact Piece.tokens_of_closesNext ((Piece.closes_text ps closes_nil).mp closing)

/-- What comes next is a closing bracket or such a comma, but not both. -/
theorem commaNext_of_closesNext {ss : List Segment} (closing : closesNext ss = true) : commaNext ss = false := by
  induction ss with
  | nil => rfl
  | cons s ss ih =>
    rw [closesNext_cons] at closing
    rw [commaNext_cons]
    split at closing
    · next skipped => rw [if_pos skipped]; exact ih closing
    · next counts =>
      rw [if_neg counts]
      rcases Bool.or_eq_true_iff.mp closing with bracket | bracket <;> rw [eq_of_beq bracket] <;> rfl

theorem Piece.text_ne_nil (p : Piece) : p.text ≠ [] := by
  cases p with
  | token t =>
    obtain ⟨c, later, text, _⟩ := t.text_eq_cons
    rw [Piece.text, text]
    exact List.cons_ne_nil _ _
  | _ => exact List.cons_ne_nil _ _

theorem Laid.eq_nil {ts : List (Token (List Part))} (laid : Laid ts []) : ts = [] := by
  obtain ⟨ps, _, rfl, text⟩ := laid
  cases ps with
  | nil => rfl
  | cons p ps => exact absurd (List.append_eq_nil_iff.mp text).1 p.text_ne_nil

theorem Commented.Cut.stands_of_cons {s : Segment} {ss : List Segment} {cs : List Char} (cut : Cut cs (s :: ss)) :
    s.Stands (textOf ss) := by
  cases cut with
  | cons stands later => rwa [later.text_eq]

/-- What a segment is that begins a text of tokens, and what follows it. -/
inductive Heads (s : Segment) (rest : List Char) : List (Token (List Part)) → Prop
  | blank {ts : List (Token (List Part))} (c : Char) (isBlank : isSpace c = true) (same : s = .other c)
      (later : Laid ts rest) : Heads s rest ts
  | string {ts : List (Token (List Part))} (parts : List Part) (same : s = .string (partsText parts))
      (later : Laid ts rest) : Heads s rest (.string parts :: ts)
  | scalar {t : Token (List Part)} {ts : List (Token (List Part))} (isScalar : t.IsScalar) (c : Char)
      (more left : List Char) (text : t.text = c :: more) (same : s = .other c) (shape : rest = more ++ left)
      (later : Laid ts left) : Heads s rest (t :: ts)
  | mark {t : Token (List Part)} {ts : List (Token (List Part))} (c : Char) (isMark : c ∈ marks) (text : t.text = [c])
      (same : s = .other c) (later : Laid ts rest) : Heads s rest (t :: ts)

/-- **A segment that begins a text of tokens** is a blank, a string, a mark, or the first character of a word or a
number. -/
theorem heads {s : Segment} {rest : List Char} (stands : s.Stands rest) (noComment : s.isComment = false)
    {ts : List (Token (List Part))} (laid : Laid ts (s.text ++ rest)) : Heads s rest ts := by
  obtain ⟨qs, plain, rfl, text⟩ := laid
  cases qs with
  | nil => exact absurd (List.append_eq_nil_iff.mp text.symm).1 s.text_ne_nil
  | cons q qs =>
    obtain ⟨isPlain, plain⟩ := List.forall_mem_cons.mp plain
    have later : Laid (qs.filterMap Piece.token?) (qs.flatMap Piece.text) := ⟨qs, plain, rfl, rfl⟩
    rw [List.flatMap_cons] at text
    cases q with
    | line _ _ | block _ _ | trailing => exact absurd isPlain id
    | blank c isBlank =>
      obtain ⟨same, rfl⟩ := eq_other_of_text noComment text.symm (ne_of_isSpace isBlank rfl)
      exact .blank c isBlank same later
    | token t =>
      rcases t.kinds with isScalar | ⟨parts, rfl⟩ | ⟨c, isMark, shape⟩
      · obtain ⟨c, more, shape, _⟩ := t.text_eq_cons
        have bare := isScalar.bare c (by rw [shape]; exact List.mem_cons_self)
        rw [Piece.text, shape] at text
        obtain ⟨same, rest⟩ := eq_other_of_text noComment text.symm bare.quote
        exact .scalar isScalar c more _ shape same rest later
      · have quoted : (Segment.string (partsText parts)).Stands (qs.flatMap Piece.text) := inside_partsText parts
        obtain ⟨same, rfl⟩ := stands.unique quoted text.symm
        exact .string parts same later
      · rw [Piece.text, shape] at text
        obtain ⟨same, rfl⟩ := eq_other_of_text noComment text.symm (ne_of_mark isMark (by decide))
        exact .mark c isMark shape same later

/-! ### Texts of tokens with comments -/

namespace Spread

variable {ended : Prop} {ts : List (Token (List Part))} {cs : List Char}

theorem nil : Spread ended [] [] := ⟨[], .nothing, rfl, trivial, rfl⟩

theorem blank {c : Char} (isBlank : isSpace c = true) (later : Spread ended ts cs) : Spread ended ts (c :: cs) := by
  obtain ⟨ps, e, tokens, placed, rfl⟩ := later
  exact ⟨.blank c isBlank :: ps, e, tokens, placed, rfl⟩

theorem token {t : Token (List Part)} (later : Spread t.Ends ts cs) : Spread ended (t :: ts) (t.text ++ cs) := by
  obtain ⟨ps, e, tokens, placed, rfl⟩ := later
  refine ⟨.token t :: ps, e, congrArg (t :: ·) tokens, placed, ?_⟩
  rw [List.flatMap_cons, List.append_assoc]
  rfl

/-- A comma trails the end of an item and stands before a closing bracket. -/
theorem trailing (holds : ended) (closing : closes cs = true) (later : Spread False ts cs) :
    Spread ended ts (',' :: cs) := by
  obtain ⟨ps, e, tokens, placed, rfl⟩ := later
  exact ⟨.trailing :: ps, e, tokens, ⟨holds, (Piece.closes_text ps e.closes_text).mp closing, placed⟩, rfl⟩

theorem block {body : List Char} (stands : (Segment.block body).Stands cs) (later : Spread ended ts cs) :
    Spread ended ts ((Segment.block body).text ++ cs) := by
  obtain ⟨ps, e, tokens, placed, rfl⟩ := later
  refine ⟨.block body stands :: ps, e, tokens, placed, ?_⟩
  rw [List.flatMap_cons, List.append_assoc]
  rfl

theorem openBlock {body : List Char} (unclosed : ¬ ['*', '/'] <:+: body) :
    Spread ended [] (Segment.openBlock body).text :=
  ⟨[], .block body unclosed, rfl, trivial, by simp [Ending.text, Ending.segments, textOf]⟩

/-- What follows a line comment is its line feed, or nothing. -/
theorem line {body : List Char} (stands : (Segment.line body).Stands cs) (later : Spread ended ts cs) :
    Spread ended ts ((Segment.line body).text ++ cs) := by
  obtain ⟨oneLine, stop⟩ := stands
  obtain ⟨ps, e, tokens, placed, rfl⟩ := later
  cases ps with
  | nil =>
    cases e with
    | nothing => exact ⟨[], .line body oneLine, tokens, placed, by simp [Ending.text, Ending.segments, textOf]⟩
    | line _ _ | block _ _ => exact absurd (stop '/' rfl) (by decide)
  | cons p ps =>
    obtain ⟨c, more, text⟩ := List.exists_cons_of_ne_nil p.text_ne_nil
    have feed : c = '\n' := stop c (by rw [List.flatMap_cons, text]; rfl)
    cases p with
    | blank d isBlank =>
      cases text
      subst feed
      exact ⟨.line body oneLine :: ps, e, tokens, placed, by simp [Segment.text, Piece.text]⟩
    | line _ _ | block _ _ | trailing =>
      cases text
      cases feed
    | token t =>
      obtain ⟨d, rest, shape, notBlank⟩ := t.text_eq_cons
      rw [Piece.text, shape] at text
      cases text
      rw [feed] at notBlank
      cases notBlank

end Spread

/-! ### The tokens of a text are those of what is left -/

/-- A mark after which a comma trails ends an item, if it is no opening bracket. -/
theorem Token.ends_of_closing {t : Token (List Part)} {c : Char} (text : t.text = [c]) (list : c ≠ '[')
    (object : c ≠ '\x7b') {f : Frame} (fits : t.Fits (.closing f)) : t.Ends := by
  cases t with
  | opening g =>
    obtain rfl := (List.cons.inj text).1
    cases g
    · exact list rfl
    · exact object rfl
  | comma | colon => exact fits
  | closing _ | word _ | number _ | string _ => trivial

/-- What comes after a mark, if no comma that is dropped follows an opening bracket. -/
theorem ends_of_commaNext {cs : List Char} {ss : List Segment} (cut : Cut cs ss) {t : Token (List Part)}
    {ts : List (Token (List Part))} {c : Char} (text : t.text = [c]) (laid : Laid ts (textOf (kept ss)))
    (chain : (t :: ts).IsChain Token.Fits) (noLone : hasLoneComma (.other c :: ss) = false)
    (comma : commaNext ss = true) : t.Ends := by
  obtain ⟨noOpener, _⟩ := Bool.or_eq_false_iff.mp noLone
  rw [comma, Bool.and_true, Bool.or_eq_false_iff, other_beq, other_beq] at noOpener
  obtain ⟨f, us, rfl⟩ := closing_of_commaNext cut laid comma
  exact Token.ends_of_closing text (beq_eq_false_iff_ne.mp noOpener.1) (beq_eq_false_iff_ne.mp noOpener.2)
    (List.IsChain.rel chain)

/-- A segment that is dropped is a comment, or a comma that trails. -/
theorem spread_of_dropped {s : Segment} {cs : List Char} {ss : List Segment} (stands : s.Stands cs) (later : Cut cs ss)
    (dropped : isDropped s ss = true) {ts : List (Token (List Part))} (laid : Laid ts (textOf (kept ss))) {ended : Prop}
    (trails : commaNext (s :: ss) = true → ended)
    (goOn : ∀ {ended : Prop}, (commaNext ss = true → ended) → Spread ended ts cs) : Spread ended ts (s.text ++ cs) := by
  rcases Bool.or_eq_true_iff.mp dropped with comment | comma
  · rw [commaNext_skip (by simp [comment])] at trails
    cases s with
    | line body => exact (goOn trails).line stands
    | block body => exact (goOn trails).block stands
    | openBlock body =>
      obtain ⟨unclosed, rfl⟩ := stands
      rw [textOf_eq_nil later.text_eq] at laid
      rw [laid.eq_nil, List.append_nil]
      exact .openBlock unclosed
    | string _ | openString _ | other _ => cases comment
  · obtain ⟨same, closing⟩ := Bool.and_eq_true_iff.mp comma
    obtain rfl := eq_of_beq same
    have holds : ended := trails (by rw [commaNext_other (by decide), closing]; rfl)
    have noComma : commaNext ss = true → False := by
      rw [commaNext_of_closesNext closing]
      exact Bool.false_ne_true
    exact (goOn noComma).trailing holds (later.closes_eq.trans closing)

/-- **The tokens of a text are those of what is left of it**, if no comment stands inside a word or a number and no
comma that is dropped follows an opening bracket. By induction on the segments; `more` is what is left of the word or
number that was begun, and `ended` tells whether what comes before ends an item. -/
theorem spread_of_laid {cs : List Char} {ss : List Segment} (cut : Cut cs ss) {more left : List Char}
    {ts : List (Token (List Part))} {ended : Prop} (text : textOf (kept ss) = more ++ left) (laid : Laid ts left)
    (chain : ts.IsChain Token.Fits) (bare : ∀ c ∈ more, Bare c) (begun : more ≠ [] → ended ∧ resumes ss = false)
    (trails : commaNext ss = true → ended) (apart : joins ss = false) (noLone : hasLoneComma ss = false) :
    ∃ rest, cs = more ++ rest ∧ Spread ended ts rest := by
  induction cut generalizing more left ts ended with
  | nil =>
    obtain ⟨rfl, rfl⟩ := List.append_eq_nil_iff.mp text.symm
    rw [laid.eq_nil]
    exact ⟨[], rfl, .nil⟩
  | @cons s cs ss stands later ih =>
    obtain ⟨stop, apartLater⟩ := Bool.or_eq_false_iff.mp apart
    have noneLater := (Bool.or_eq_false_iff.mp noLone).2
    cases more with
    | cons m more =>
      -- The word or number goes on.
      obtain ⟨holds, next⟩ := begun (List.cons_ne_nil m more)
      obtain ⟨isBare, bare⟩ := List.forall_mem_cons.mp bare
      obtain ⟨rfl, later⟩ := stays_of_bare isBare text next
      rw [isBare_of_bare isBare, Bool.true_and] at stop
      obtain ⟨rest, rfl, spread⟩ := ih later laid chain bare (fun _ => ⟨holds, stop⟩) (fun _ => holds) apartLater
        noneLater
      exact ⟨rest, rfl, spread⟩
    | nil =>
      subst text
      refine ⟨s.text ++ cs, rfl, ?_⟩
      have goOn : ∀ {us : List (Token (List Part))} {ended : Prop}, Laid us (textOf (kept ss)) →
          us.IsChain Token.Fits → (commaNext ss = true → ended) → Spread ended us cs := by
        intro us ended laid chain trails
        obtain ⟨_, rfl, spread⟩ := ih (List.nil_append _).symm laid chain (by simp) (fun some => absurd rfl some) trails
          apartLater noneLater
        exact spread
      cases dropped : isDropped s ss with
      | true =>
        rw [kept_cons_dropped dropped] at laid
        exact spread_of_dropped stands later dropped laid trails fun trails => goOn laid chain trails
      | false =>
        have again := (Cut.cons stands later).kept
        rw [kept_cons dropped] at laid again
        cases heads again.stands_of_cons (isComment_of_stays dropped) laid with
        | blank c isBlank same laidLater =>
          subst same
          rw [commaNext_skip (by simp [Segment.isBlank, isWhiteSpace_of_isSpace isBlank])] at trails
          exact (goOn laidLater chain trails).blank isBlank
        | @string us parts same laidLater =>
          subst same
          exact (goOn laidLater chain.tail fun _ => trivial).token (t := .string parts)
        | @scalar t us isScalar c more left text same shape laidLater =>
          subst same
          obtain ⟨isBare, bare⟩ := List.forall_mem_cons.mp (text ▸ isScalar.bare)
          rw [isBare_of_bare isBare, Bool.true_and] at stop
          obtain ⟨rest, rfl, spread⟩ := ih shape laidLater chain.tail bare (fun _ => ⟨isScalar.ends, stop⟩)
            (fun _ => isScalar.ends) apartLater noneLater
          have whole : Spread ended (t :: us) (t.text ++ rest) := spread.token
          rwa [text] at whole
        | @mark t us c isMark text same laidLater =>
          subst same
          have ends := ends_of_commaNext later text laidLater chain noLone
          have whole : Spread ended (t :: us) (t.text ++ cs) := (goOn laidLater chain.tail ends).token
          rwa [text] at whole

/-! ### Texts that are JSON once they are stripped -/

/-- Text that is JSON once it is stripped is JSON with comments, if no comment stands inside a word or a number and no
comma that is dropped follows an opening bracket. -/
theorem IsJson.commented {cs : List Char} {ss : List Segment} (cut : Cut cs ss) (json : IsJson (strip cs))
    (apart : joins ss = false) (noLone : hasLoneComma ss = false) : IsCommentedJson cs := by
  obtain ⟨v, r, plain, text⟩ := json
  have laid : Laid v.tokens (textOf (kept ss)) := by
    rw [← cut.strip_eq, ← text]
    exact plain.laid
  have sentence := sentence_tokens v
  -- A comma at the beginning would stand before a closing bracket, with which no value begins.
  have noComma : commaNext ss = true → False := by
    intro comma
    obtain ⟨f, ts, first⟩ := closing_of_commaNext cut laid comma
    exact sentence.begins (.closing f) (by rw [first]; rfl)
  obtain ⟨_, rfl, spread⟩ := spread_of_laid cut (List.nil_append _).symm laid sentence.chain (by simp)
    (fun some => absurd rfl some) noComma apart noLone
  exact ⟨v, spread⟩

/-- **A text is JSON with comments and trailing commas if it is JSON once they are dropped**, no comment stands inside
a word or a number, and no comma that is dropped follows an opening bracket; and only then. -/
theorem isCommentedJson_iff (content : String) :
    ∃ ss, Cut content.toList ss ∧
      (IsCommentedJson content.toList ↔
        IsJson (plain content).toList ∧ joins ss = false ∧ hasLoneComma ss = false) := by
  obtain ⟨ss, cut⟩ := exists_cut content.toList
  refine ⟨ss, cut, ?_⟩
  rw [plain, String.toList_ofList]
  constructor
  · intro commented
    exact ⟨commented.strip, commented.segments cut⟩
  · rintro ⟨json, apart, noLone⟩
    exact json.commented cut apart noLone

/-- Other texts are JSON once they are stripped: a comma alone between brackets is dropped, and so is a comment inside
a number. -/
theorem stripped_to_json :
    (IsJson (plain "\x7b,\x7d").toList ∧ ¬ IsCommentedJson "\x7b,\x7d".toList) ∧
      IsJson (plain "1/**/2").toList ∧ ¬ IsCommentedJson "1/**/2".toList := by
  have object : Cut "\x7b,\x7d".toList [.other '\x7b', .other ',', .other '\x7d'] :=
    .other (by decide) (by decide) (.other (by decide) (by decide) (.other (by decide) (by decide) .nil))
  have number : Cut "1/**/2".toList [.other '1', .block [], .other '2'] :=
    .other (by decide) (by decide) (.cons (s := .block []) (by simp [Segment.Stands])
      (.other (by decide) (by decide) .nil))
  refine ⟨⟨?_, fun commented => ?_⟩, ?_, fun commented => ?_⟩
  · rw [plain, String.toList_ofList, object.strip_eq]
    exact ⟨.object [], .compact _, Rendering.compact_plain _, (Rendering.compact_text _).trans rfl⟩
  · exact absurd (commented.segments object).2 (by decide)
  · rw [plain, String.toList_ofList, number.strip_eq]
    exact ⟨.number (wholeNumeral false 12), .compact _, Rendering.compact_plain _, (Rendering.compact_text _).trans rfl⟩
  · exact absurd (commented.segments number).1 (by decide)

end Detype.Json
