import Detype.Proofs.Json.Alignment
import Detype.Proofs.Json.Rendering
import Mathlib.Data.List.TakeWhile

/-
**What JSON text says.**

* `Value.data?` — what a JSON value says once its scalars are read.
* `Tells` — a text says a value; `not_tells_empty` — the empty text says none.
* `Rendering.spaced_bare` — a text without comments and trailing commas is its tokens with blanks around them.
* `feed` — reading tokens onto a stack; `feed_tokens` — the tokens of a value leave what it says.
* `feed_eq_of_text` — one text is one token; `Tells.unique` — a text says one value at most.
-/

namespace Detype.Json

open Reader

/-! ### What a JSON value says -/

def Word.data : Word → Json
  | .null => .null
  | .true => .bool .true
  | .false => .bool .false

/-- What a number says: a whole number, or a decimal as it is written. -/
def Numeral.data (n : Numeral) : Json :=
  if n.ending = [] then
    let size : Int := Nat.ofDigitChars 10 n.whole.chars 0
    .int (if n.negative then -size else size)
  else .float (String.ofList n.text)

/-- The text of a string, unless it has half of a pair of surrogates. -/
def textOf? (parts : List Part) : Option String := (decode parts).toOption.map String.ofList

mutual

/-- What a JSON value says. -/
def Value.data? : Value → Option Json
  | .word w => some w.data
  | .number n => some n.data
  | .string parts => (textOf? parts).map .str
  | .array items => (itemsData? items).map .arr
  | .object entries => (entriesData? entries).map .obj

def itemsData? : List Value → Option (List Json)
  | [] => some []
  | v :: vs => return (← v.data?) :: (← itemsData? vs)

def entriesData? : List (List Part × Value) → Option (List (String × Json))
  | [] => some []
  | (key, v) :: es => return (← textOf? key, ← v.data?) :: (← entriesData? es)

end

/-- A text says a value: it is JSON text, without comments and trailing commas, of a value that says it. -/
def Tells (text : String) (j : Json) : Prop :=
  ∃ (v : Value) (r : Rendering v), r.Plain ∧ r.text = text.toList ∧ v.data? = some j

/-! ### Texts and their tokens -/

theorem endsNumber_of_blank {c : Char} (blank : isSpace c = true) :
    isDigit c = false ∧ c ≠ '.' ∧ c ≠ 'e' ∧ c ≠ 'E' := by
  simp only [isSpace, Bool.or_eq_true, beq_iff_eq] at blank
  rcases blank with ((rfl | rfl) | rfl) | rfl <;> decide

namespace Spaced

variable {cs : List Char} {ts : List (Token (List Part))}

theorem blank {c : Char} (isBlank : isSpace c = true) (spaced : Spaced cs ts) : Spaced (c :: cs) ts := by
  have more : ∀ {blanks : List Char}, (∀ d ∈ blanks, isSpace d = true) → ∀ d ∈ c :: blanks, isSpace d = true :=
    fun all => List.forall_mem_cons.mpr ⟨isBlank, all⟩
  cases spaced with
  | done all => exact .done (more all)
  | token all apart later => exact .token (more all) apart later

/-- What fits beside a token does not continue it. -/
theorem apart {t : Token (List Part)} (spaced : Spaced cs ts) (fits : ∀ u ∈ ts.head?, t.Fits u) : t.Apart cs := by
  cases t with
  | number n =>
    intro c first
    cases spaced with
    | done all => exact endsNumber_of_blank (all c (List.mem_of_mem_head? first))
    | @token blanks rest u us all _ _ =>
      cases blanks with
      | cons d blanks =>
        cases first
        exact endsNumber_of_blank (all _ List.mem_cons_self)
      | nil =>
        have next := fits u rfl
        cases u with
        | comma =>
          cases first
          decide
        | closing f => cases f <;> cases first <;> decide
        | _ => exact absurd next id
  | _ => trivial

end Spaced

/-- Without comments and trailing commas, pieces are their tokens with blanks around them. -/
theorem Piece.spaced_bare {ps : List Piece} (chain : (ps.filterMap token?).IsChain Token.Fits) :
    Spaced (ps.flatMap bare) (ps.filterMap token?) := by
  induction ps with
  | nil => exact .done (by simp)
  | cons p ps ih =>
    cases p with
    | blank c isBlank => exact (ih chain).blank isBlank
    | line body oneLine => exact (ih chain).blank (by decide)
    | block body unclosed => exact ih chain
    | trailing => exact ih chain
    | token t =>
      have later := ih chain.tail
      have fits : ∀ u ∈ (ps.filterMap token?).head?, t.Fits u := (List.isChain_cons.mp chain).1
      have none : ∀ c ∈ ([] : List Char), isSpace c = true := by simp
      exact .token none (later.apart fits) later

theorem Rendering.spaced_bare {v : Value} (r : Rendering v) : Spaced r.bare v.tokens := by
  have tokens := r.tokens_eq
  rw [← tokens]
  exact Piece.spaced_bare (tokens ▸ (sentence_tokens v).chain)

/-! ### Reading tokens onto a stack -/

/-- Keys and what they have. -/
def paired : List (Option Json) → Option (List (String × Json))
  | [] => some []
  | some (.str key) :: some j :: ds => (paired ds).map ((key, j) :: ·)
  | _ => none

/-- What stands between brackets as one value. -/
def gathered : Frame → List (Option Json) → Option Json
  | .list, ds => (ds.mapM id).map .arr
  | .object, ds => (paired ds).map .obj

/-- One more value inside the innermost bracket. -/
def put (d : Option Json) : List (List (Option Json)) → List (List (Option Json))
  | [] => []
  | ds :: frames => (d :: ds) :: frames

/-- What a token does to the values read so far, those of each open bracket by themselves and the last one first. -/
def feed (frames : List (List (Option Json))) : Token (List Part) → List (List (Option Json))
  | .opening _ => [] :: frames
  | .closing f => put (gathered f (frames.headD []).reverse) frames.tail
  | .comma | .colon => frames
  | .word w => put (some w.data) frames
  | .number n => put (some n.data) frames
  | .string parts => put ((textOf? parts).map .str) frames

theorem itemsData?_eq (vs : List Value) : itemsData? vs = (vs.map Value.data?).mapM id := by
  induction vs with
  | nil => rfl
  | cons v vs ih =>
    rw [itemsData?, ih, List.map_cons, List.mapM_cons]
    rfl

/-- What an entry says, key and value by themselves. -/
def entryData (e : List Part × Value) : List (Option Json) := [(textOf? e.1).map .str, e.2.data?]

theorem entriesData?_eq (es : List (List Part × Value)) : entriesData? es = paired (es.flatMap entryData) := by
  induction es with
  | nil => rfl
  | cons e es ih =>
    obtain ⟨key, v⟩ := e
    rw [entriesData?, ih, List.flatMap_cons]
    cases spelled : textOf? key with
    | none => simp [entryData, spelled, paired]
    | some name =>
      cases meant : v.data? with
      | none => simp [entryData, spelled, meant, paired]
      | some j => cases rest : paired (es.flatMap entryData) <;> simp [entryData, spelled, meant, paired, rest]

mutual

/-- **The tokens of a value leave what it says.** -/
theorem feed_tokens (v : Value) (ds : List (Option Json)) (frames : List (List (Option Json))) :
    v.tokens.foldl feed (ds :: frames) = (v.data? :: ds) :: frames := by
  cases v with
  | word w =>
    rw [Value.tokens, Value.data?]
    rfl
  | number n =>
    rw [Value.tokens, Value.data?]
    rfl
  | string parts =>
    rw [Value.tokens, Value.data?]
    rfl
  | array items =>
    rw [Value.tokens, List.cons_append, List.foldl_cons, List.foldl_append, feed, feed_itemTokens items, Value.data?,
      itemsData?_eq]
    simp [feed, gathered, put]
  | object entries =>
    rw [Value.tokens, List.cons_append, List.foldl_cons, List.foldl_append, feed, feed_entryTokens entries,
      Value.data?, entriesData?_eq]
    simp [feed, gathered, put]

theorem feed_itemTokens (vs : List Value) (ds : List (Option Json)) (frames : List (List (Option Json))) :
    (itemTokens vs).foldl feed (ds :: frames) = ((vs.map Value.data?).reverse ++ ds) :: frames := by
  cases vs with
  | nil =>
    rw [itemTokens]
    rfl
  | cons v vs =>
    rw [itemTokens, List.foldl_append, feed_tokens v, feed_moreItems vs]
    simp

theorem feed_moreItems (vs : List Value) (ds : List (Option Json)) (frames : List (List (Option Json))) :
    (moreItems vs).foldl feed (ds :: frames) = ((vs.map Value.data?).reverse ++ ds) :: frames := by
  cases vs with
  | nil =>
    rw [moreItems]
    rfl
  | cons v vs =>
    rw [moreItems, List.cons_append, List.foldl_cons, List.foldl_append, feed, feed_tokens v, feed_moreItems vs]
    simp

theorem feed_entryTokens (es : List (List Part × Value)) (ds : List (Option Json))
    (frames : List (List (Option Json))) :
    (entryTokens es).foldl feed (ds :: frames) = ((es.flatMap entryData).reverse ++ ds) :: frames := by
  cases es with
  | nil =>
    rw [entryTokens]
    rfl
  | cons e es =>
    rw [entryTokens, List.cons_append, List.cons_append, List.foldl_cons, List.foldl_cons, List.foldl_append, feed, feed,
      put, feed_tokens e.2, feed_moreEntries es]
    simp [entryData]

theorem feed_moreEntries (es : List (List Part × Value)) (ds : List (Option Json))
    (frames : List (List (Option Json))) :
    (moreEntries es).foldl feed (ds :: frames) = ((es.flatMap entryData).reverse ++ ds) :: frames := by
  cases es with
  | nil =>
    rw [moreEntries]
    rfl
  | cons e es =>
    rw [moreEntries, List.cons_append, List.cons_append, List.cons_append, List.foldl_cons, List.foldl_cons,
      List.foldl_cons, List.foldl_append, feed, feed, feed, put, feed_tokens e.2, feed_moreEntries es]
    simp [entryData]

end

/-! ### One text, one value -/

namespace Reads

variable {α : Type} {r : Reader α} {cs left left' : List Char}

/-- A reader gives one result and leaves one rest. -/
theorem unique {a a' : α} (first : Reads r cs (.ok a) left) (second : Reads r cs (.ok a') left') :
    a = a' ∧ left = left' := by
  obtain ⟨reached, result⟩ := first 0
  obtain ⟨reached', result'⟩ := second 0
  rw [result] at result'
  cases result'
  exact ⟨rfl, rfl⟩

/-- What a reader gives, unless it fails. -/
theorem toOption_eq {x : Except Fault α} (reads : Reads r cs x left) : x.toOption = (r ⟨cs, 0⟩).toOption.map (·.1) := by
  cases x <;>
    obtain ⟨reached, result⟩ := reads 0 <;>
    rw [result] <;>
    rfl

end Reads

/-- A string ends where its quote is, and what it says is in its text. -/
theorem textOf?_unique {parts parts' : List Part} {cs cs' : List Char}
    (same : (Token.string parts).text ++ cs = (Token.string parts').text ++ cs') :
    textOf? parts = textOf? parts' ∧ cs = cs' := by
  have rest := Reads.unique (reads_skipQuoted parts cs) (same ▸ reads_skipQuoted parts' cs')
  have text := (Reads.toOption_eq (reads_quoted parts cs)).trans
    (Reads.toOption_eq (same ▸ reads_quoted parts' cs')).symm
  have mapped : ∀ x : Except Fault (List Char), (x.map String.ofList).toOption = x.toOption.map String.ofList := by
    intro x
    cases x <;> rfl
  rw [mapped, mapped] at text
  exact ⟨text, rest.2⟩

/-- The digits of a number before its point, and what comes after them, are in its text. -/
theorem Numeral.unsigned_unique {n n' : Numeral} (same : n.unsigned = n'.unsigned) :
    n.whole.chars = n'.whole.chars ∧ n.ending = n'.ending := by
  have stop : ∀ m : Numeral, ∀ c ∈ m.ending.head?, isDigit c = false := by
    intro m
    have last : EndsNumber [] := fun c none => by cases none
    have stop := m.ending_head last
    rwa [List.append_nil] at stop
  have whole := congrArg (List.takeWhile isDigit) same
  have rest := congrArg (List.dropWhile isDigit) same
  rw [unsigned, unsigned, takeWhile_append_of_all n.whole.valid (stop n),
    takeWhile_append_of_all n'.whole.valid (stop n')] at whole
  rw [unsigned, unsigned, dropWhile_append_of_all n.whole.valid (stop n),
    dropWhile_append_of_all n'.whole.valid (stop n')] at rest
  exact ⟨whole, rest⟩

/-- A number ends where nothing continues it, and what it says is in its text. -/
theorem Numeral.data_unique {n n' : Numeral} {cs cs' : List Char} (stop : EndsNumber cs) (stop' : EndsNumber cs')
    (same : n.text ++ cs = n'.text ++ cs') : n.data = n'.data ∧ cs = cs' := by
  -- A sign is told from the first digit.
  have signs : n.negative = n'.negative ∧ n.unsigned ++ cs = n'.unsigned ++ cs' := by
    have digit : ∀ (m : Numeral) (ds : List Char), (m.unsigned ++ ds).head? ≠ some '-' := by
      intro m ds minus
      obtain ⟨c, later, shape, isDigit⟩ := m.whole.exists_cons
      rw [Numeral.unsigned, shape] at minus
      cases minus
      exact absurd isDigit (by decide)
    rw [text, text] at same
    cases sign : n.negative <;> cases sign' : n'.negative <;> rw [sign, sign'] at same
    · exact ⟨rfl, same⟩
    · exact absurd (congrArg List.head? same) (digit n cs)
    · exact absurd (congrArg List.head? same).symm (digit n' cs')
    · exact ⟨rfl, (List.cons.inj same).2⟩
  obtain ⟨negative, unsigned⟩ := signs
  have rest := (Reads.unique (reads_skipNumber n stop) (unsigned ▸ reads_skipNumber n' stop')).2
  subst rest
  obtain ⟨whole, ending⟩ := unsigned_unique (List.append_cancel_right unsigned)
  have text := List.append_cancel_right same
  refine ⟨?_, rfl⟩
  rw [data, data, negative, whole, ending, text]

/-- The token that a mark is. -/
def markToken? (c : Char) : Option (Token (List Part)) :=
  [.opening .list, .opening .object, .closing .list, .closing .object, .comma, .colon].find? (·.text == [c])

theorem markToken?_eq {t : Token (List Part)} {c : Char} (isMark : c ∈ marks) (text : t.text = [c]) :
    markToken? c = some t := by
  cases t with
  | opening f => cases f <;> cases text <;> rfl
  | closing f => cases f <;> cases text <;> rfl
  | comma => cases text; rfl
  | colon => cases text; rfl
  | word w => cases w <;> cases text
  | number n =>
    have digit := isDigit_of_mark isMark
    rcases n.text_cases with minus | ⟨own, d, later, shape, isDigit⟩
    · rw [Token.text, minus] at text
      obtain ⟨rfl, _⟩ := List.cons.inj text
      exact absurd isMark (by decide)
    · rw [Token.text, own, shape] at text
      obtain ⟨rfl, _⟩ := List.cons.inj text
      rw [isDigit] at digit
      cases digit
  | string parts =>
    obtain ⟨rfl, _⟩ := List.cons.inj text
    exact absurd isMark (by decide)

theorem Token.Starts.exists_number {t : Token (List Part)} {c : Char} (starts : t.Starts c)
    (numeric : c = '-' ∨ isDigit c = true) : ∃ n, t = .number n := by
  cases starts with
  | mark isMark _ =>
    rcases numeric with rfl | digit
    · exact absurd isMark (by decide)
    · exact absurd digit (by simp [isDigit_of_mark isMark])
  | word w first =>
    rcases numeric with rfl | digit
    · exact absurd (Word.head_mem first) (by decide)
    · exact absurd digit (by simp [isDigit_of_letter (Word.head_mem first)])
  | minus | digit => exact ⟨_, rfl⟩
  | quote => exact absurd numeric (by decide)

theorem Token.Starts.exists_string {t : Token (List Part)} (starts : t.Starts '"') : ∃ parts, t = .string parts := by
  cases starts with
  | mark isMark _ => exact absurd isMark (by decide)
  | word w first => exact absurd (Word.head_mem first) (by decide)
  | digit isDigit _ _ => exact absurd isDigit (by decide)
  | quote parts => exact ⟨parts, rfl⟩

/-- **One text is one token**, as far as reading goes: what begins alike ends alike and is read alike. -/
theorem feed_eq_of_text {t t' : Token (List Part)} {cs cs' : List Char} (apart : t.Apart cs) (apart' : t'.Apart cs')
    (same : t.text ++ cs = t'.text ++ cs') : (∀ frames, feed frames t = feed frames t') ∧ cs = cs' := by
  obtain ⟨c, later, text, _⟩ := t.text_eq_cons
  obtain ⟨c', later', text', _⟩ := t'.text_eq_cons
  have first : t.text.head? = some c := by
    rw [text]
    rfl
  have first' : t'.text.head? = some c := by
    rw [text, text'] at same
    rw [text', (List.cons.inj same).1]
    rfl
  have starts := Token.starts first
  have starts' := Token.starts first'
  have numbers : ∀ {n : Numeral}, t = .number n → (c = '-' ∨ isDigit c = true) →
      (∀ frames, feed frames t = feed frames t') ∧ cs = cs' := by
    rintro n rfl numeric
    obtain ⟨n', rfl⟩ := starts'.exists_number numeric
    obtain ⟨data, rest⟩ := Numeral.data_unique apart apart' same
    exact ⟨fun frames => by rw [feed, feed, data], rest⟩
  cases starts with
  | mark isMark text =>
    obtain rfl : t = t' :=
      Option.some.inj ((markToken?_eq isMark text).symm.trans (markToken?_eq isMark (starts'.text_of_mark isMark)))
    exact ⟨fun _ => rfl, List.append_cancel_left same⟩
  | word w letter =>
    obtain rfl := starts'.eq_word letter
    exact ⟨fun _ => rfl, List.append_cancel_left same⟩
  | minus => exact numbers rfl (.inl rfl)
  | digit isDigit => exact numbers rfl (.inr isDigit)
  | quote parts =>
    obtain ⟨parts', rfl⟩ := starts'.exists_string
    obtain ⟨spelled, rest⟩ := textOf?_unique same
    exact ⟨fun frames => by rw [feed, feed, spelled], rest⟩

theorem Token.text_append_ne_nil (t : Token (List Part)) (cs : List Char) : t.text ++ cs ≠ [] := by
  obtain ⟨c, later, text, _⟩ := t.text_eq_cons
  rw [text]
  exact List.cons_ne_nil _ _

/-- What stands after the blanks at the front: nothing, or the first token and the others. -/
theorem Spaced.next {cs : List Char} {ts : List (Token (List Part))} (spaced : Spaced cs ts) :
    ts = [] ∧ cs.dropWhile isSpace = [] ∨
      ∃ t us rest, ts = t :: us ∧ cs.dropWhile isSpace = t.text ++ rest ∧ t.Apart rest ∧ Spaced rest us := by
  cases spaced with
  | done all => exact .inl ⟨rfl, List.dropWhile_eq_nil_iff.mpr all⟩
  | @token blanks rest t us all apart later =>
    have stop : ∀ c ∈ (t.text ++ rest).head?, isSpace c = false := by
      obtain ⟨d, more, text, notBlank⟩ := t.text_eq_cons
      intro c first
      rw [text] at first
      cases first
      exact notBlank
    exact .inr ⟨t, us, rest, rfl, dropWhile_append_of_all all stop, apart, later⟩

/-- **Tokens of one text are read alike.** By induction on the first of them. -/
theorem Spaced.feed_eq {cs : List Char} {ts ts' : List (Token (List Part))} (spaced : Spaced cs ts)
    (spaced' : Spaced cs ts') (frames : List (List (Option Json))) : ts.foldl feed frames = ts'.foldl feed frames := by
  induction ts generalizing cs ts' frames with
  | nil =>
    obtain ⟨_, none⟩ | ⟨_, _, _, impossible, _⟩ := spaced.next
    · obtain ⟨rfl, _⟩ | ⟨t, us, rest, rfl, text, _⟩ := spaced'.next
      · rfl
      · exact absurd (text.symm.trans none) (t.text_append_ne_nil rest)
    · cases impossible
  | cons t ts ih =>
    obtain ⟨impossible, _⟩ | ⟨_, _, rest, split, text, apart, later⟩ := spaced.next
    · cases impossible
    · cases split
      obtain ⟨_, none⟩ | ⟨t', ts', rest', rfl, text', apart', later'⟩ := spaced'.next
      · exact absurd (text.symm.trans none) (t.text_append_ne_nil rest)
      · obtain ⟨fed, rfl⟩ := feed_eq_of_text apart apart' (text.symm.trans text')
        rw [List.foldl_cons, List.foldl_cons, fed]
        exact ih later later' _

/-- What a text says is what its tokens leave. -/
theorem Tells.spaced {text : String} {j : Json} (tells : Tells text j) :
    ∃ v : Value, Spaced text.toList v.tokens ∧ v.tokens.foldl feed [[]] = [[some j]] := by
  obtain ⟨v, r, plain, same, means⟩ := tells
  refine ⟨v, ?_, by rw [feed_tokens v, means]⟩
  rw [← same, ← Rendering.bare_of_plain plain]
  exact r.spaced_bare

/-- **The empty text says nothing.** Every value has a token, and every token has a character. -/
theorem not_tells_empty (j : Json) : ¬ Tells "" j := by
  intro tells
  obtain ⟨v, spaced, _⟩ := tells.spaced
  obtain ⟨none, _⟩ | ⟨t, _, rest, _, text, _⟩ := spaced.next
  · exact (sentence_tokens v).some none
  · exact t.text_append_ne_nil rest text.symm

/-- **A text says one value at most.** -/
theorem Tells.unique {text : String} {j j' : Json} (tells : Tells text j) (tells' : Tells text j') : j = j' := by
  obtain ⟨v, spaced, fed⟩ := tells.spaced
  obtain ⟨v', spaced', fed'⟩ := tells'.spaced
  have same := spaced.feed_eq spaced' [[]]
  rw [fed, fed'] at same
  simpa using same

end Detype.Json
