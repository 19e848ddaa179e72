import Detype.Proofs.Json.Tokens

/-
**Reading a token.**

What a reader makes of the text of a token does not depend on where the token stands, nor on what follows it as
long as that does not continue a number.

* `Reads` — what a reader makes of a text and what it leaves of it, places aside.
* `reads_quoted` — a string gives what its parts stand for; `reads_skipQuoted` only steps over it.
* `number_settles`, `reads_skipNumber` — a number is read as a whole.
-/

namespace Detype.Json

open Reader

/-! ### What a reader makes of a text -/

/-- A reader gives a result for a text and leaves the rest of it, or fails, wherever the text stands. -/
def Reads {α : Type} (r : Reader α) (cs : List Char) : Except Fault α → List Char → Prop
  | .ok a, left => ∀ offset, ∃ reached, r ⟨cs, offset⟩ = .ok (a, ⟨left, reached⟩)
  | .error fault, _ => ∀ offset, ∃ reached, r ⟨cs, offset⟩ = .error ⟨fault, reached⟩

namespace Reads

variable {α β : Type} {r : Reader α} {f : α → Reader β} {cs mid left : List Char} {a : α}

protected theorem pure (a : α) (cs : List Char) : Reads (pure a) cs (.ok a) cs := fun offset => ⟨offset, rfl⟩

theorem bind {x : Except Fault β} (first : Reads r cs (.ok a) mid) (next : Reads (f a) mid x left) :
    Reads (r >>= f) cs x left := by
  have run : ∀ {offset reached}, r ⟨cs, offset⟩ = .ok (a, ⟨mid, reached⟩) →
      (r >>= f) ⟨cs, offset⟩ = f a ⟨mid, reached⟩ := by
    intro offset reached given
    show (r ⟨cs, offset⟩ >>= fun p => f p.1 p.2) = _
    rw [given]
    rfl
  cases x with
  | ok b =>
    intro offset
    obtain ⟨reached, given⟩ := first offset
    obtain ⟨last, result⟩ := next reached
    exact ⟨last, (run given).trans result⟩
  | error fault =>
    intro offset
    obtain ⟨reached, given⟩ := first offset
    obtain ⟨last, result⟩ := next reached
    exact ⟨last, (run given).trans result⟩

theorem bind_error {fault : Fault} (first : Reads r cs (.error fault) left) : Reads (r >>= f) cs (.error fault) left := by
  intro offset
  obtain ⟨reached, given⟩ := first offset
  refine ⟨reached, ?_⟩
  show (r ⟨cs, offset⟩ >>= fun p => f p.1 p.2) = _
  rw [given]
  rfl

theorem map {x : Except Fault α} (g : α → β) (first : Reads r cs x left) : Reads (g <$> r) cs (x.map g) left := by
  cases x with
  | ok a =>
    intro offset
    obtain ⟨reached, given⟩ := first offset
    refine ⟨reached, ?_⟩
    show (r ⟨cs, offset⟩ >>= fun p => pure (g p.1, p.2)) = _
    rw [given]
    rfl
  | error fault =>
    intro offset
    obtain ⟨reached, given⟩ := first offset
    refine ⟨reached, ?_⟩
    show (r ⟨cs, offset⟩ >>= fun p => pure (g p.1, p.2)) = _
    rw [given]
    rfl

/-- A reader that looks at the cursor does so wherever the text stands. -/
theorem get {g : Cursor → Reader α} {x : Except Fault α} (next : ∀ offset, Reads (g ⟨cs, offset⟩) cs x left) :
    Reads (MonadState.get >>= g) cs x left := by
  cases x with
  | ok a => exact fun offset => next offset offset
  | error fault => exact fun offset => next offset offset

end Reads

theorem reads_failHere {α : Type} (fault : Fault) (cs left : List Char) :
    Reads (failHere fault : Reader α) cs (.error fault) left := fun offset => ⟨offset, rfl⟩

theorem reads_failNext {α : Type} (fault : Fault) (cs left : List Char) :
    Reads (failNext fault : Reader α) cs (.error fault) left := fun _ => ⟨_, rfl⟩

theorem reads_peek (cs : List Char) : Reads peek cs (.ok cs.head?) cs := fun offset => ⟨offset, rfl⟩

theorem reads_skip (c : Char) (cs : List Char) : Reads skip (c :: cs) (.ok ()) cs := fun _ => ⟨_, rfl⟩

theorem reads_word (w cs : List Char) : Reads (word w) (w ++ cs) (.ok ()) cs := by
  induction w with
  | nil => exact .pure () cs
  | cons c w ih =>
    refine .bind (reads_peek _) ?_
    show Reads (if c == c then do skip; word w else failNext .identExpected) _ _ _
    rw [if_pos (beq_self_eq_true c)]
    exact .bind (reads_skip c _) ih

/-! ### Runs of characters -/

theorem dropWhile_append_of_all {p : Char → Bool} {run cs : List Char} (all : ∀ c ∈ run, p c = true)
    (stop : ∀ c ∈ cs.head?, p c = false) : (run ++ cs).dropWhile p = cs := by
  rw [List.dropWhile_append_of_pos all]
  cases cs with
  | nil => rfl
  | cons c cs => exact List.dropWhile_cons_of_neg (by simp [stop c rfl])

theorem takeWhile_append_of_all {p : Char → Bool} {run cs : List Char} (all : ∀ c ∈ run, p c = true)
    (stop : ∀ c ∈ cs.head?, p c = false) : (run ++ cs).takeWhile p = run := by
  rw [List.takeWhile_append_of_pos all]
  cases cs with
  | nil => exact List.append_nil run
  | cons c cs => rw [List.takeWhile_cons_of_neg (by simp [stop c rfl]), List.append_nil]

theorem reads_skipWhile {p : Char → Bool} {run cs : List Char} (all : ∀ c ∈ run, p c = true)
    (stop : ∀ c ∈ cs.head?, p c = false) : Reads (skipWhile p) (run ++ cs) (.ok ()) cs := by
  intro offset
  refine ⟨offset + byteLength ((run ++ cs).takeWhile p), ?_⟩
  show Except.ok ((), (⟨(run ++ cs).dropWhile p, _⟩ : Cursor)) = _
  rw [dropWhile_append_of_all all stop]

theorem reads_digits {run cs : List Char} (all : ∀ c ∈ run, isDigit c = true)
    (stop : ∀ c ∈ cs.head?, isDigit c = false) : Reads digits (run ++ cs) (.ok run) cs := by
  refine .get fun offset => ?_
  have taken : (run ++ cs).takeWhile isDigit = run := takeWhile_append_of_all all stop
  refine .bind (reads_skipWhile all stop) ?_
  show Reads (pure ((run ++ cs).takeWhile isDigit)) _ _ _
  rw [taken]
  exact .pure run cs

theorem reads_peekToken {blanks cs : List Char} (all : ∀ c ∈ blanks, isSpace c = true)
    (stop : ∀ c ∈ cs.head?, isSpace c = false) : Reads peekToken (blanks ++ cs) (.ok cs.head?) cs :=
  .bind (reads_skipWhile all stop) (reads_peek cs)

/-! ### Strings -/

theorem length_le_byteLength (cs : List Char) : cs.length ≤ byteLength cs := by
  induction cs with
  | nil => exact Nat.le_refl 0
  | cons c cs ih =>
    have size := c.utf8Size_pos
    simp only [byteLength, List.map_cons, List.sum_cons, List.length_cons] at ih ⊢
    omega

theorem reads_hexEscape {ds : List Char} (four : ds.length = 4) {values : List Nat}
    (valid : ds.mapM hexValue? = some values) (cs : List Char) :
    Reads hexEscape (ds ++ cs) (.ok (codeUnit values)) cs := by
  refine .get fun offset => ?_
  have long : ¬ byteLength (ds ++ cs) < 4 := by
    have enough := length_le_byteLength (ds ++ cs)
    rw [List.length_append] at enough
    omega
  have taken : (ds ++ cs).take 4 = ds := by rw [← four, List.take_left]
  have dropped : (ds ++ cs).drop 4 = cs := by rw [← four, List.drop_left]
  dsimp only
  rw [if_neg long, taken, dropped, valid]
  exact fun _ => ⟨offset + 4, rfl⟩

theorem reads_pairMark (c : Char) (cs : List Char) : Reads (pairMark c) (c :: cs) (.ok ()) cs := by
  refine .bind (reads_peek _) ?_
  show Reads (if c == c then skip else failNext .unfinishedSurrogate) _ _ _
  rw [if_pos (beq_self_eq_true c)]
  exact reads_skip c cs

theorem reads_pairMark_other {c d : Char} (other : c ≠ d) (cs left : List Char) :
    Reads (pairMark c) (d :: cs) (.error .unfinishedSurrogate) left := by
  refine .bind (reads_peek _) ?_
  show Reads (if c == d then skip else failNext .unfinishedSurrogate) _ _ _
  rw [if_neg (by simpa using other)]
  exact reads_failNext _ _ _

theorem reads_escape_short {c d : Char} (known : shortEscape? c = some d) (cs : List Char) :
    Reads escape (c :: cs) (.ok d) cs := by
  refine .bind (reads_peek _) ?_
  dsimp only [List.head?_cons]
  rw [known]
  exact .bind (reads_skip c cs) (.pure d cs)

theorem reads_escape_unit {cs left : List Char} {x : Except Fault Char} (unit : Reads unicodeEscape cs x left) :
    Reads escape ('u' :: cs) x left := by
  refine .bind (reads_peek _) ?_
  dsimp only [List.head?_cons]
  rw [show shortEscape? 'u' = none by decide]
  exact .bind (reads_skip 'u' cs) unit

/-- A single code unit: a character, or half of a pair that lacks its other half. -/
theorem reads_unicodeEscape_single {ds : List Char} (four : ds.length = 4) {values : List Nat}
    (valid : ds.mapM hexValue? = some values) (single : codeUnit values < 0xD800 ∨ 0xDBFF < codeUnit values)
    (cs : List Char) :
    Reads unicodeEscape (ds ++ cs) (if 0xDC00 ≤ codeUnit values && codeUnit values ≤ 0xDFFF then .error .loneSurrogate
      else .ok (Char.ofNat (codeUnit values))) cs := by
  refine .bind (reads_hexEscape four valid cs) ?_
  split
  · exact reads_failHere _ _ _
  · rw [if_pos (by simpa using single)]
    exact .pure _ cs

/-- The first half of a pair, before what is read of the second. -/
theorem reads_unicodeEscape_pair {ds : List Char} (four : ds.length = 4) {values : List Nat}
    (valid : ds.mapM hexValue? = some values) (high : 0xD800 ≤ codeUnit values ∧ codeUnit values ≤ 0xDBFF)
    {cs left : List Char} {x : Except Fault Char}
    (second : Reads (do
      pairMark '\\'
      pairMark 'u'
      let low ← hexEscape
      if low < 0xDC00 || 0xDFFF < low then failHere .loneSurrogate
      else return Char.ofNat ((codeUnit values - 0xD800) * 1024 + (low - 0xDC00) + 0x10000)) cs x left) :
    Reads unicodeEscape (ds ++ cs) x left := by
  refine .bind (reads_hexEscape four valid cs) ?_
  have notLow : ¬ (0xDC00 ≤ codeUnit values && codeUnit values ≤ 0xDFFF) = true := by
    simp only [Bool.and_eq_true, decide_eq_true_eq]
    omega
  have notSingle : ¬ (codeUnit values < 0xD800 || 0xDBFF < codeUnit values) = true := by
    simp only [Bool.or_eq_true, decide_eq_true_eq]
    omega
  rw [if_neg notLow, if_neg notSingle]
  exact second

section StringBody

variable {fuel : Nat} {read cs mid left : List Char} {x : Except Fault String}

theorem reads_stringBody_quote (fuel : Nat) (read cs : List Char) :
    Reads (stringBody (fuel + 1) read) ('"' :: cs) (.ok (String.ofList read.reverse)) cs := by
  refine .bind (reads_peek _) ?_
  exact .bind (reads_skip '"' cs) (.pure _ cs)

theorem reads_stringBody_char {c : Char} (plain : c ≠ '"' ∧ c ≠ '\\' ∧ 32 ≤ c.toNat)
    (next : Reads (stringBody fuel (c :: read)) cs x left) : Reads (stringBody (fuel + 1) read) (c :: cs) x left := by
  refine .bind (reads_peek _) ?_
  dsimp only [List.head?_cons]
  rw [if_neg (by simpa using plain.1), if_neg (by simpa using plain.2.1), if_neg (by omega)]
  exact .bind (reads_skip c cs) next

theorem reads_stringBody_escape {d : Char} (known : Reads escape cs (.ok d) mid)
    (next : Reads (stringBody fuel (d :: read)) mid x left) : Reads (stringBody (fuel + 1) read) ('\\' :: cs) x left := by
  refine .bind (reads_peek _) ?_
  exact .bind (reads_skip '\\' cs) (.bind known next)

theorem reads_stringBody_fault {fault : Fault} (broken : Reads escape cs (.error fault) left) :
    Reads (stringBody (fuel + 1) read) ('\\' :: cs) (.error fault) left := by
  refine .bind (reads_peek _) ?_
  exact .bind (reads_skip '\\' cs) (.bind_error broken)

end StringBody

theorem partsText_unit_append (ds : List Char) (four : ds.length = 4) (values : List Nat)
    (valid : ds.mapM hexValue? = some values) (ps : List Part) (cs : List Char) :
    partsText (.unit ds four values valid :: ps) ++ cs = '\\' :: 'u' :: (ds ++ (partsText ps ++ cs)) := by
  simp [partsText, Part.text]

/-- Characters after those that were read before them. -/
def completed (read chars : List Char) : String := String.ofList (read.reverse ++ chars)

theorem map_completed (c : Char) (read : List Char) (x : Except Fault (List Char)) :
    (x.map (c :: ·)).map (completed read) = x.map (completed (c :: read)) := by
  cases x with
  | error fault => rfl
  | ok chars => simp [Except.map, completed]

/-- **The inside of a string gives what its parts stand for**, with one turn for each part and one more. -/
theorem reads_stringBody (parts : List Part) (spare : Nat) (read cs : List Char) :
    Reads (stringBody (spare + parts.length + 1) read) (partsText parts ++ '"' :: cs)
      ((decode parts).map (completed read)) cs := by
  fun_induction decode parts generalizing read spare with
  | case1 =>
    have last := reads_stringBody_quote spare read cs
    simpa [partsText, Except.map, completed] using last
  | case2 c plain ps ih =>
    rw [map_completed]
    exact reads_stringBody_char plain (ih spare (c :: read))
  | case3 c d known ps ih =>
    rw [map_completed]
    exact reads_stringBody_escape (reads_escape_short known _) (ih spare (d :: read))
  | case4 ds four values valid ps n low =>
    have notHigh : codeUnit values < 0xD800 ∨ 0xDBFF < codeUnit values := by
      simp only [Bool.and_eq_true, decide_eq_true_eq, n] at low
      omega
    have single := reads_unicodeEscape_single four valid notHigh (partsText ps ++ '"' :: cs)
    rw [if_pos low] at single
    rw [partsText_unit_append]
    exact reads_stringBody_fault (reads_escape_unit single)
  | case5 ds four values valid ps n notLow notHigh ih =>
    have single := reads_unicodeEscape_single four valid (by simpa using notHigh) (partsText ps ++ '"' :: cs)
    rw [if_neg notLow] at single
    rw [partsText_unit_append, map_completed]
    exact reads_stringBody_escape (reads_escape_unit single) (ih spare (Char.ofNat n :: read))
  | case6 ds four values valid n notLow notSingle es fourLow lows validLow ps low lone =>
    have high : 0xD800 ≤ codeUnit values ∧ codeUnit values ≤ 0xDBFF := by simpa using notSingle
    rw [partsText_unit_append, partsText_unit_append]
    refine reads_stringBody_fault (reads_escape_unit (reads_unicodeEscape_pair four valid high ?_))
    refine .bind (reads_pairMark '\\' _) (.bind (reads_pairMark 'u' _) ?_)
    refine .bind (reads_hexEscape fourLow validLow _) ?_
    rw [if_pos lone]
    exact reads_failHere _ _ _
  | case7 ds four values valid n notLow notSingle es fourLow lows validLow ps low paired ih =>
    have high : 0xD800 ≤ codeUnit values ∧ codeUnit values ≤ 0xDBFF := by simpa using notSingle
    rw [partsText_unit_append, partsText_unit_append, map_completed]
    have next := ih (spare + 1) (Char.ofNat ((n - 0xD800) * 1024 + (low - 0xDC00) + 0x10000) :: read)
    rw [show spare + 1 + ps.length + 1 = spare + (ps.length + 1) + 1 by omega] at next
    refine reads_stringBody_escape (reads_escape_unit (reads_unicodeEscape_pair four valid high ?_)) next
    refine .bind (reads_pairMark '\\' _) (.bind (reads_pairMark 'u' _) ?_)
    refine .bind (reads_hexEscape fourLow validLow _) ?_
    rw [if_neg paired]
    exact .pure _ _
  | case8 ds four values valid ps n notLow notSingle unpaired =>
    have high : 0xD800 ≤ codeUnit values ∧ codeUnit values ≤ 0xDBFF := by simpa using notSingle
    rw [partsText_unit_append]
    refine reads_stringBody_fault (reads_escape_unit (reads_unicodeEscape_pair four valid high ?_))
    -- What follows is the closing quote, a character or another escape.
    cases ps with
    | nil => exact .bind_error (reads_pairMark_other (by decide) _ cs)
    | cons part ps =>
      cases part with
      | char c plain => exact .bind_error (reads_pairMark_other (Ne.symm plain.2.1) _ cs)
      | short c d known =>
        have notUnit : 'u' ≠ c := by
          rintro rfl
          rw [show shortEscape? 'u' = none by decide] at known
          cases known
        exact .bind (reads_pairMark '\\' _) (.bind_error (reads_pairMark_other notUnit _ cs))
      | unit es fourLow lows validLow => exact absurd rfl (unpaired es fourLow lows validLow ps)

theorem length_le_partsText (parts : List Part) : parts.length ≤ (partsText parts).length := by
  induction parts with
  | nil => exact Nat.le_refl 0
  | cons part parts ih =>
    have some : 1 ≤ part.text.length := by
      cases part <;> simp [Part.text]
    simp only [partsText, List.flatMap_cons, List.length_append, List.length_cons] at ih ⊢
    omega

/-- The text that is left after the opening quote has room for a turn for each part. -/
theorem exists_spare (parts : List Part) (cs : List Char) :
    ∃ spare, (partsText parts ++ '"' :: cs).length = spare + parts.length := by
  have enough := length_le_partsText parts
  refine ⟨(partsText parts ++ '"' :: cs).length - parts.length, ?_⟩
  rw [List.length_append]
  omega

/-- A string gives what its parts stand for. -/
theorem reads_quoted (parts : List Part) (cs : List Char) :
    Reads Reader.quoted ((Token.string parts).text ++ cs) ((decode parts).map String.ofList) cs := by
  rw [Token.string_text_append]
  refine .bind (reads_skip '"' _) (.get fun offset => ?_)
  obtain ⟨spare, room⟩ := exists_spare parts cs
  dsimp only
  rw [room]
  exact reads_stringBody parts spare [] cs

theorem reads_skipEscape_short {c d : Char} (known : shortEscape? c = some d) (cs : List Char) :
    Reads skipEscape (c :: cs) (.ok ()) cs := by
  refine .bind (reads_peek _) ?_
  dsimp only [List.head?_cons]
  rw [known]
  exact reads_skip c cs

theorem reads_skipEscape_unit {ds : List Char} (four : ds.length = 4) {values : List Nat}
    (valid : ds.mapM hexValue? = some values) (cs : List Char) :
    Reads skipEscape ('u' :: (ds ++ cs)) (.ok ()) cs := by
  refine .bind (reads_peek _) ?_
  dsimp only [List.head?_cons]
  rw [show shortEscape? 'u' = none by decide]
  exact .bind (reads_skip 'u' _) (.map (fun _ => ()) (reads_hexEscape four valid cs))

/-- Stepping over a string takes all its parts, whatever they stand for. -/
theorem reads_skipStringBody (parts : List Part) (spare : Nat) (cs : List Char) :
    Reads (skipStringBody (spare + parts.length + 1)) (partsText parts ++ '"' :: cs) (.ok ()) cs := by
  induction parts with
  | nil => exact .bind (reads_peek _) (reads_skip '"' cs)
  | cons part parts ih =>
    cases part with
    | char c plain =>
      refine .bind (reads_peek _) ?_
      show Reads (if c == '"' then skip else _) (c :: (partsText parts ++ '"' :: cs)) _ _
      rw [if_neg (by simpa using plain.1), if_neg (by simpa using plain.2.1), if_neg (by omega)]
      exact .bind (reads_skip c _) ih
    | short c d known =>
      refine .bind (reads_peek _) ?_
      exact .bind (reads_skip '\\' _) (.bind (reads_skipEscape_short known _) ih)
    | unit ds four values valid =>
      rw [partsText_unit_append]
      refine .bind (reads_peek _) ?_
      exact .bind (reads_skip '\\' _) (.bind (reads_skipEscape_unit four valid _) ih)

theorem reads_skipQuoted (parts : List Part) (cs : List Char) :
    Reads skipQuoted ((Token.string parts).text ++ cs) (.ok ()) cs := by
  rw [Token.string_text_append]
  refine .bind (reads_skip '"' _) (.get fun offset => ?_)
  obtain ⟨spare, room⟩ := exists_spare parts cs
  dsimp only
  rw [room]
  exact reads_skipStringBody parts spare cs

/-! ### Numbers -/

/-- A text that does not continue a number. -/
def EndsNumber (cs : List Char) : Prop := ∀ c ∈ cs.head?, isDigit c = false ∧ c ≠ '.' ∧ c ≠ 'e' ∧ c ≠ 'E'

/-- What a reader makes of the end of a number does not depend on what follows it. -/
def Settles {α : Type} (r : Reader α) (text : List Char) : Prop :=
  ∃ x, ∀ cs, EndsNumber cs → Reads r (text ++ cs) x cs

theorem floatFrom_settles (negative : Bool) (n : Nat) (e : Int) : Settles (floatFrom negative n e) [] := by
  unfold Settles floatFrom
  cases scale (UInt64.ofNat n).toFloat e (e.natAbs / 308 + 2) with
  | none => exact ⟨_, fun cs _ => reads_failHere _ _ _⟩
  | some x => exact ⟨_, fun cs _ => .pure _ cs⟩

/-- A run of digits ends with the digits that are written. -/
theorem Digits.reads_digits (ds : Digits) {cs : List Char} (stop : ∀ c ∈ cs.head?, isDigit c = false) :
    Reads digits (ds.chars ++ cs) (.ok ds.chars) cs :=
  Json.reads_digits ds.valid stop

theorem Digits.exists_cons (ds : Digits) : ∃ c cs, ds.chars = c :: cs ∧ isDigit c = true := by
  obtain ⟨c, cs, shape⟩ := List.exists_cons_of_ne_nil ds.some
  exact ⟨c, cs, shape, ds.valid c (shape ▸ List.mem_cons_self)⟩

theorem scaled_settles (negative down : Bool) (n : Nat) (k : Int) (ds : List Char) :
    ∃ x, ∀ start cs, EndsNumber cs → Reads (scaled negative down n k start ds) cs x cs := by
  unfold scaled
  dsimp only
  split
  · split
    · exact ⟨.error .numberOutOfRange, fun start cs _ offset => ⟨_, rfl⟩⟩
    · exact ⟨_, fun start cs _ => .pure _ cs⟩
  · obtain ⟨x, given⟩ := floatFrom_settles negative n _
    exact ⟨x, fun start cs stop => given cs stop⟩

theorem exponentDigits_settles (negative down : Bool) (n : Nat) (k : Int) (ds : Digits) :
    Settles (exponentDigits negative down n k) ds.chars := by
  obtain ⟨c, later, shape, digit⟩ := ds.exists_cons
  obtain ⟨x, given⟩ := scaled_settles negative down n k ds.chars
  refine ⟨x, fun cs stop => .bind (reads_peek _) ?_⟩
  have first : (ds.chars ++ cs).head? = some c := by rw [shape]; rfl
  rw [first]
  dsimp only
  rw [if_pos digit]
  exact .get fun offset => .bind (ds.reads_digits fun c head => (stop c head).1) (given offset cs stop)

theorem reads_exponentSign (e : Exponent) (cs : List Char) :
    Reads exponentSign (e.sign.toList ++ (e.digits.chars ++ cs)) (.ok (e.sign == some '-')) (e.digits.chars ++ cs) := by
  refine .bind (reads_peek _) ?_
  cases sign : e.sign with
  | none =>
    obtain ⟨c, later, shape, digit⟩ := e.digits.exists_cons
    have first : ((none : Option Char).toList ++ (e.digits.chars ++ cs)).head? = some c := by rw [shape]; rfl
    rw [first]
    split
    · cases Option.some.inj ‹_›
      exact absurd digit (by decide)
    · cases Option.some.inj ‹_›
      exact absurd digit (by decide)
    · exact .pure false _
  | some c =>
    rcases e.isSign c sign with rfl | rfl
    · exact .bind (reads_skip '-' _) (.pure true _)
    · exact .bind (reads_skip '+' _) (.pure false _)

theorem exponentPart_settles (negative : Bool) (n : Nat) (k : Int) (e : Exponent) :
    Settles (exponentPart negative n k) e.text := by
  obtain ⟨x, given⟩ := exponentDigits_settles negative (e.sign == some '-') n k e.digits
  refine ⟨x, fun cs stop => ?_⟩
  rw [e.text_append]
  exact .bind (reads_skip e.letter _) (.bind (reads_exponentSign e cs) (given cs stop))

/-- After digits, an exponent or what follows the number is no digit. -/
theorem exponentText_head (e : Option Exponent) {cs : List Char} (stop : EndsNumber cs) :
    ∀ c ∈ (exponentText e ++ cs).head?, isDigit c = false ∧ c ≠ '.' := by
  intro c first
  cases e with
  | none => exact ⟨(stop c first).1, (stop c first).2.1⟩
  | some e =>
    rw [exponentText, e.text_append, List.head?_cons, Option.mem_some_iff] at first
    rcases e.isLetter with letter | letter
    · rw [← first, letter]
      decide
    · rw [← first, letter]
      decide

theorem Exponent.head_text (e : Exponent) (cs : List Char) :
    (e.text ++ cs).head? = some 'e' ∨ (e.text ++ cs).head? = some 'E' := by
  rw [e.text_append]
  exact e.isLetter.imp (congrArg some) (congrArg some)

theorem fractionEnding_settles (negative : Bool) (n : Nat) (k : Int) (e : Option Exponent) :
    Settles (fractionEnding negative n k) (exponentText e) := by
  cases e with
  | none =>
    obtain ⟨x, given⟩ := floatFrom_settles negative n k
    refine ⟨x, fun cs stop => .bind (reads_peek _) ?_⟩
    split
    · exact absurd rfl (stop 'e' ‹_›).2.2.1
    · exact absurd rfl (stop 'E' ‹_›).2.2.2
    · exact given cs stop
  | some e =>
    obtain ⟨x, given⟩ := exponentPart_settles negative n k e
    refine ⟨x, fun cs stop => .bind (reads_peek _) ?_⟩
    rcases e.head_text cs with letter | letter
    · rw [exponentText, letter]
      exact given cs stop
    · rw [exponentText, letter]
      exact given cs stop

theorem fraction_settles (negative : Bool) (n : Nat) (k : Int) (ds : Digits) (e : Option Exponent) :
    Settles (fraction negative n k) ('.' :: ds.chars ++ exponentText e) := by
  obtain ⟨x, given⟩ := fractionEnding_settles negative (accumulate n ds.chars).1
    (k - ((ds.chars.length - (accumulate n ds.chars).2.length : Nat) : Int)) e
  refine ⟨x, fun cs stop => ?_⟩
  rw [List.append_assoc]
  refine .bind (reads_skip '.' _) (.bind (ds.reads_digits fun c first => (exponentText_head e stop c first).1) ?_)
  rw [if_neg (by simpa using ds.some)]
  exact given cs stop

theorem wholeNumber_settles (negative : Bool) (n : Nat) (rest : List Char) :
    Settles (wholeNumber negative n rest) [] := by
  unfold wholeNumber
  split
  · exact floatFrom_settles negative n rest.length
  · split
    · exact ⟨_, fun cs _ => .pure _ cs⟩
    · split <;> exact ⟨_, fun cs _ => .pure _ cs⟩

theorem numberEnding_settles (negative : Bool) (whole : List Char) (n : Numeral) :
    Settles (numberEnding negative whole) n.ending := by
  unfold Numeral.ending
  cases n.fraction with
  | some ds =>
    obtain ⟨x, given⟩ := fraction_settles negative (accumulate 0 whole).1 (accumulate 0 whole).2.length ds n.exponent
    exact ⟨x, fun cs stop => .bind (reads_peek _) (given cs stop)⟩
  | none =>
    cases n.exponent with
    | some e =>
      obtain ⟨x, given⟩ := exponentPart_settles negative (accumulate 0 whole).1 (accumulate 0 whole).2.length e
      refine ⟨x, fun cs stop => .bind (reads_peek _) ?_⟩
      have ending : fractionText none ++ exponentText (some e) ++ cs = e.text ++ cs := rfl
      rw [ending]
      rcases e.head_text cs with letter | letter
      · rw [letter]
        exact given cs stop
      · rw [letter]
        exact given cs stop
    | none =>
      obtain ⟨x, given⟩ := wholeNumber_settles negative (accumulate 0 whole).1 (accumulate 0 whole).2
      refine ⟨x, fun cs stop => .bind (reads_peek _) ?_⟩
      split
      · exact absurd rfl (stop '.' ‹_›).2.1
      · exact absurd rfl (stop 'e' ‹_›).2.2.1
      · exact absurd rfl (stop 'E' ‹_›).2.2.2
      · exact given cs stop

theorem Numeral.ending_head (n : Numeral) {cs : List Char} (stop : EndsNumber cs) :
    ∀ c ∈ (n.ending ++ cs).head?, isDigit c = false := by
  intro c first
  unfold ending at first
  cases fraction : n.fraction with
  | some ds =>
    rw [fraction] at first
    cases first
    decide
  | none =>
    rw [fraction] at first
    exact (exponentText_head n.exponent stop c first).1

/-- The whole part of a number is all its digits before the point. -/
theorem Numeral.reads_wholePart (n : Numeral) {c : Char} (first : n.whole.chars.head? = some c) {cs : List Char}
    (stop : EndsNumber cs) :
    Reads (wholePart c) (n.unsigned ++ cs) (.ok n.whole.chars) (n.ending ++ cs) := by
  have next := n.ending_head stop
  rw [unsigned, List.append_assoc]
  unfold wholePart
  split
  · -- A zero at the front stands alone.
    have zero : c = '0' := by simpa using ‹(c == '0') = true›
    rw [n.short (zero ▸ first)]
    refine .bind (reads_skip '0' _) (.bind (reads_peek _) ?_)
    split
    · rw [if_neg (by simp [next _ ‹_›])]
      exact .pure _ _
    · exact .pure _ _
  · exact n.whole.reads_digits next

/-- **What is read of a number does not depend on where it stands and what follows.** -/
theorem number_settles (negative : Bool) (n : Numeral) : Settles (number negative) n.unsigned := by
  obtain ⟨c, later, shape, digit⟩ := n.whole.exists_cons
  obtain ⟨x, given⟩ := numberEnding_settles negative n.whole.chars n
  refine ⟨x, fun cs stop => .bind (reads_peek _) ?_⟩
  have first : (n.unsigned ++ cs).head? = some c := by rw [Numeral.unsigned, shape]; rfl
  rw [first]
  dsimp only
  rw [if_neg (by simp [digit])]
  exact .bind (n.reads_wholePart (by rw [shape]; rfl) stop) (given cs stop)

/-! ### Numbers that are not wanted -/

theorem reads_skipExponent (e : Exponent) {cs : List Char} (stop : EndsNumber cs) :
    Reads skipExponent (e.text ++ cs) (.ok ()) cs := by
  obtain ⟨c, later, shape, digit⟩ := e.digits.exists_cons
  have first : (e.digits.chars ++ cs).head? = some c := by rw [shape]; rfl
  rw [e.text_append]
  refine .bind (reads_skip e.letter _) (.bind (.map (fun _ => ()) (reads_exponentSign e cs)) (.bind (reads_peek _) ?_))
  rw [first]
  dsimp only
  rw [if_pos digit]
  exact reads_skipWhile e.digits.valid fun c head => (stop c head).1

theorem reads_skipAnyExponent (e : Option Exponent) {cs : List Char} (stop : EndsNumber cs) :
    Reads skipAnyExponent (exponentText e ++ cs) (.ok ()) cs := by
  refine .bind (reads_peek _) ?_
  cases e with
  | none =>
    split
    · exact absurd rfl (stop 'e' ‹_›).2.2.1
    · exact absurd rfl (stop 'E' ‹_›).2.2.2
    · exact .pure () cs
  | some e =>
    rcases e.head_text cs with letter | letter
    · rw [exponentText, letter]
      exact reads_skipExponent e stop
    · rw [exponentText, letter]
      exact reads_skipExponent e stop

theorem Numeral.reads_skipEnding (n : Numeral) {cs : List Char} (stop : EndsNumber cs) :
    Reads skipEnding (n.ending ++ cs) (.ok ()) cs := by
  have last := reads_skipAnyExponent n.exponent stop
  unfold ending
  cases n.fraction with
  | some ds =>
    rw [fractionText, List.append_assoc]
    refine .bind (reads_peek _) (.bind (reads_skip '.' _) ?_)
    refine .bind (ds.reads_digits fun c first => (exponentText_head n.exponent stop c first).1) ?_
    rw [if_neg (by simpa using ds.some)]
    exact last
  | none =>
    refine .bind (reads_peek _) ?_
    split
    · exact absurd rfl (exponentText_head n.exponent stop '.' ‹_›).2
    · exact last

theorem reads_skipNumber (n : Numeral) {cs : List Char} (stop : EndsNumber cs) :
    Reads skipNumber (n.unsigned ++ cs) (.ok ()) cs := by
  obtain ⟨c, later, shape, digit⟩ := n.whole.exists_cons
  refine .bind (reads_peek _) ?_
  have first : (n.unsigned ++ cs).head? = some c := by rw [Numeral.unsigned, shape]; rfl
  rw [first]
  dsimp only
  rw [if_neg (by simp [digit])]
  exact .bind (.map (fun _ => ()) (n.reads_wholePart (by rw [shape]; rfl) stop)) (n.reads_skipEnding stop)

end Detype.Json
