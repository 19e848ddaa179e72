import Detype.Proofs.Json.Lexemes

/-
**Readers that see only tokens.**

Two texts of the same tokens differ in their blanks and in how their strings are written. A reader that goes from
token to token cannot tell them apart: it gives the same value for both or fails with the same fault.

* `Agree` — two readers give the same on related texts and leave related texts; rules for its parts.
* `Spaced`, `Aligned` — tokens with blanks around them, and texts of the same tokens; `Seen` — such texts where a
  token is next, by its first character.
* `peekToken_agree` and those after it — one lemma for each reader.
* `fields_agree`, `ignored_agree` — the readers that repeat, with a turn for each token.
-/

namespace Detype.Json

open Reader

/-! ### Agreement -/

/-- A relation between what is left of two texts. -/
abbrev Relation := List Char → List Char → Prop

section Agreement

variable {α β : Type} {P : Relation} {Q : α → Relation}

/-- Both results are failures with the same fault, or values that are equal, and related texts are left. -/
def Both (Q : α → Relation) : Except Failure (α × Cursor) → Except Failure (α × Cursor) → Prop
  | .ok (a, s), .ok (a', s') => a = a' ∧ Q a s.rest s'.rest
  | .error f, .error f' => f.fault = f'.fault
  | _, _ => False

theorem Both.cases {x y : Except Failure (α × Cursor)} (both : Both Q x y) :
    (∃ a s s', x = .ok (a, s) ∧ y = .ok (a, s') ∧ Q a s.rest s'.rest) ∨
      ∃ f f', x = .error f ∧ y = .error f' ∧ f.fault = f'.fault := by
  match x, y with
  | .ok (a, s), .ok (a', s') =>
    obtain ⟨rfl, left⟩ := both
    exact .inl ⟨a, s, s', rfl, rfl, left⟩
  | .error f, .error f' => exact .inr ⟨f, f', rfl, rfl, both⟩

/-- On related texts, two readers give the same and leave related texts, or fail with the same fault. -/
def Agree (P : Relation) (r r' : Reader α) (Q : α → Relation) : Prop :=
  ∀ s s', P s.rest s'.rest → Both Q (r s) (r' s')

namespace Agree

variable {r r' : Reader α}

protected theorem pure (a : α) (kept : ∀ cs cs', P cs cs' → Q a cs cs') : Agree P (pure a) (pure a) Q :=
  fun s s' related => ⟨rfl, kept s.rest s'.rest related⟩

theorem bind {f f' : α → Reader β} {R : β → Relation} (first : Agree P r r' Q)
    (next : ∀ a, Agree (Q a) (f a) (f' a) R) : Agree P (r >>= f) (r' >>= f') R := by
  intro s s' related
  show Both R (r s >>= fun p => f p.1 p.2) (r' s' >>= fun p => f' p.1 p.2)
  rcases (first s s' related).cases with ⟨a, t, t', given, given', left⟩ | ⟨f, f', given, given', same⟩
  · rw [given, given']
    exact next a t t' left
  · rw [given, given']
    exact same

theorem map {R : β → Relation} (g : α → β) (first : Agree P r r' Q) (kept : ∀ a cs cs', Q a cs cs' → R (g a) cs cs') :
    Agree P (g <$> r) (g <$> r') R :=
  bind first fun a => .pure (g a) (kept a)

/-- Less can be known before, and more after. -/
theorem weaken {P' : Relation} {Q' : α → Relation} (agree : Agree P r r' Q) (before : ∀ cs cs', P' cs cs' → P cs cs')
    (after : ∀ a cs cs', Q a cs cs' → Q' a cs cs') : Agree P' r r' Q' := by
  intro s s' related
  rcases (agree s s' (before _ _ related)).cases with ⟨a, t, t', given, given', left⟩ | ⟨f, f', given, given', same⟩
  · rw [given, given']
    exact ⟨rfl, after a _ _ left⟩
  · rw [given, given']
    exact same

theorem failHere (fault : Fault) : Agree P (failHere fault) (failHere fault) Q := fun _ _ _ => rfl

theorem failNext (fault : Fault) : Agree P (failNext fault) (failNext fault) Q := fun _ _ _ => rfl

theorem failNext_bind (fault : Fault) (f f' : β → Reader α) :
    Agree P (Reader.failNext fault >>= f) (Reader.failNext fault >>= f') Q := fun _ _ _ => rfl

/-- Readers that look at the cursor, each at its own. -/
theorem get {f f' : Cursor → Reader α} (next : ∀ s s', P s.rest s'.rest → Both Q (f s s) (f' s' s')) :
    Agree P (MonadState.get >>= f) (MonadState.get >>= f') Q := next

/-- Readers agree if they make the same of related texts. -/
theorem of_reads (given : ∀ cs cs', P cs cs' → ∃ x left left', Reads r cs x left ∧ Reads r' cs' x left' ∧
      ∀ a, x = .ok a → Q a left left') : Agree P r r' Q := by
  rintro ⟨cs, offset⟩ ⟨cs', offset'⟩ related
  obtain ⟨x, left, left', reads, reads', kept⟩ := given cs cs' related
  cases x with
  | ok a =>
    obtain ⟨reached, result⟩ := reads offset
    obtain ⟨reached', result'⟩ := reads' offset'
    rw [result, result']
    exact ⟨rfl, kept a rfl⟩
  | error fault =>
    obtain ⟨reached, result⟩ := reads offset
    obtain ⟨reached', result'⟩ := reads' offset'
    rw [result, result']
    exact rfl

end Agree

end Agreement

/-! ### Texts of the same tokens -/

/-- What follows a token does not continue it. -/
def Token.Apart : Token (List Part) → List Char → Prop
  | .number _, cs => EndsNumber cs
  | _, _ => True

/-- A text of tokens with blanks around them. -/
inductive Spaced : List Char → List (Token (List Part)) → Prop
  | done {blanks : List Char} (all : ∀ c ∈ blanks, isSpace c = true) : Spaced blanks []
  | token {blanks cs : List Char} {t : Token (List Part)} {ts : List (Token (List Part))}
      (all : ∀ c ∈ blanks, isSpace c = true) (apart : t.Apart cs) (later : Spaced cs ts) :
      Spaced (blanks ++ (t.text ++ cs)) (t :: ts)

/-- Two texts of the same tokens, which are fewer than `n`. -/
def Aligned (n : Nat) (cs cs' : List Char) : Prop :=
  ∃ ts ts', Spaced cs ts ∧ Spaced cs' ts' ∧ ts.map Token.meaning = ts'.map Token.meaning ∧ ts.length < n

/-- Two texts that begin with a token that says the same. -/
inductive Standing (n : Nat) : Token (List Part) → Token (List Part) → List Char → List Char → Prop
  | intro {t t' : Token (List Part)} {cs cs' : List Char} (same : t.meaning = t'.meaning) (apart : t.Apart cs)
      (apart' : t'.Apart cs') (later : Aligned (n - 1) cs cs') : Standing n t t' (t.text ++ cs) (t'.text ++ cs')

/-- Two texts of the same tokens of which the first character that is no blank was seen. -/
def Seen (n : Nat) : Option Char → Relation
  | some c, cs, cs' => ∃ t t', t.text.head? = some c ∧ Standing n t t' cs cs'
  | none, cs, cs' => Aligned n cs cs'

theorem Aligned.mono {m n : Nat} (le : m ≤ n) {cs cs' : List Char} (aligned : Aligned m cs cs') : Aligned n cs cs' := by
  obtain ⟨ts, ts', spaced, spaced', same, few⟩ := aligned
  exact ⟨ts, ts', spaced, spaced', same, by omega⟩

/-- There are not fewer than no tokens. -/
theorem Agree.of_zero {α : Type} {r r' : Reader α} {n : Nat} (zero : n = 0) {Q : α → Relation} :
    Agree (Aligned n) r r' Q := by
  rintro s s' ⟨ts, ts', _, _, _, few⟩
  omega

theorem Seen.mono {m n : Nat} (le : m ≤ n) {c : Option Char} {cs cs' : List Char} (seen : Seen m c cs cs') :
    Seen n c cs cs' := by
  cases c with
  | none => exact Aligned.mono le seen
  | some c =>
    obtain ⟨t, t', first, same, apart, apart', later⟩ := seen
    exact ⟨t, t', first, same, apart, apart', later.mono (Nat.sub_le_sub_right le 1)⟩

theorem Standing.aligned {n : Nat} {t t' : Token (List Part)} {cs cs' : List Char} (standing : Standing n t t' cs cs') :
    Aligned n cs cs' := by
  obtain ⟨same, apart, apart', later⟩ := standing
  obtain ⟨ts, ts', spaced, spaced', sames, few⟩ := later
  have none : ∀ c ∈ ([] : List Char), isSpace c = true := by simp
  refine ⟨t :: ts, t' :: ts', .token none apart spaced, .token none apart' spaced', ?_, ?_⟩
  · rw [List.map_cons, List.map_cons, same, sames]
  · rw [List.length_cons]
    omega

theorem Seen.aligned {n : Nat} {c : Option Char} {cs cs' : List Char} (seen : Seen n c cs cs') : Aligned n cs cs' := by
  cases c with
  | none => exact seen
  | some c =>
    obtain ⟨t, t', _, standing⟩ := seen
    exact standing.aligned

/-! ### The first character of a token -/

/-- Tokens that say the same are the same, or are strings of the same characters. -/
theorem Token.eq_or_string {t t' : Token (List Part)} (same : t.meaning = t'.meaning) :
    t = t' ∨ ∃ parts parts', t = .string parts ∧ t' = .string parts' ∧ decode parts = decode parts' := by
  cases t with
  | string parts =>
    cases t' with
    | string parts' => exact .inr ⟨parts, parts', rfl, rfl, Token.string.inj same⟩
    | _ => cases same
  | _ =>
    cases t' with
    | string => cases same
    | _ => cases same <;> exact .inl rfl

theorem Numeral.text_cases (n : Numeral) :
    n.text = '-' :: n.unsigned ∨ n.text = n.unsigned ∧ ∃ c later, n.unsigned = c :: later ∧ isDigit c = true := by
  rw [text]
  split
  · exact .inl rfl
  · obtain ⟨c, later, shape, digit⟩ := n.whole.exists_cons
    exact .inr ⟨rfl, c, later ++ n.ending, by rw [unsigned, shape]; rfl, digit⟩

/-- The characters that are tokens by themselves. -/
def marks : List Char := ['[', '{', ']', '}', ',', ':']

/-- The characters that words begin with. -/
def letters : List Char := ['n', 't', 'f']

/-- What a token can begin with: a mark is all of it, a letter belongs to a word, and so on. -/
inductive Token.Starts : Token (List Part) → Char → Prop
  | mark {t : Token (List Part)} {c : Char} (isMark : c ∈ marks) (text : t.text = [c]) : Starts t c
  | word (w : Word) {c : Char} (first : w.text.head? = some c) : Starts (.word w) c
  | minus {n : Numeral} (text : n.text = '-' :: n.unsigned) : Starts (.number n) '-'
  | digit {n : Numeral} {c : Char} {later : List Char} (isDigit : isDigit c = true) (text : n.text = n.unsigned)
      (shape : n.unsigned = c :: later) : Starts (.number n) c
  | quote (parts : List Part) : Starts (.string parts) '"'

theorem Token.starts {t : Token (List Part)} {c : Char} (first : t.text.head? = some c) : t.Starts c := by
  cases t with
  | opening f => cases f <;> cases first <;> exact .mark (by decide) rfl
  | closing f => cases f <;> cases first <;> exact .mark (by decide) rfl
  | comma => cases first; exact .mark (by decide) rfl
  | colon => cases first; exact .mark (by decide) rfl
  | word w => exact .word w first
  | number n =>
    rcases n.text_cases with text | ⟨text, d, later, shape, digit⟩
    · rw [Token.text, text] at first
      cases first
      exact .minus text
    · rw [Token.text, text, shape] at first
      cases first
      exact .digit digit text shape
  | string parts => cases first; exact .quote parts

theorem Word.head_mem {w : Word} {c : Char} (first : w.text.head? = some c) : c ∈ letters := by
  cases w <;> cases first <;> decide

theorem isDigit_of_mark {c : Char} (isMark : c ∈ marks) : isDigit c = false := by
  simp only [marks, List.mem_cons, List.not_mem_nil, or_false] at isMark
  rcases isMark with rfl | rfl | rfl | rfl | rfl | rfl <;> decide

theorem isDigit_of_letter {c : Char} (isLetter : c ∈ letters) : isDigit c = false := by
  simp only [letters, List.mem_cons, List.not_mem_nil, or_false] at isLetter
  rcases isLetter with rfl | rfl | rfl <;> decide

theorem not_mark_of_letter {c : Char} (isLetter : c ∈ letters) : c ∉ marks := by
  simp only [letters, List.mem_cons, List.not_mem_nil, or_false] at isLetter
  rcases isLetter with rfl | rfl | rfl <;> decide

theorem Token.Starts.not_blank {t : Token (List Part)} {c : Char} (starts : t.Starts c) : isSpace c = false := by
  have listed : ∀ d ∈ marks, isSpace d = false := by simp [marks, isSpace]
  cases starts with
  | mark isMark text => exact listed c isMark
  | word w first =>
    have letter := Word.head_mem first
    simp only [letters, List.mem_cons, List.not_mem_nil, or_false] at letter
    rcases letter with rfl | rfl | rfl <;> decide
  | minus text => decide
  | digit isDigit text shape =>
    refine Bool.eq_false_iff.mpr fun blank => ?_
    simp only [isSpace, Bool.or_eq_true, beq_iff_eq] at blank
    rcases blank with ((rfl | rfl) | rfl) | rfl <;> exact absurd isDigit (by decide)
  | quote parts => decide

theorem Token.text_eq_cons (t : Token (List Part)) : ∃ c later, t.text = c :: later ∧ isSpace c = false := by
  have some : t.text ≠ [] := by
    cases t with
    | opening f | closing f | comma | colon | string parts => exact List.cons_ne_nil _ _
    | word w => cases w <;> exact List.cons_ne_nil _ _
    | number n =>
      rcases n.text_cases with text | ⟨text, d, later, shape, digit⟩
      · rw [Token.text, text]
        exact List.cons_ne_nil _ _
      · rw [Token.text, text, shape]
        exact List.cons_ne_nil _ _
  obtain ⟨c, later, text⟩ := List.exists_cons_of_ne_nil some
  exact ⟨c, later, text, (Token.starts (by rw [text]; rfl)).not_blank⟩

/-- Readers that agree on texts of the same tokens do so where a token was seen. -/
theorem Agree.of_seen {α : Type} {r r' : Reader α} {n : Nat} {c : Option Char} {Q : α → Relation}
    (agree : Agree (Aligned n) r r' Q) : Agree (Seen n c) r r' Q :=
  agree.weaken (fun _ _ seen => seen.aligned) fun _ _ _ left => left

/-- That a token was taken need not be remembered. -/
theorem Agree.forget {α : Type} {r r' : Reader α} {n : Nat} {P : Relation}
    (agree : Agree P r r' fun _ => Aligned (n - 1)) : Agree P r r' fun _ => Aligned n :=
  agree.weaken (fun _ _ related => related) fun _ _ _ left => left.mono (Nat.sub_le n 1)

theorem Spaced.length_le {cs : List Char} {ts : List (Token (List Part))} (spaced : Spaced cs ts) :
    ts.length ≤ cs.length := by
  induction spaced with
  | done => exact Nat.zero_le _
  | @token blanks cs t ts all apart later ih =>
    obtain ⟨c, more, text, _⟩ := t.text_eq_cons
    rw [text]
    simp only [List.length_cons, List.length_append]
    omega

theorem Aligned.within {n : Nat} {cs cs' : List Char} (aligned : Aligned n cs cs') :
    ∃ m, m ≤ n ∧ m ≤ cs.length + 1 ∧ m ≤ cs'.length + 1 ∧ Aligned m cs cs' := by
  obtain ⟨ts, ts', spaced, spaced', same, few⟩ := aligned
  have long := spaced.length_le
  have long' := spaced'.length_le
  have lengths : ts.length = ts'.length := by simpa using congrArg List.length same
  exact ⟨ts.length + 1, few, by omega, by omega, ts, ts', spaced, spaced', same, Nat.lt_succ_self _⟩

/-! ### Reading one token -/

section Tokens

variable {n : Nat}

/-- After blanks, a token is seen by its first character. -/
theorem reads_peekToken_token {blanks : List Char} (all : ∀ c ∈ blanks, isSpace c = true) {t : Token (List Part)}
    {c : Char} (first : t.text.head? = some c) (cs : List Char) :
    Reads peekToken (blanks ++ (t.text ++ cs)) (.ok (some c)) (t.text ++ cs) := by
  have head : (t.text ++ cs).head? = some c := by rw [List.head?_append, first]; rfl
  have reads : Reads peekToken (blanks ++ (t.text ++ cs)) (.ok (t.text ++ cs).head?) (t.text ++ cs) := by
    refine reads_peekToken all fun d given => ?_
    rw [head] at given
    cases given
    exact (Token.starts first).not_blank
  rwa [head] at reads

theorem peekToken_agree : Agree (Aligned n) peekToken peekToken (Seen n) := by
  refine .of_reads fun cs cs' aligned => ?_
  obtain ⟨ts, ts', spaced, spaced', same, few⟩ := aligned
  cases spaced with
  | done all =>
    cases spaced' with
    | token => cases same
    | done all' =>
      have reads : Reads peekToken (cs ++ []) (.ok none) [] := reads_peekToken all (by simp)
      have reads' : Reads peekToken (cs' ++ []) (.ok none) [] := reads_peekToken all' (by simp)
      rw [List.append_nil] at reads reads'
      have nothing : Aligned n [] [] := ⟨[], [], .done (by simp), .done (by simp), rfl, few⟩
      exact ⟨_, _, _, reads, reads', fun a given => by cases given; exact nothing⟩
  | @token blanks cs t ts all apart later =>
    cases spaced' with
    | done => cases same
    | @token blanks' cs' t' ts' all' apart' later' =>
      obtain ⟨same, sames⟩ := List.cons.inj same
      obtain ⟨c, more, text, _⟩ := t.text_eq_cons
      have first : t.text.head? = some c := by rw [text]; rfl
      have first' : t'.text.head? = some c := by
        rcases Token.eq_or_string same with rfl | ⟨parts, parts', rfl, rfl, _⟩ <;> exact first
      have rest : Aligned (n - 1) cs cs' := ⟨ts, ts', later, later', sames, by
        rw [List.length_cons] at few
        omega⟩
      refine ⟨_, _, _, reads_peekToken_token all first cs, reads_peekToken_token all' first' cs', fun a given => ?_⟩
      cases given
      exact ⟨t, t', first, .intro same apart apart' rest⟩

/-- Where a token was seen, it can be looked at again. -/
theorem peek_agree {α : Type} {c : Char} {f f' : Option Char → Reader α} {Q : α → Relation}
    (next : Agree (Seen n (some c)) (f (some c)) (f' (some c)) Q) :
    Agree (Seen n (some c)) (peek >>= f) (peek >>= f') Q := by
  have looked : Agree (Seen n (some c)) peek peek fun d cs cs' => d = some c ∧ Seen n (some c) cs cs' := by
    refine .of_reads fun cs cs' seen => ?_
    have heads : cs.head? = some c ∧ cs'.head? = some c := by
      obtain ⟨t, t', first, same, apart, apart', later⟩ := seen
      rcases Token.eq_or_string same with rfl | ⟨parts, parts', rfl, rfl, _⟩
      · simp [List.head?_append, first]
      · cases first
        exact ⟨rfl, rfl⟩
    refine ⟨.ok (some c), cs, cs', heads.1 ▸ reads_peek cs, heads.2 ▸ reads_peek cs', ?_⟩
    rintro _ ⟨⟩
    exact ⟨rfl, seen⟩
  refine .bind looked fun d s s' given => ?_
  rw [given.1]
  exact next s s' given.2

/-- A token that begins with no quote is the same in both texts. -/
theorem Seen.exists_token {c : Char} {cs cs' : List Char} (seen : Seen n (some c) cs cs') (notQuote : c ≠ '"') :
    ∃ (t : Token (List Part)) (l l' : List Char), t.Starts c ∧ cs = t.text ++ l ∧ cs' = t.text ++ l' ∧
      t.Apart l ∧ t.Apart l' ∧ Aligned (n - 1) l l' := by
  obtain ⟨t, t', first, same, apart, apart', later⟩ := seen
  rcases Token.eq_or_string same with rfl | ⟨parts, parts', rfl, rfl, _⟩
  · exact ⟨t, _, _, Token.starts first, rfl, rfl, apart, apart', later⟩
  · cases first
    exact absurd rfl notQuote

theorem Token.Starts.text_of_mark {t : Token (List Part)} {c : Char} (starts : t.Starts c) (isMark : c ∈ marks) :
    t.text = [c] := by
  cases starts with
  | mark _ text => exact text
  | word w first => exact absurd isMark (not_mark_of_letter (Word.head_mem first))
  | minus text => exact absurd isMark (by decide)
  | digit isDigit text shape => exact absurd isDigit (by simp [isDigit_of_mark isMark])
  | quote parts => exact absurd isMark (by decide)

theorem skip_mark_agree {c : Char} (isMark : c ∈ marks) :
    Agree (Seen n (some c)) skip skip fun _ => Aligned (n - 1) := by
  refine .of_reads fun cs cs' seen => ?_
  obtain ⟨t, l, l', starts, rfl, rfl, _, _, later⟩ := seen.exists_token (by rintro rfl; exact absurd isMark (by decide))
  rw [starts.text_of_mark isMark]
  exact ⟨.ok (), l, l', reads_skip c l, reads_skip c l', fun _ _ => later⟩

/-- Two texts that begin with the rest of a word. -/
def AtWord (n : Nat) (w : List Char) (cs cs' : List Char) : Prop :=
  ∃ l l', cs = w ++ l ∧ cs' = w ++ l' ∧ Aligned n l l'

theorem Token.Starts.eq_word {t : Token (List Part)} {c : Char} (starts : t.Starts c) {w : Word}
    (first : w.text.head? = some c) : t = .word w := by
  have letter := Word.head_mem first
  cases starts with
  | mark isMark _ => exact absurd isMark (not_mark_of_letter letter)
  | word v first' =>
    congr
    cases w <;> cases first <;> cases v <;> cases first' <;> rfl
  | minus _ => exact absurd letter (by decide)
  | digit isDigit _ _ => exact absurd isDigit (by simp [isDigit_of_letter letter])
  | quote parts => exact absurd letter (by decide)

theorem Token.Starts.text_of_letter {t : Token (List Part)} {c : Char} (starts : t.Starts c) {w : Word}
    {rest : List Char} (text : w.text = c :: rest) : t.text = c :: rest := by
  rw [starts.eq_word (by rw [text]; rfl)]
  exact text

theorem skip_letter_agree (w : Word) {c : Char} {rest : List Char} (text : w.text = c :: rest) :
    Agree (Seen n (some c)) skip skip fun _ => AtWord (n - 1) rest := by
  have notQuote : c ≠ '"' := by
    rintro rfl
    cases w <;> cases text
  refine .of_reads fun cs cs' seen => ?_
  obtain ⟨t, l, l', starts, rfl, rfl, _, _, later⟩ := seen.exists_token notQuote
  rw [starts.text_of_letter text]
  exact ⟨.ok (), rest ++ l, rest ++ l', reads_skip c _, reads_skip c _, fun _ _ => ⟨l, l', rfl, rfl, later⟩⟩

theorem word_agree (w : List Char) : Agree (AtWord n w) (word w) (word w) fun _ => Aligned n := by
  refine .of_reads fun cs cs' atWord => ?_
  obtain ⟨l, l', rfl, rfl, later⟩ := atWord
  exact ⟨.ok (), l, l', reads_word w l, reads_word w l', fun _ _ => later⟩

/-- Two texts that begin with the same number, after its sign. -/
def AtNumber (n : Nat) (cs cs' : List Char) : Prop :=
  ∃ (number : Numeral) (l l' : List Char), cs = number.unsigned ++ l ∧ cs' = number.unsigned ++ l' ∧
    EndsNumber l ∧ EndsNumber l' ∧ Aligned n l l'

theorem skip_minus_agree : Agree (Seen n (some '-')) skip skip fun _ => AtNumber (n - 1) := by
  refine .of_reads fun cs cs' seen => ?_
  obtain ⟨t, l, l', starts, rfl, rfl, apart, apart', later⟩ := seen.exists_token (by decide)
  cases starts with
  | mark isMark _ => exact absurd isMark (by decide)
  | word w first => exact absurd (Word.head_mem first) (by decide)
  | digit isDigit _ _ => exact absurd isDigit (by decide)
  | @minus number text =>
    rw [Token.text, text]
    exact ⟨.ok (), number.unsigned ++ l, number.unsigned ++ l', reads_skip '-' _, reads_skip '-' _,
      fun _ _ => ⟨number, l, l', rfl, rfl, apart, apart', later⟩⟩

theorem Seen.atNumber {c : Char} {cs cs' : List Char} (seen : Seen n (some c) cs cs') (digit : isDigit c = true) :
    AtNumber (n - 1) cs cs' := by
  have notQuote : c ≠ '"' := by
    rintro rfl
    exact absurd digit (by decide)
  obtain ⟨t, l, l', starts, rfl, rfl, apart, apart', later⟩ := seen.exists_token notQuote
  cases starts with
  | mark isMark _ => exact absurd digit (by simp [isDigit_of_mark isMark])
  | word w first => exact absurd digit (by simp [isDigit_of_letter (Word.head_mem first)])
  | minus _ => exact absurd digit (by decide)
  | @digit number _ _ _ text _ =>
    rw [Token.text, text]
    exact ⟨number, l, l', rfl, rfl, apart, apart', later⟩
  | quote parts => exact absurd rfl notQuote

theorem number_agree (negative : Bool) :
    Agree (AtNumber n) (number negative) (number negative) fun _ => Aligned n := by
  refine .of_reads fun cs cs' atNumber => ?_
  obtain ⟨m, l, l', rfl, rfl, ends, ends', later⟩ := atNumber
  obtain ⟨x, given⟩ := number_settles negative m
  exact ⟨x, l, l', given l ends, given l' ends', fun _ _ => later⟩

theorem skipNumber_agree : Agree (AtNumber n) skipNumber skipNumber fun _ => Aligned n := by
  refine .of_reads fun cs cs' atNumber => ?_
  obtain ⟨m, l, l', rfl, rfl, ends, ends', later⟩ := atNumber
  exact ⟨.ok (), l, l', reads_skipNumber m ends, reads_skipNumber m ends', fun _ _ => later⟩

/-- Strings that are next say the same. -/
theorem Seen.exists_strings {cs cs' : List Char} (seen : Seen n (some '"') cs cs') :
    ∃ parts parts' l l', cs = (Token.string parts).text ++ l ∧ cs' = (Token.string parts').text ++ l' ∧
      decode parts = decode parts' ∧ Aligned (n - 1) l l' := by
  obtain ⟨t, t', first, same, apart, apart', later⟩ := seen
  rcases Token.eq_or_string same with rfl | ⟨parts, parts', rfl, rfl, decoded⟩
  · cases Token.starts first with
    | mark isMark _ => exact absurd isMark (by decide)
    | word w letter => exact absurd (Word.head_mem letter) (by decide)
    | digit isDigit _ _ => exact absurd isDigit (by decide)
    | quote parts => exact ⟨parts, parts, _, _, rfl, rfl, rfl, later⟩
  · exact ⟨parts, parts', _, _, rfl, rfl, decoded, later⟩

theorem quoted_agree : Agree (Seen n (some '"')) Reader.quoted Reader.quoted fun _ => Aligned (n - 1) := by
  refine .of_reads fun cs cs' seen => ?_
  obtain ⟨parts, parts', l, l', rfl, rfl, decoded, later⟩ := seen.exists_strings
  exact ⟨_, l, l', reads_quoted parts l, decoded ▸ reads_quoted parts' l', fun _ _ => later⟩

theorem skipQuoted_agree : Agree (Seen n (some '"')) skipQuoted skipQuoted fun _ => Aligned (n - 1) := by
  refine .of_reads fun cs cs' seen => ?_
  obtain ⟨parts, parts', l, l', rfl, rfl, _, later⟩ := seen.exists_strings
  exact ⟨.ok (), l, l', reads_skipQuoted parts l, reads_skipQuoted parts' l', fun _ _ => later⟩

end Tokens

/-! ### Values and what stands between them -/

section Values

variable {α : Type} {n : Nat} {Q : α → Relation}

theorem valueStart_agree : Agree (Aligned n) valueStart valueStart fun c => Seen n (some c) := by
  refine .bind peekToken_agree fun c => ?_
  cases c with
  | some c => exact .pure c fun _ _ seen => seen
  | none => exact .failNext _

/-- A token of another type is read alike, and then both readers fail. -/
theorem unexpected_agree {c : Char} (expected : String) :
    Agree (Seen n (some c)) (unexpected expected) (unexpected expected) Q := by
  -- Whatever was found, both fail on account of it.
  have fails : ∀ (P : Relation) (found : Found), Agree P
      (failHere (.shape (.invalidType found expected))) (failHere (.shape (.invalidType found expected))) Q :=
    fun P found => .failHere _
  have anyway : ∀ {P : Relation} (found : Found), Agree P (pure found) (pure found) fun _ => P :=
    fun found => .pure found fun _ _ related => related
  refine peek_agree ?_
  split
  · next given =>
    cases given
    exact .bind (skip_letter_agree .null rfl) fun _ => .bind (word_agree _) fun _ => .bind (anyway _) (fails _)
  · next given =>
    cases given
    exact .bind (skip_letter_agree .true rfl) fun _ => .bind (word_agree _) fun _ => .bind (anyway _) (fails _)
  · next given =>
    cases given
    exact .bind (skip_letter_agree .false rfl) fun _ => .bind (word_agree _) fun _ => .bind (anyway _) (fails _)
  · next given =>
    cases given
    exact .bind skip_minus_agree fun _ => .bind (number_agree true) (fails _)
  · next given =>
    cases given
    exact .bind quoted_agree fun text => .bind (fails _ (.str text)) fun _ => .pure _ fun _ _ related => related
  · exact .bind (anyway _) (fails _)
  · exact .bind (anyway _) (fails _)
  · next given =>
    cases given
    split
    · next digit => exact .bind ((number_agree false).weaken (fun _ _ seen => seen.atNumber digit) fun _ _ _ left => left) (fails _)
    · exact .failNext_bind _ _ _
  · next given => cases given

theorem string_agree : Agree (Aligned n) string string fun _ => Aligned n := by
  refine .bind valueStart_agree fun c => ?_
  split
  · next quote =>
    rw [eq_of_beq quote]
    exact quoted_agree.forget
  · exact unexpected_agree _

/-- A word is read as a whole. -/
theorem wholeWord_agree {β : Type} (w : Word) {c : Char} {rest : List Char} (text : w.text = c :: rest) (b : β) :
    Agree (Seen n (some c)) (do skip; word rest; return b) (do skip; word rest; return b) fun _ => Aligned (n - 1) :=
  .bind (skip_letter_agree w text) fun _ => .bind (word_agree rest) fun _ => .pure b fun _ _ left => left

theorem boolean_agree : Agree (Aligned n) boolean boolean fun _ => Aligned n := by
  refine .bind valueStart_agree fun c => ?_
  split
  · exact (wholeWord_agree .true rfl true).forget
  · exact (wholeWord_agree .false rfl false).forget
  · exact unexpected_agree _

theorem optional_agree {value : Reader α} (agree : Agree (Aligned n) value value fun _ => Aligned n) :
    Agree (Aligned n) (optional value) (optional value) fun _ => Aligned n := by
  refine .bind peekToken_agree fun c => ?_
  split
  · exact (wholeWord_agree .null rfl none).forget
  · exact .map some agree.of_seen fun _ _ _ left => left

theorem colon_agree : Agree (Aligned n) colon colon fun _ => Aligned n := by
  refine .bind peekToken_agree fun c => ?_
  split
  · exact (skip_mark_agree (by decide)).forget
  · exact .failNext _
  · exact .failNext _

/-- Another key is next, or the end of the object. -/
theorem nextKey_agree (first : Bool) :
    Agree (Aligned n) (nextKey first) (nextKey first) fun more => Seen n (some (if more then '"' else '}')) := by
  refine .bind peekToken_agree fun c => ?_
  split
  · exact .failNext _
  · exact .pure false fun _ _ seen => seen
  · split
    · split
      · next quote =>
        rw [eq_of_beq quote]
        exact .pure true fun _ _ seen => seen
      · exact .failNext _
    · split
      · next comma =>
        rw [eq_of_beq comma]
        refine .bind (skip_mark_agree (by decide)) fun _ => .bind peekToken_agree fun d => ?_
        split
        · exact .pure true fun _ _ seen => seen.mono (Nat.sub_le n 1)
        · exact .failNext _
        · exact .failNext _
        · exact .failNext _
      · exact .failNext _

theorem nextElement_agree (first : Bool) :
    Agree (Aligned n) (nextElement first) (nextElement first) fun _ => Aligned n := by
  refine .bind peekToken_agree fun c => ?_
  split
  · exact .failNext _
  · exact .pure false fun _ _ seen => seen.aligned
  · split
    · exact .pure true fun _ _ seen => seen.aligned
    · split
      · next comma =>
        rw [eq_of_beq comma]
        refine .bind (skip_mark_agree (by decide)) fun _ => .bind peekToken_agree fun d => ?_
        split
        · exact .failNext _
        · exact .pure true fun _ _ seen => seen.aligned.mono (Nat.sub_le n 1)
        · exact .failNext _
      · exact .failNext _

theorem endList_agree : Agree (Aligned n) endList endList fun _ => Aligned n := by
  refine .bind peekToken_agree fun c => ?_
  split
  · exact (skip_mark_agree (by decide)).forget
  · refine .bind (skip_mark_agree (by decide)) fun _ => .bind peekToken_agree fun d => ?_
    split
    · exact .failNext _
    · exact .failNext _
  · exact .failNext _
  · exact .failNext _

theorem failInObject_agree (fault : Fault) : Agree (Aligned n) (failInObject fault) (failInObject fault) Q := by
  refine .bind peekToken_agree fun c => ?_
  split
  · exact .bind (skip_mark_agree (by decide)) fun _ => .failHere fault
  · exact .failHere fault

theorem failInList_agree (fault : Fault) : Agree (Aligned n) (failInList fault) (failInList fault) Q := by
  refine .bind peekToken_agree fun c => ?_
  split
  · exact .bind (skip_mark_agree (by decide)) fun _ => .failHere fault
  · exact .failHere fault

theorem finish_agree : Agree (Aligned n) finish finish fun _ => Aligned n := by
  refine .bind peekToken_agree fun c => ?_
  split
  · exact .pure () fun _ _ seen => seen
  · exact .failNext _

end Values

/-! ### Objects -/

section Objects

variable {σ : Type} {entry : σ → String → Reader σ}

/-- The entries of an object, with a turn for each token. -/
theorem fieldsWithin_agree
    (agree : ∀ n s key, Agree (Aligned n) (entry s key) (entry s key) fun _ => Aligned n)
    {n fuel fuel' : Nat} (enough : n ≤ fuel) (enough' : n ≤ fuel') (first : Bool) (s : σ) :
    Agree (Aligned n) (fieldsWithin entry fuel first s) (fieldsWithin entry fuel' first s) fun _ => Aligned n := by
  induction fuel generalizing n fuel' first s with
  | zero => exact .of_zero (by omega)
  | succ fuel ih =>
    cases fuel' with
    | zero => exact .of_zero (by omega)
    | succ fuel' =>
      refine .bind (nextKey_agree first) fun more => ?_
      cases more with
      | true =>
        refine .bind quoted_agree fun key => .bind (agree (n - 1) s key) fun t => ?_
        exact (ih (by omega) (by omega) false t).forget
      | false => exact .bind (skip_mark_agree (by decide)) fun _ => .pure s fun _ _ left => left.mono (Nat.sub_le n 1)

theorem fields_agree (agree : ∀ n s key, Agree (Aligned n) (entry s key) (entry s key) fun _ => Aligned n)
    {n : Nat} (s : σ) :
    Agree (Seen n (some '{')) (fields entry s) (fields entry s) fun _ => Aligned n := by
  refine .bind (skip_mark_agree (by decide)) fun _ => .get fun t t' aligned => ?_
  obtain ⟨m, le, enough, enough', within⟩ := aligned.within
  have whole := fieldsWithin_agree agree enough enough' true s
  exact whole.weaken (fun _ _ related => related) (fun _ _ _ left => left.mono (by omega)) t t' within

end Objects

/-! ### Values that are not wanted -/

section Ignored

variable {n : Nat}

theorem skipScalar_agree : Agree (Aligned n) skipScalar skipScalar fun _ => Aligned (n - 1) := by
  refine .bind valueStart_agree fun c => ?_
  split
  · exact wholeWord_agree .null rfl none
  · exact wholeWord_agree .true rfl none
  · exact wholeWord_agree .false rfl none
  · exact .bind skip_minus_agree fun _ => .bind skipNumber_agree fun _ => .pure none fun _ _ left => left
  · exact .bind skipQuoted_agree fun _ => .pure none fun _ _ left => left
  · exact .bind (skip_mark_agree (by decide)) fun _ => .pure _ fun _ _ left => left
  · exact .bind (skip_mark_agree (by decide)) fun _ => .pure _ fun _ _ left => left
  · split
    · next digit =>
      refine .bind (skipNumber_agree.weaken (fun _ _ seen => seen.atNumber digit) fun _ _ _ left => left) fun _ => ?_
      exact .pure none fun _ _ left => left
    · exact .failNext _

theorem closeFrames_agree (fuel : Nat) (started : Bool) (frames : List Frame) :
    Agree (Aligned n) (closeFrames fuel started frames) (closeFrames fuel started frames) fun _ => Aligned n := by
  induction fuel generalizing n started frames with
  | zero => exact .pure frames fun _ _ aligned => aligned
  | succ fuel ih =>
    cases frames with
    | nil => exact .pure [] fun _ _ aligned => aligned
    | cons frame frames =>
      refine .bind peekToken_agree fun c => ?_
      cases c with
      | none => exact .failNext _
      | some c =>
        dsimp only
        split
        · next comma =>
          obtain ⟨comma, _⟩ := Bool.and_eq_true_iff.mp comma
          rw [eq_of_beq comma]
          exact .bind (skip_mark_agree (by decide)) fun _ => .pure _ fun _ _ left => left.mono (Nat.sub_le n 1)
        · split
          · next closing =>
            have isMark : c ∈ marks := by
              simp only [Bool.or_eq_true, Bool.and_eq_true, beq_iff_eq] at closing
              rcases closing with ⟨rfl, _⟩ | ⟨rfl, _⟩ <;> decide
            exact .bind (skip_mark_agree isMark) fun _ => (ih true frames).forget
          · split
            · exact .failNext _
            · exact .pure _ fun _ _ seen => seen.aligned

theorem skipKey_agree : Agree (Aligned n) skipKey skipKey fun _ => Aligned n := by
  refine .bind peekToken_agree fun c => ?_
  split
  · exact .bind skipQuoted_agree fun _ => colon_agree.forget
  · exact .failNext_bind _ _ _
  · exact .failNext_bind _ _ _

theorem ignoredWithin_agree {fuel fuel' : Nat} (enough : n ≤ fuel) (enough' : n ≤ fuel') (frames : List Frame) :
    Agree (Aligned n) (ignoredWithin fuel frames) (ignoredWithin fuel' frames) fun _ => Aligned n := by
  induction fuel generalizing n fuel' frames with
  | zero => exact .of_zero (by omega)
  | succ fuel ih =>
    cases fuel' with
    | zero => exact .of_zero (by omega)
    | succ fuel' =>
      have later : ∀ frames, Agree (Aligned (n - 1)) (ignoredWithin fuel frames) (ignoredWithin fuel' frames)
          fun _ => Aligned n := fun frames => (ih (by omega) (by omega) frames).forget
      refine .bind skipScalar_agree fun opened => ?_
      cases opened
      case' some frame => refine .bind (closeFrames_agree _ false _) fun frames => ?_
      case' none => refine .bind (closeFrames_agree _ true _) fun frames => ?_
      -- What follows once the brackets that end here are closed.
      all_goals
        cases frames with
        | nil => exact .pure () fun _ _ left => left.mono (Nat.sub_le n 1)
        | cons frame frames =>
          cases frame with
          | object => exact .bind skipKey_agree fun _ => later _
          | list => exact later _

theorem ignored_agree : Agree (Aligned n) ignored ignored fun _ => Aligned n := by
  refine .get fun s s' aligned => ?_
  obtain ⟨m, le, enough, enough', within⟩ := aligned.within
  have whole := ignoredWithin_agree enough enough' []
  exact whole.weaken (fun _ _ related => related) (fun _ _ _ left => left.mono le) s s' within

end Ignored

/-- **Two texts of the same tokens are read alike**, places aside. -/
theorem run_agree {α : Type} {n : Nat} {r : Reader α} (agree : Agree (Aligned n) r r fun _ => Aligned n)
    {cs cs' : List Char} (aligned : Aligned n cs cs') :
    (r.run (String.ofList cs)).mapError Failure.fault = (r.run (String.ofList cs')).mapError Failure.fault := by
  have whole : Agree (Aligned n) (do let a ← r; finish; return a) (do let a ← r; finish; return a) fun _ => Aligned n :=
    .bind agree fun a => .bind finish_agree fun _ => .pure a fun _ _ left => left
  unfold Reader.run StateT.run'
  rw [String.toList_ofList, String.toList_ofList]
  rcases (whole ⟨cs, 0⟩ ⟨cs', 0⟩ aligned).cases with ⟨a, s, s', given, given', _⟩ | ⟨f, f', given, given', same⟩
  · rw [given, given']
    rfl
  · rw [given, given']
    exact congrArg Except.error same

end Detype.Json
