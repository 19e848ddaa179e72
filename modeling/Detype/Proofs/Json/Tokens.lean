import Detype.Json.Reader
import Mathlib.Data.List.Chain

/-
**JSON values and their tokens.**

* `Part`, `Numeral`, `Word` — how strings, numbers and words are written; every spelling that JSON allows.
* `decode` — the characters of a string, or why it has none.
* `Value` — a JSON value, its scalars as they are written.
* `Value.tokens` — its tokens; `Token.text` — a token as text.
* `Fits`, `sentence_tokens` — what can stand beside what, and that it does among the tokens of a value.
-/

namespace Detype.Json

open Reader

/-! ### Scalars as they are written -/

/-- A part of a string: a character, an escape of one character, or one of four digits. -/
inductive Part where
  | char (c : Char) (plain : c ≠ '"' ∧ c ≠ '\\' ∧ 32 ≤ c.toNat)
  | short (c d : Char) (known : shortEscape? c = some d)
  | unit (digits : List Char) (four : digits.length = 4) (values : List Nat)
      (valid : digits.mapM hexValue? = some values)

def Part.text : Part → List Char
  | char c _ => [c]
  | short c _ _ => ['\\', c]
  | unit digits _ _ _ => '\\' :: 'u' :: digits

/-- The inside of a string as text. -/
def partsText (parts : List Part) : List Char := parts.flatMap Part.text

/-- The number of four hexadecimal digits. -/
def codeUnit (values : List Nat) : Nat := values.foldl (fun n d => 16 * n + d) 0

/-- The characters of a string. Escapes of surrogates have to come in pairs. -/
def decode : List Part → Except Fault (List Char)
  | [] => .ok []
  | .char c _ :: ps => (decode ps).map (c :: ·)
  | .short _ d _ :: ps => (decode ps).map (d :: ·)
  | .unit _ _ values _ :: ps =>
    let n := codeUnit values
    if 0xDC00 ≤ n && n ≤ 0xDFFF then .error .loneSurrogate
    else if n < 0xD800 || 0xDBFF < n then (decode ps).map (Char.ofNat n :: ·)
    else
      match ps with
      | .unit _ _ values _ :: ps =>
        let low := codeUnit values
        if low < 0xDC00 || 0xDFFF < low then .error .loneSurrogate
        else (decode ps).map (Char.ofNat ((n - 0xD800) * 1024 + (low - 0xDC00) + 0x10000) :: ·)
      | _ => .error .unfinishedSurrogate

/-- A run of decimal digits. -/
structure Digits where
  chars : List Char
  some : chars ≠ []
  valid : ∀ c ∈ chars, isDigit c = true

/-- The exponent of a number: its letter, its sign and its digits. -/
structure Exponent where
  letter : Char
  isLetter : letter = 'e' ∨ letter = 'E'
  sign : Option Char
  isSign : ∀ c ∈ sign, c = '-' ∨ c = '+'
  digits : Digits

def Exponent.text (e : Exponent) : List Char := e.letter :: e.sign.toList ++ e.digits.chars

theorem Exponent.text_append (e : Exponent) (cs : List Char) :
    e.text ++ cs = e.letter :: (e.sign.toList ++ (e.digits.chars ++ cs)) := by simp [text]

/-- A number as it is written: no zero stands before other digits. -/
structure Numeral where
  negative : Bool
  whole : Digits
  short : whole.chars.head? = some '0' → whole.chars = ['0']
  fraction : Option Digits
  exponent : Option Exponent

def fractionText : Option Digits → List Char
  | some ds => '.' :: ds.chars
  | none => []

def exponentText : Option Exponent → List Char
  | some e => e.text
  | none => []

/-- What follows the whole part of a number. -/
def Numeral.ending (n : Numeral) : List Char := fractionText n.fraction ++ exponentText n.exponent

/-- A number after its sign. -/
def Numeral.unsigned (n : Numeral) : List Char := n.whole.chars ++ n.ending

def Numeral.text (n : Numeral) : List Char := if n.negative then '-' :: n.unsigned else n.unsigned

inductive Word where
  | null
  | true
  | false
deriving DecidableEq

def Word.text : Word → List Char
  | null => ['n', 'u', 'l', 'l']
  | true => ['t', 'r', 'u', 'e']
  | false => ['f', 'a', 'l', 's', 'e']

/-! ### Tokens -/

/-- A token, given what is known of strings. -/
inductive Token (σ : Type) where
  | opening (f : Frame)
  | closing (f : Frame)
  | comma
  | colon
  | word (w : Word)
  | number (n : Numeral)
  | string (s : σ)

namespace Token

def opener : Frame → Char
  | .list => '['
  | .object => '{'

def closer : Frame → Char
  | .list => ']'
  | .object => '}'

def text : Token (List Part) → List Char
  | opening f => [opener f]
  | closing f => [closer f]
  | comma => [',']
  | colon => [':']
  | word w => w.text
  | number n => n.text
  | string parts => '"' :: partsText parts ++ ['"']

theorem string_text_append (parts : List Part) (cs : List Char) :
    (string parts).text ++ cs = '"' :: (partsText parts ++ '"' :: cs) := by simp [text]

/-- What a token says: of a string only its characters count. -/
def meaning : Token (List Part) → Token (Except Fault (List Char))
  | opening f => opening f
  | closing f => closing f
  | comma => comma
  | colon => colon
  | word w => word w
  | number n => number n
  | string parts => string (decode parts)

/-- What can stand beside what: no closing bracket after a comma or a colon, and after a word or a number only a comma
or a closing bracket. -/
def Fits {σ : Type} : Token σ → Token σ → Prop
  | comma, closing _ | colon, closing _ => False
  | word _, closing _ | word _, comma => True
  | word _, _ => False
  | number _, closing _ | number _, comma => True
  | number _, _ => False
  | _, _ => True

/-- A token with which a value can begin. -/
def Begins {σ : Type} : Token σ → Prop
  | closing _ | comma | colon => False
  | _ => True

/-- A token with which a value can end. -/
def Ends {σ : Type} : Token σ → Prop
  | opening _ | comma | colon => False
  | _ => True

end Token

/-! ### Values -/

/-- A JSON value, its scalars as they are written. -/
inductive Value where
  | word (w : Word)
  | number (n : Numeral)
  | string (parts : List Part)
  | array (items : List Value)
  | object (entries : List (List Part × Value))

mutual

/-- The tokens of a value. -/
def Value.tokens : Value → List (Token (List Part))
  | .word w => [.word w]
  | .number n => [.number n]
  | .string parts => [.string parts]
  | .array items => .opening .list :: itemTokens items ++ [.closing .list]
  | .object entries => .opening .object :: entryTokens entries ++ [.closing .object]

/-- Values with commas between them. -/
def itemTokens : List Value → List (Token (List Part))
  | [] => []
  | v :: vs => v.tokens ++ moreItems vs

/-- Values with a comma before each. -/
def moreItems : List Value → List (Token (List Part))
  | [] => []
  | v :: vs => .comma :: v.tokens ++ moreItems vs

/-- Keys and values with commas between them. -/
def entryTokens : List (List Part × Value) → List (Token (List Part))
  | [] => []
  | (key, v) :: es => .string key :: .colon :: v.tokens ++ moreEntries es

/-- Keys and values with a comma before each. -/
def moreEntries : List (List Part × Value) → List (Token (List Part))
  | [] => []
  | (key, v) :: es => .comma :: .string key :: .colon :: v.tokens ++ moreEntries es

end

/-! ### Neighbours -/

/-- Tokens that fit beside each other, from the beginning of a value to the end of one. -/
structure Sentence (ts : List (Token (List Part))) : Prop where
  chain : ts.IsChain Token.Fits
  some : ts ≠ []
  begins : ∀ t ∈ ts.head?, t.Begins
  ends : ∀ t ∈ ts.getLast?, t.Ends

namespace Sentence

variable {ts us : List (Token (List Part))}

theorem singleton {t : Token (List Part)} (begins : t.Begins) (ends : t.Ends) : Sentence [t] := by
  refine ⟨List.isChain_singleton t, by simp, fun u first => ?_, fun u last => ?_⟩
  · cases first
    exact begins
  · cases last
    exact ends

/-- After the end of a value, a comma or a closing bracket fits. -/
theorem fits_after {t : Token (List Part)} (ends : t.Ends) : t.Fits .comma ∧ ∀ f, t.Fits (.closing f) := by
  cases t <;> first | exact absurd ends id | exact ⟨trivial, fun _ => trivial⟩

/-- Before the beginning of a value, whatever is no word and no number fits. -/
theorem fits_before {t : Token (List Part)} (begins : t.Begins) :
    (∀ f, Token.Fits (.opening f) t) ∧ Token.Fits .comma t ∧ Token.Fits .colon t := by
  cases t <;> first | exact absurd begins id | exact ⟨fun _ => trivial, trivial, trivial⟩

theorem comma (first : Sentence ts) (later : Sentence us) : Sentence (ts ++ .comma :: us) := by
  refine ⟨?_, by simp, fun t head => ?_, fun t last => ?_⟩
  · refine List.isChain_append.mpr ⟨first.chain, ?_, fun t last u head => ?_⟩
    · exact List.IsChain.cons later.chain fun t head => (fits_before (later.begins t head)).2.1
    · cases head
      exact (fits_after (first.ends t last)).1
  · rw [List.head?_append_of_ne_nil _ first.some] at head
    exact first.begins t head
  · refine later.ends t ?_
    obtain ⟨u, us, rfl⟩ := List.exists_cons_of_ne_nil later.some
    rw [List.getLast?_append, List.getLast?_cons_cons, List.getLast?_cons] at last
    rw [List.getLast?_cons]
    exact last

theorem entry (v : Sentence ts) (key : List Part) : Sentence (.string key :: .colon :: ts) := by
  refine ⟨?_, by simp, fun t head => ?_, fun t last => ?_⟩
  · refine List.IsChain.cons (List.IsChain.cons v.chain fun t head => (fits_before (v.begins t head)).2.2)
      fun t head => ?_
    cases head
    trivial
  · cases head
    trivial
  · refine v.ends t ?_
    obtain ⟨u, us, rfl⟩ := List.exists_cons_of_ne_nil v.some
    rwa [List.getLast?_cons_cons, List.getLast?_cons_cons] at last

theorem bracket (f : Frame) (inside : Sentence ts) : Sentence (.opening f :: ts ++ [.closing f]) := by
  refine ⟨?_, by simp, fun t head => ?_, fun t last => ?_⟩
  · refine List.isChain_append.mpr ⟨?_, List.isChain_singleton _, fun t last u head => ?_⟩
    · exact List.IsChain.cons inside.chain fun t head => (fits_before (inside.begins t head)).1 f
    · cases head
      obtain ⟨v, vs, rfl⟩ := List.exists_cons_of_ne_nil inside.some
      rw [List.getLast?_cons_cons] at last
      exact (fits_after (inside.ends t last)).2 f
  · cases head
    trivial
  · rw [List.getLast?_concat] at last
    cases last
    trivial

theorem empty (f : Frame) : Sentence [.opening f, .closing f] := by
  refine ⟨?_, by simp, fun t head => ?_, fun t last => ?_⟩
  · exact List.IsChain.cons (List.isChain_singleton _) fun t head => by cases head; trivial
  · cases head
    trivial
  · cases last
    trivial

end Sentence

mutual

/-- **The tokens of a value fit beside each other.** -/
theorem sentence_tokens : (v : Value) → Sentence v.tokens
  | .word w => by
    rw [Value.tokens]
    exact .singleton trivial trivial
  | .number n => by
    rw [Value.tokens]
    exact .singleton trivial trivial
  | .string parts => by
    rw [Value.tokens]
    exact .singleton trivial trivial
  | .array [] => by
    rw [Value.tokens, itemTokens]
    exact .empty .list
  | .array (v :: vs) => by
    rw [Value.tokens, itemTokens]
    exact .bracket .list (sentence_moreItems vs (sentence_tokens v))
  | .object [] => by
    rw [Value.tokens, entryTokens]
    exact .empty .object
  | .object ((key, v) :: es) => by
    rw [Value.tokens, entryTokens]
    exact .bracket .object (sentence_moreEntries es ((sentence_tokens v).entry key))

theorem sentence_moreItems : (vs : List Value) → {ts : List (Token (List Part))} → Sentence ts →
    Sentence (ts ++ moreItems vs)
  | [], _, first => by rwa [moreItems, List.append_nil]
  | v :: vs, ts, first => by
    have next := sentence_moreItems vs (first.comma (sentence_tokens v))
    rwa [List.append_assoc] at next

theorem sentence_moreEntries : (es : List (List Part × Value)) → {ts : List (Token (List Part))} → Sentence ts →
    Sentence (ts ++ moreEntries es)
  | [], _, first => by rwa [moreEntries, List.append_nil]
  | (key, v) :: es, ts, first => by
    have next := sentence_moreEntries es (first.comma ((sentence_tokens v).entry key))
    rwa [List.append_assoc] at next

end

end Detype.Json
