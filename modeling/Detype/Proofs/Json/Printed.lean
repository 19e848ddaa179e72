import Detype.Json.Render
import Detype.Proofs.Json.Data
import Mathlib.Data.List.Forall2

/-
**Values printed as JSON.**

What is printed of a value is JSON text, and that text says the value.

* `Laid` — a text of tokens with blanks between them.
* `exists_parts`, `exists_numeral` — strings and whole numbers are printed in a spelling that JSON has.
* `laid_bracketed` — items between brackets, each on a line of its own.
* `Proper.tells_pretty` — what is printed of a value says that value.
-/

namespace Detype.Json

open Reader

/-! ### Texts of tokens -/

/-- A text of tokens with blanks between them and at both ends. -/
def Laid (ts : List (Token (List Part))) (cs : List Char) : Prop :=
  ∃ ps : List Piece, (∀ p ∈ ps, p.Plain) ∧ ps.filterMap Piece.token? = ts ∧ ps.flatMap Piece.text = cs

namespace Laid

variable {ts us : List (Token (List Part))} {cs ds : List Char}

theorem nil : Laid [] [] := ⟨[], by simp, rfl, rfl⟩

theorem token (t : Token (List Part)) : Laid [t] t.text := by
  refine ⟨[.token t], fun p member => ?_, rfl, by simp [Piece.text]⟩
  rw [List.mem_singleton.mp member]
  trivial

theorem append (first : Laid ts cs) (later : Laid us ds) : Laid (ts ++ us) (cs ++ ds) := by
  obtain ⟨ps, plain, rfl, rfl⟩ := first
  obtain ⟨qs, plain', rfl, rfl⟩ := later
  refine ⟨ps ++ qs, fun p member => ?_, List.filterMap_append, List.flatMap_append⟩
  exact (List.mem_append.mp member).elim (plain p) (plain' p)

theorem cons (t : Token (List Part)) (later : Laid ts cs) : Laid (t :: ts) (t.text ++ cs) := (token t).append later

/-- Blanks are no tokens. -/
theorem blanks (all : ∀ c ∈ cs, isSpace c = true) (later : Laid ts ds) : Laid ts (cs ++ ds) := by
  induction cs with
  | nil => exact later
  | cons c cs ih =>
    obtain ⟨ps, plain, tokens, text⟩ := ih fun d member => all d (List.mem_cons_of_mem c member)
    refine ⟨.blank c (all c List.mem_cons_self) :: ps, List.forall_mem_cons.mpr ⟨trivial, plain⟩, tokens, ?_⟩
    rw [List.flatMap_cons, text]
    rfl

/-- Tokens of a value that are laid out make up JSON text of it. -/
theorem rendering {v : Value} (laid : Laid v.tokens cs) : ∃ r : Rendering v, r.Plain ∧ r.text = cs := by
  obtain ⟨ps, plain, tokens, text⟩ := laid
  refine ⟨{ pieces := ps, tokens_eq := tokens, placed := Piece.placed_of_plain False plain }, ⟨plain, rfl⟩, ?_⟩
  rw [Rendering.text, text]
  exact List.append_nil cs

end Laid

theorem Rendering.Plain.laid {v : Value} {r : Rendering v} (plain : r.Plain) : Laid v.tokens r.text := by
  refine ⟨r.pieces, plain.pieces, r.tokens_eq, ?_⟩
  rw [Rendering.text, plain.lastLine]
  exact (List.append_nil _).symm

theorem Tells.laid {text : String} {j : Json} (tells : Tells text j) :
    ∃ v : Value, v.data? = some j ∧ Laid v.tokens text.toList := by
  obtain ⟨v, r, plain, same, means⟩ := tells
  exact ⟨v, means, same ▸ plain.laid⟩

theorem tells_of_laid {v : Value} {text : String} {j : Json} (means : v.data? = some j)
    (laid : Laid v.tokens text.toList) : Tells text j := by
  obtain ⟨r, plain, same⟩ := laid.rendering
  exact ⟨v, r, plain, same, means⟩

/-- A line feed after a text makes no difference to what it says. -/
theorem Tells.line {text : String} {j : Json} (tells : Tells text j) : Tells (text ++ "\n") j := by
  obtain ⟨v, means, laid⟩ := tells.laid
  have feed : Laid [] ['\n'] := Laid.nil.blanks (List.forall_mem_singleton.mpr rfl)
  have longer := laid.append feed
  rw [List.append_nil] at longer
  exact tells_of_laid means (by rw [String.toList_append]; exact longer)

/-- A token with a blank after it. -/
theorem Laid.token_blank (t : Token (List Part)) {c : Char} (blank : isSpace c = true) : Laid [t] (t.text ++ [c]) :=
  .cons t (Laid.nil.blanks (List.forall_mem_singleton.mpr blank))

theorem isSpace_of_replicate {n : Nat} : ∀ c ∈ List.replicate n ' ', isSpace c = true := by
  intro c member
  rw [List.eq_of_mem_replicate member]
  rfl

theorem Laid.indent {ts : List (Token (List Part))} {cs : List Char} (level : Nat) (laid : Laid ts cs) :
    Laid ts ((indentation level).toList ++ cs) := by
  rw [indentation, String.toList_ofList]
  exact laid.blanks isSpace_of_replicate

/-! ### Strings -/

theorem hexValue?_hexDigit : ∀ n < 16, hexValue? (hexDigit n) = some n := by decide

/-- A control character is written by its number. -/
theorem exists_part_control {c : Char} (control : c.toNat < 32) :
    ∃ p : Part, p.text = '\\' :: 'u' :: ['0', '0', hexDigit (c.toNat / 16), hexDigit (c.toNat % 16)] ∧
      ∀ ps, decode (p :: ps) = (decode ps).map (c :: ·) := by
  have high : c.toNat / 16 < 16 := by omega
  have low : c.toNat % 16 < 16 := by omega
  have valid : ['0', '0', hexDigit (c.toNat / 16), hexDigit (c.toNat % 16)].mapM hexValue? =
      some [0, 0, c.toNat / 16, c.toNat % 16] := by
    simp only [List.mapM_cons, List.mapM_nil, hexValue?_hexDigit _ high, hexValue?_hexDigit _ low]
    rfl
  have number : codeUnit [0, 0, c.toNat / 16, c.toNat % 16] = c.toNat := by
    simp only [codeUnit, List.foldl]
    omega
  -- The number is none of a surrogate.
  have single : (decide (0xDC00 ≤ c.toNat) && decide (c.toNat ≤ 0xDFFF)) = false ∧
      (decide (c.toNat < 0xD800) || decide (0xDBFF < c.toNat)) = true := by
    constructor <;> simp <;> omega
  refine ⟨.unit _ rfl _ valid, rfl, fun ps => ?_⟩
  rw [decode.eq_def]
  dsimp only
  rw [number, single.1, single.2, Char.ofNat_toNat]
  rfl

/-- **A character is printed in a spelling that JSON has**: as itself, as a short escape or by its number. -/
theorem exists_part (c : Char) :
    ∃ p : Part, p.text = (literalChar c).toList ∧ ∀ ps, decode (p :: ps) = (decode ps).map (c :: ·) := by
  have short : ∀ d, shortEscape? d = some c → ∃ p : Part, p.text = ['\\', d] ∧
      ∀ ps, decode (p :: ps) = (decode ps).map (c :: ·) := fun d known => ⟨.short d c known, rfl, fun _ => rfl⟩
  have numbered : ∀ {n : Nat}, c.toNat = n → c = Char.ofNat n := fun same => by rw [← same, Char.ofNat_toNat]
  simp only [literalChar, beq_iff_eq]
  split
  · next quote => exact short '"' (by rw [quote]; rfl)
  next quote =>
  split
  · next slash => exact short '\\' (by rw [slash]; rfl)
  next slash =>
  split
  · next feed => exact short 'n' (by rw [feed]; rfl)
  split
  · next back => exact short 'r' (by rw [back]; rfl)
  split
  · next tab => exact short 't' (by rw [tab]; rfl)
  split
  · next back => exact short 'b' (by rw [numbered back]; rfl)
  split
  · next form => exact short 'f' (by rw [numbered form]; rfl)
  split
  · next control =>
    simp only [String.toList_append, String.toList_ofList]
    exact exists_part_control control
  · next printable => exact ⟨.char c ⟨quote, slash, by omega⟩, by rw [String.toList_singleton]; rfl, fun _ => rfl⟩

/-- **A text is printed as a string that says it.** -/
theorem exists_parts (s : String) :
    ∃ parts, textOf? parts = some s ∧ (Token.string parts).text = (literal s).toList := by
  have chars : ∀ cs : List Char, ∃ parts, decode parts = .ok cs ∧
      partsText parts = (cs.map literalChar).flatMap String.toList := by
    intro cs
    induction cs with
    | nil => exact ⟨[], rfl, rfl⟩
    | cons c cs ih =>
      obtain ⟨part, text, decoded⟩ := exists_part c
      obtain ⟨parts, means, joined⟩ := ih
      refine ⟨part :: parts, by rw [decoded, means]; rfl, ?_⟩
      rw [partsText, List.flatMap_cons, text, List.map_cons, List.flatMap_cons, ← joined]
      rfl
  obtain ⟨parts, means, joined⟩ := chars s.toList
  refine ⟨parts, ?_, ?_⟩
  · rw [textOf?, means]
    exact congrArg some String.ofList_toList
  · rw [literal, String.toList_append, String.toList_append, String.toList_join, ← joined]
    rfl

/-! ### Whole numbers -/

theorem isDigit_of_decimal {n : Nat} : ∀ c ∈ Nat.toDigits 10 n, isDigit c = true := by
  intro c member
  have digit := Nat.isDigit_of_mem_toDigits (by decide) (Nat.le_refl 10) member
  simpa [Char.isDigit, isDigit, Char.le_def] using digit

/-- The digits of a number. -/
def decimal (n : Nat) : Digits := ⟨Nat.toDigits 10 n, Nat.toDigits_ne_nil, isDigit_of_decimal⟩

/-- No zero stands before other digits. -/
theorem decimal_short (n : Nat) (zero : (decimal n).chars.head? = some '0') : (decimal n).chars = ['0'] := by
  have chars : ∀ n, (decimal n).chars = Nat.toDigits 10 n := fun _ => rfl
  simp only [chars] at zero ⊢
  induction n using Nat.strongRecOn with
  | _ n ih =>
    by_cases small : n < 10
    · rw [Nat.toDigits_of_lt_base small] at zero ⊢
      exact congrArg (fun c => [c]) (Option.some.inj zero)
    · rw [Nat.toDigits_of_base_le (by decide) (by omega), List.head?_append_of_ne_nil _ Nat.toDigits_ne_nil] at zero
      have digits := ih (n / 10) (by omega) zero
      have number := @Nat.ofDigitChars_ten_toDigits (n / 10)
      rw [digits, show Nat.ofDigitChars 10 ['0'] 0 = 0 from rfl] at number
      omega

/-- A whole number with a sign. -/
def wholeNumeral (negative : Bool) (n : Nat) : Numeral := ⟨negative, decimal n, decimal_short n, none, none⟩

theorem wholeNumeral_data (negative : Bool) (n : Nat) :
    (wholeNumeral negative n).data = .int (if negative then -n else n) := by
  have size : Nat.ofDigitChars 10 (wholeNumeral negative n).whole.chars 0 = n := Nat.ofDigitChars_ten_toDigits
  have whole : (wholeNumeral negative n).ending = [] := rfl
  rw [Numeral.data, if_pos whole, size]
  rfl

theorem wholeNumeral_unsigned (negative : Bool) (n : Nat) : (wholeNumeral negative n).unsigned = n.repr.toList := by
  rw [Nat.toList_repr]
  exact List.append_nil _

/-- **A whole number is printed as a number that says it.** -/
theorem exists_numeral (n : Int) : ∃ numeral : Numeral, numeral.data = .int n ∧ numeral.text = (toString n).toList := by
  cases n with
  | ofNat m => exact ⟨wholeNumeral false m, wholeNumeral_data false m, wholeNumeral_unsigned false m⟩
  | negSucc m =>
    refine ⟨wholeNumeral true (m + 1), wholeNumeral_data true (m + 1), ?_⟩
    rw [show toString (Int.negSucc m) = "-" ++ (m + 1).repr from rfl, String.toList_append,
      ← wholeNumeral_unsigned true]
    rfl

/-! ### Items between brackets -/

/-- Lists of tokens with commas between them. -/
def separated : List (List (Token (List Part))) → List (Token (List Part))
  | [] => []
  | ts :: tss => ts ++ tss.flatMap (.comma :: ·)

/-- The tokens of an entry. -/
def entry (e : List Part × Value) : List (Token (List Part)) := .string e.1 :: .colon :: e.2.tokens

theorem itemTokens_eq (vs : List Value) : itemTokens vs = separated (vs.map Value.tokens) := by
  have more : ∀ vs, moreItems vs = (vs.map Value.tokens).flatMap (.comma :: ·) := by
    intro vs
    induction vs with
    | nil => rfl
    | cons v vs ih =>
      rw [moreItems, ih]
      rfl
  cases vs with
  | nil => rfl
  | cons v vs =>
    rw [itemTokens, more]
    rfl

theorem entryTokens_eq (es : List (List Part × Value)) : entryTokens es = separated (es.map entry) := by
  have more : ∀ es, moreEntries es = (es.map entry).flatMap (.comma :: ·) := by
    intro es
    induction es with
    | nil => rfl
    | cons e es ih =>
      rw [moreEntries, ih]
      rfl
  cases es with
  | nil => rfl
  | cons e es =>
    rw [entryTokens, more]
    rfl

/-- Items with a text between them that is laid out of a comma. -/
theorem laid_intercalate {mark : String} (comma : Laid [.comma] mark.toList) {ts : List (Token (List Part))}
    {text : String} (first : Laid ts text.toList) {tss : List (List (Token (List Part)))} {texts : List String}
    (later : List.Forall₂ (fun us s => Laid us s.toList) tss texts) :
    Laid (ts ++ tss.flatMap (.comma :: ·)) (String.intercalate mark (text :: texts)).toList := by
  induction later generalizing ts text with
  | nil => simpa using first
  | @cons us s tss texts next _ ih =>
    rw [String.intercalate_cons_cons, List.flatMap_cons, String.toList_append, String.toList_append,
      List.append_assoc]
    exact first.append (comma.append (ih next))

/-- What is printed of items begins and ends with the brackets. -/
theorem bracketed_eq (left right : String) (level : Nat) (items : List String) :
    ∃ inside, bracketed left right level items = left ++ inside ++ right := by
  cases items with
  | nil => exact ⟨"", by rw [bracketed, String.append_empty]⟩
  | cons item items =>
    refine ⟨"\n" ++ String.intercalate ",\n" ((item :: items).map (indentation (level + 1) ++ ·)) ++ "\n"
      ++ indentation level, ?_⟩
    rw [bracketed]
    · simp only [String.append_assoc]
    · exact List.cons_ne_nil _ _

/-- **Items between brackets**, each on a line of its own. -/
theorem laid_bracketed {f : Frame} {left right : String} (opens : left.toList = [Token.opener f])
    (closes : right.toList = [Token.closer f]) (level : Nat) {tss : List (List (Token (List Part)))}
    {texts : List String} (items : List.Forall₂ (fun ts s => Laid ts s.toList) tss texts) :
    Laid (.opening f :: separated tss ++ [.closing f]) (bracketed left right level texts).toList := by
  have last : Laid [.closing f] right.toList := by
    rw [closes]
    exact .token _
  have feed : ∀ c ∈ "\n".toList, isSpace c = true := List.forall_mem_singleton.mpr rfl
  cases items with
  | nil =>
    rw [bracketed, String.toList_append, opens]
    exact last.cons (.opening f)
  | @cons ts s tss texts first later =>
    have indented : Laid ts (indentation (level + 1) ++ s).toList := by
      rw [String.toList_append]
      exact first.indent (level + 1)
    have rest : List.Forall₂ (fun us s => Laid us s.toList) tss (texts.map (indentation (level + 1) ++ ·)) := by
      refine List.forall₂_map_right_iff.mpr (later.imp fun us s laid => ?_)
      rw [String.toList_append]
      exact laid.indent (level + 1)
    have comma : Laid [.comma] ",\n".toList := .token_blank .comma rfl
    have inside := laid_intercalate comma indented rest
    have ended := inside.append ((last.indent level).blanks feed)
    have begun := (ended.blanks feed).cons (.opening f)
    rw [bracketed, List.map_cons]
    · simpa [opens, Token.text, separated] using begun
    · exact List.cons_ne_nil _ _

/-! ### Values -/

/-- A value whose decimals are written as JSON writes numbers. -/
inductive Proper : Json → Prop
  | null : Proper .null
  | bool (b : Bool) : Proper (.bool b)
  | int (n : Int) : Proper (.int n)
  | float (n : Numeral) (decimal : n.ending ≠ []) : Proper (.float (String.ofList n.text))
  | str (s : String) : Proper (.str s)
  | arr {items : List Json} (all : ∀ j ∈ items, Proper j) : Proper (.arr items)
  | obj {entries : List (String × Json)} (all : ∀ e ∈ entries, Proper e.2) : Proper (.obj entries)

/-- What is printed of a value at a level is laid out of the tokens of a JSON value that says it. -/
def Printed (level : Nat) (j : Json) : Prop := ∃ v : Value, v.data? = some j ∧ Laid v.tokens (pretty level j).toList

/-- What is printed of items says them, if it does of each. -/
theorem exists_items {print : Json → String} {items : List Json}
    (all : ∀ j ∈ items, ∃ v : Value, v.data? = some j ∧ Laid v.tokens (print j).toList) :
    ∃ vs, itemsData? vs = some items ∧
      List.Forall₂ (fun ts s => Laid ts s.toList) (vs.map Value.tokens) (items.map print) := by
  induction items with
  | nil => exact ⟨[], rfl, .nil⟩
  | cons j items ih =>
    obtain ⟨v, means, laid⟩ := all j List.mem_cons_self
    obtain ⟨vs, sayAll, laidAll⟩ := ih fun k member => all k (List.mem_cons_of_mem j member)
    refine ⟨v :: vs, ?_, .cons laid laidAll⟩
    rw [itemsData?, means, sayAll]
    rfl

/-- What is printed of entries says them, if it does of each. A text that is laid out of a colon stands between a key
and its value. -/
theorem exists_entries {print : Json → String} {mark : String} (colon : Laid [.colon] mark.toList)
    {entries : List (String × Json)}
    (all : ∀ e ∈ entries, ∃ v : Value, v.data? = some e.2 ∧ Laid v.tokens (print e.2).toList) :
    ∃ es, entriesData? es = some entries ∧
      List.Forall₂ (fun ts s => Laid ts s.toList) (es.map entry)
        (entries.map fun e => literal e.1 ++ mark ++ print e.2) := by
  induction entries with
  | nil => exact ⟨[], rfl, .nil⟩
  | cons e entries ih =>
    obtain ⟨key, j⟩ := e
    obtain ⟨v, means, laid⟩ := all (key, j) List.mem_cons_self
    obtain ⟨es, sayAll, laidAll⟩ := ih fun e member => all e (List.mem_cons_of_mem (key, j) member)
    obtain ⟨parts, keyMeans, keyText⟩ := exists_parts key
    have line : Laid (entry (parts, v)) (literal key ++ mark ++ print j).toList := by
      rw [String.toList_append, String.toList_append, ← keyText, List.append_assoc]
      exact (colon.append laid).cons (.string parts)
    refine ⟨(parts, v) :: es, ?_, .cons line laidAll⟩
    rw [entriesData?, keyMeans, means, sayAll]
    rfl

theorem prettyItems_eq (level : Nat) (items : List Json) : prettyItems level items = items.map (pretty level) := by
  induction items with
  | nil => rw [prettyItems, List.map_nil]
  | cons j items ih => rw [prettyItems, ih, List.map_cons]

theorem prettyEntries_eq (level : Nat) (entries : List (String × Json)) :
    prettyEntries level entries = entries.map fun e => literal e.1 ++ ": " ++ pretty level e.2 := by
  induction entries with
  | nil => rw [prettyEntries, List.map_nil]
  | cons e entries ih => rw [prettyEntries, ih, List.map_cons]

/-- **What is printed of a value is JSON that says it**, at every level. By induction on the value; the items of an
array or object are a level deeper. -/
theorem Proper.printed {j : Json} (proper : j.Proper) : ∀ level, Printed level j := by
  induction proper with
  | null =>
    intro level
    refine ⟨.word .null, rfl, ?_⟩
    rw [Value.tokens, pretty]
    exact .token (.word .null)
  | bool b =>
    intro level
    cases b with
    | false =>
      refine ⟨.word .false, rfl, ?_⟩
      rw [Value.tokens, pretty]
      exact .token (.word .false)
    | true =>
      refine ⟨.word .true, rfl, ?_⟩
      rw [Value.tokens, pretty]
      exact .token (.word .true)
  | int n =>
    intro level
    obtain ⟨numeral, means, text⟩ := exists_numeral n
    refine ⟨.number numeral, congrArg some means, ?_⟩
    rw [pretty, ← text]
    exact .token (.number numeral)
  | float n decimal =>
    intro level
    refine ⟨.number n, congrArg some (if_neg decimal), ?_⟩
    rw [pretty, String.toList_ofList]
    exact .token (.number n)
  | str s =>
    intro level
    obtain ⟨parts, means, text⟩ := exists_parts s
    refine ⟨.string parts, by rw [Value.data?, means]; rfl, ?_⟩
    rw [pretty, ← text]
    exact .token (.string parts)
  | arr _ ih =>
    intro level
    obtain ⟨vs, means, laid⟩ := exists_items fun j member => ih j member (level + 1)
    refine ⟨.array vs, by rw [Value.data?, means]; rfl, ?_⟩
    rw [pretty, Value.tokens, itemTokens_eq, prettyItems_eq]
    exact laid_bracketed rfl rfl level laid
  | obj _ ih =>
    intro level
    have colon : Laid [.colon] ": ".toList := .token_blank .colon rfl
    obtain ⟨es, means, laid⟩ := exists_entries colon fun e member => ih e member (level + 1)
    refine ⟨.object es, by rw [Value.data?, means]; rfl, ?_⟩
    rw [pretty, Value.tokens, entryTokens_eq, prettyEntries_eq]
    exact laid_bracketed rfl rfl level laid

/-- **What is printed of a value says that value.** -/
theorem Proper.tells_pretty {j : Json} (proper : j.Proper) (level : Nat) : Tells (pretty level j) j := by
  obtain ⟨v, means, laid⟩ := proper.printed level
  exact tells_of_laid means laid

end Detype.Json
