import Detype.Proofs.Json.Printed

/-
**Values printed on one line.**

What is printed of a value on one line is JSON text that says the value, as it is when it is printed over several lines.

* `laid_inline` — items between brackets, with nothing but commas between them.
* `Proper.tells_compact` — what is printed of a value on one line says that value.
-/

namespace Detype.Json

open Reader

/-! ### Items on one line -/

/-- **Items between brackets**, on one line. -/
theorem laid_inline {f : Frame} {left right : String} (opens : left.toList = [Token.opener f])
    (closes : right.toList = [Token.closer f]) {tss : List (List (Token (List Part)))} {texts : List String}
    (items : List.Forall₂ (fun ts s => Laid ts s.toList) tss texts) :
    Laid (.opening f :: separated tss ++ [.closing f]) (left ++ String.intercalate "," texts ++ right).toList := by
  have last : Laid [.closing f] right.toList := by
    rw [closes]
    exact .token _
  have inside : Laid (separated tss) (String.intercalate "," texts).toList := by
    cases items with
    | nil => exact .nil
    | cons first later =>
      have comma : Laid [.comma] ",".toList := .token .comma
      exact laid_intercalate comma first later
  rw [String.toList_append, String.toList_append, opens, List.append_assoc]
  exact (inside.append last).cons (.opening f)

/-! ### Values -/

/-- What is printed of a value on one line is laid out of the tokens of a JSON value that says it. -/
def Inline (j : Json) : Prop := ∃ v : Value, v.data? = some j ∧ Laid v.tokens (compact j).toList

theorem compactItems_eq (items : List Json) : compactItems items = items.map compact := by
  induction items with
  | nil => rw [compactItems, List.map_nil]
  | cons j items ih => rw [compactItems, ih, List.map_cons]

theorem compactEntries_eq (entries : List (String × Json)) :
    compactEntries entries = entries.map fun e => literal e.1 ++ ":" ++ compact e.2 := by
  induction entries with
  | nil => rw [compactEntries, List.map_nil]
  | cons e entries ih => rw [compactEntries, ih, List.map_cons]

/-- A value without parts is printed on one line as it is printed over several. -/
theorem Proper.inline_of_eq {j : Json} (proper : j.Proper) (same : compact j = pretty 0 j) : Inline j := by
  obtain ⟨v, means, laid⟩ := proper.printed 0
  exact ⟨v, means, same ▸ laid⟩

/-- **What is printed of a value on one line is JSON that says it.** By induction on the value. -/
theorem Proper.inline {j : Json} (proper : j.Proper) : Inline j := by
  induction proper with
  | null => exact Proper.null.inline_of_eq (by rw [compact, pretty])
  | bool b => exact (Proper.bool b).inline_of_eq (by rw [compact, pretty])
  | int n => exact (Proper.int n).inline_of_eq (by rw [compact, pretty])
  | float n decimal => exact (Proper.float n decimal).inline_of_eq (by rw [compact, pretty])
  | str s => exact (Proper.str s).inline_of_eq (by rw [compact, pretty])
  | arr _ ih =>
    obtain ⟨vs, means, laid⟩ := exists_items ih
    refine ⟨.array vs, by rw [Value.data?, means]; rfl, ?_⟩
    rw [compact, Value.tokens, itemTokens_eq, compactItems_eq]
    exact laid_inline rfl rfl laid
  | obj _ ih =>
    have colon : Laid [.colon] ":".toList := .token .colon
    obtain ⟨es, means, laid⟩ := exists_entries colon ih
    refine ⟨.object es, by rw [Value.data?, means]; rfl, ?_⟩
    rw [compact, Value.tokens, entryTokens_eq, compactEntries_eq]
    exact laid_inline rfl rfl laid

/-- **What is printed of a value on one line says that value.** -/
theorem Proper.tells_compact {j : Json} (proper : j.Proper) : Tells (compact j) j := by
  obtain ⟨v, means, laid⟩ := proper.inline
  exact tells_of_laid means laid

end Detype.Json
