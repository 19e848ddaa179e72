import Detype.Proofs.Diagnostics
import Mathlib.Data.List.Infix
import Mathlib.Data.Prod.Lex
import Mathlib.Data.Set.Function

/-
**Lines and columns as a function of the offset.**

Every offset, also one inside a character or past the end, cuts off a prefix of whole characters, and its line and
column are those at which that prefix ends. Later offsets cut off longer prefixes, and longer prefixes end later.

* `prefix_eq_of_end` — a prefix is determined by the line and column at which it ends.
* `IsBoundary` — an offset between two characters, or at one end of the text.
* `CutsOff` — the prefix that an offset cuts off; `exists_cutsOff` — there is one, and it tells line and column.
* `lineColumn_strictMono` — lines and columns grow with the offset, and from one boundary to the next they do change.
-/

namespace Detype

/-! ### Prefixes -/

theorem byteCount_append (first second : List Char) :
    byteCount (first ++ second) = byteCount first + byteCount second := by
  unfold byteCount
  rw [String.ofList_append, String.utf8ByteSize_append]

theorem byteCount_le_of_isPrefix {first later : List Char} (begins : first <+: later) :
    byteCount first ≤ byteCount later := by
  obtain ⟨more, rfl⟩ := begins
  rw [byteCount_append]
  exact Nat.le_add_right _ _

/-- **Prefixes that end at one place are the same.** -/
theorem prefix_eq_of_end {text first later : List Char} (begins : first <+: text) (begins' : later <+: text)
    (lines : lineAfter first = lineAfter later) (columns : columnAfter first = columnAfter later) : first = later := by
  have shorter : ∀ {p q : List Char}, p <+: q → lineAfter p = lineAfter q → columnAfter p = columnAfter q → p = q := by
    rintro p _ ⟨more, rfl⟩ lines columns
    rcases List.eq_nil_or_concat more with rfl | ⟨more, c, rfl⟩
    · rw [List.append_nil]
    · -- The last character puts the end on a later line or a later column.
      exfalso
      have later := ends_later (List.prefix_append p more)
      rw [List.concat_eq_append, ← List.append_assoc, lineAfter_concat] at lines
      rw [List.concat_eq_append, ← List.append_assoc, columnAfter_concat] at columns
      by_cases ended : c = '\n'
      · rw [if_pos ended] at lines
        omega
      · rw [if_neg ended] at lines columns
        omega
  rcases List.prefix_or_prefix_of_prefix begins begins' with before | before
  · exact shorter before lines columns
  · exact (shorter before lines.symm columns.symm).symm

theorem Reaches.unique {text first other : List Char} {offset : Nat} (reaches : Reaches text offset first)
    (reaches' : Reaches text offset other) : first = other :=
  (reaches.mono reaches' le_rfl).eq_of_length_le (reaches'.mono reaches le_rfl).length_le

/-- An offset at which a character starts, or the text ends. -/
def IsBoundary (text : List Char) (offset : Nat) : Prop := ∃ first, first <+: text ∧ byteCount first = offset

/-! ### What an offset cuts off -/

/-- What an offset cuts off a text: the shortest prefix of whole characters that reaches it, or the whole text if no
prefix does. -/
def CutsOff (text : List Char) (offset : Nat) (first : List Char) : Prop :=
  Reaches text offset first ∨ first = text ∧ ∀ other, other <+: text → byteCount other < offset

namespace CutsOff

variable {text first later : List Char} {offset offset' : Nat}

theorem isPrefix : CutsOff text offset first → first <+: text
  | .inl reaches => reaches.isPrefix
  | .inr ⟨whole, _⟩ => whole ▸ List.prefix_rfl

/-- A later offset cuts off a longer prefix. -/
theorem mono (cut : CutsOff text offset first) (cut' : CutsOff text offset' later) (le : offset ≤ offset') :
    first <+: later := by
  rcases cut, cut' with ⟨reaches | ⟨rfl, beyond⟩, reaches' | ⟨rfl, _⟩⟩
  · exact reaches.mono reaches' le
  · exact reaches.isPrefix
  · -- The earlier offset is past the end, so no prefix reaches the later one.
    have short := beyond later reaches'.isPrefix
    have far := reaches'.far
    omega
  · exact List.prefix_rfl

theorem unique (cut : CutsOff text offset first) (cut' : CutsOff text offset later) : first = later :=
  (cut.mono cut' le_rfl).eq_of_length_le (cut'.mono cut le_rfl).length_le

/-- At a boundary the prefix does not go beyond the offset. -/
theorem byteCount_eq (cut : CutsOff text offset first) (boundary : IsBoundary text offset) :
    byteCount first = offset := by
  obtain ⟨exact, begins, rfl⟩ := boundary
  rcases cut with reaches | ⟨_, beyond⟩
  · have inner : first <+: exact :=
      List.prefix_of_prefix_length_le reaches.isPrefix begins (reaches.least exact begins le_rfl)
    exact le_antisymm (byteCount_le_of_isPrefix inner) reaches.far
  · exact absurd (beyond exact begins) (lt_irrefl _)

end CutsOff

/-- The scan goes to the end of a text that does not reach the offset. -/
theorem lineColumn_go_beyond (offset : Nat) (before rest : List Char)
    (beyond : byteCount (before ++ rest) < offset) :
    lineColumn.go offset rest (byteCount before) (lineAfter before) (columnAfter before) =
      (lineAfter (before ++ rest), columnAfter (before ++ rest)) := by
  induction rest generalizing before with
  | nil => rw [lineColumn.go, List.append_nil]
  | cons c rest ih =>
    have short := byteCount_le_of_isPrefix (List.prefix_append before (c :: rest))
    rw [List.append_cons] at beyond ⊢
    rw [lineColumn.go, if_neg (by rw [List.append_cons] at short; omega), ← ih (before ++ [c]) beyond, byteCount_concat,
      lineAfter_concat, columnAfter_concat]
    by_cases ended : c = '\n'
    · rw [if_pos ended, if_pos ended, if_pos ended]
    · rw [if_neg ended, if_neg ended, if_neg ended]

/-- **An offset has the line and column at which the prefix ends that it cuts off.** -/
theorem exists_cutsOff (text : String) (offset : Nat) :
    ∃ first, CutsOff text.toList offset first ∧
      lineColumn text.toList offset = (lineAfter first, columnAfter first) := by
  rcases Nat.lt_or_ge text.utf8ByteSize offset with beyond | inside
  · have size : byteCount text.toList = text.utf8ByteSize := by rw [byteCount, String.ofList_toList]
    refine ⟨text.toList, .inr ⟨rfl, fun other begins => ?_⟩, ?_⟩
    · have short := byteCount_le_of_isPrefix begins
      omega
    · exact lineColumn_go_beyond offset [] text.toList (by rw [List.nil_append]; omega)
  · obtain ⟨first, reaches, place⟩ := lineColumn_eq inside
    exact ⟨first, .inl reaches, place⟩

/-- **Lines and columns grow with the offset.** Any offset has the line and column at which the one prefix ends that it
cuts off; a later offset has no earlier line and column, and two boundaries never have the same. -/
theorem lineColumn_strictMono (text : String) :
    (∀ offset, ∃! first, CutsOff text.toList offset first) ∧
      (∀ offset first, CutsOff text.toList offset first →
        lineColumn text.toList offset = (lineAfter first, columnAfter first)) ∧
      (Monotone fun offset => toLex (lineColumn text.toList offset)) ∧
      StrictMonoOn (fun offset => toLex (lineColumn text.toList offset)) {offset | IsBoundary text.toList offset} ∧
      Set.InjOn (lineColumn text.toList) {offset | IsBoundary text.toList offset} := by
  have place : ∀ offset first, CutsOff text.toList offset first →
      lineColumn text.toList offset = (lineAfter first, columnAfter first) := by
    intro offset first cut
    obtain ⟨first', cut', place⟩ := exists_cutsOff text offset
    rwa [cut.unique cut']
  have mono : Monotone fun offset => toLex (lineColumn text.toList offset) := by
    intro offset offset' le
    obtain ⟨first, cut, start⟩ := exists_cutsOff text offset
    obtain ⟨later, cut', stop⟩ := exists_cutsOff text offset'
    dsimp only
    rw [start, stop, Prod.Lex.toLex_le_toLex]
    exact ends_later (cut.mono cut' le)
  have inj : Set.InjOn (lineColumn text.toList) {offset | IsBoundary text.toList offset} := by
    intro offset boundary offset' boundary' same
    obtain ⟨first, cut, start⟩ := exists_cutsOff text offset
    obtain ⟨later, cut', stop⟩ := exists_cutsOff text offset'
    rw [start, stop] at same
    obtain ⟨lines, columns⟩ := Prod.mk.inj same
    calc offset = byteCount first := (cut.byteCount_eq boundary).symm
      _ = byteCount later := by rw [prefix_eq_of_end cut.isPrefix cut'.isPrefix lines columns]
      _ = offset' := cut'.byteCount_eq boundary'
  refine ⟨fun offset => ?_, place, mono, ?_, inj⟩
  · obtain ⟨first, cut, _⟩ := exists_cutsOff text offset
    exact ⟨first, cut, fun other cut' => cut'.unique cut⟩
  · exact (mono.monotoneOn _).strictMonoOn_of_injOn fun _ boundary _ boundary' same =>
      inj boundary boundary' (toLex.injective same)

/-- An offset inside the second character of two bytes has the column behind it, as has one past the end. -/
example : lineColumn "é\né".toList 4 = (2, 2) ∧ lineColumn "é\né".toList 9 = (2, 2) ∧
    lineColumn "é\né".toList 3 = (2, 1) := by decide

end Detype
