import Detype.Proofs.Files.Errand

/-
**Trees as file systems keep them.**

* `FileTree.Sound` — names can stand in directories, and what stands somewhere stands in a directory.
* `sound_of_entries`, `linkless_of_entries` — both are seen from the list of entries.
* `Sound.above` — above what stands somewhere there are directories only.
* `mem_filesBelow` — the files below a directory are files.
-/

namespace Detype

namespace FileTree

/-- A name that can stand in a directory. -/
def IsName (n : FileName) : Prop := n ≠ [] ∧ n ≠ dot ∧ n ≠ dotDot ∧ 47 ∉ n

instance (n : FileName) : Decidable (IsName n) := inferInstanceAs (Decidable (_ ∧ _ ∧ _ ∧ _))

/-- A tree as a file system keeps it. -/
structure Sound (t : FileTree) : Prop where
  names : ∀ place entry, t.get? place = some entry → ∀ n ∈ place, IsName n
  parents : ∀ above n entry, t.get? (above ++ [n]) = some entry → t.get? above = some .directory

theorem mem_entries_of_get? {t : FileTree} {place : Location} {entry : Entry}
    (stands : t.get? place = some entry) : place = [] ∨ (place, entry) ∈ t.entries := by
  cases place with
  | nil => exact Or.inl rfl
  | cons n ns =>
    refine Or.inr ?_
    have found : t.entries.lookup (n :: ns) = some entry := stands
    obtain ⟨before, after, split, _⟩ := List.lookup_eq_some_iff.mp found
    rw [split]
    simp

/-- Soundness is seen from the list of entries. -/
theorem sound_of_entries {t : FileTree}
    (checked : ∀ x ∈ t.entries, (∀ n ∈ x.1, IsName n) ∧ t.get? x.1.dropLast = some .directory) : t.Sound := by
  refine ⟨fun place entry stands => ?_, fun above n entry stands => ?_⟩
  · rcases mem_entries_of_get? stands with root | member
    · rw [root]
      simp
    · exact (checked _ member).1
  · rcases mem_entries_of_get? stands with root | member
    · simp at root
    · have parent := (checked _ member).2
      rwa [List.dropLast_concat] at parent

def isLink : Entry → Bool
  | .link _ => true
  | _ => false

theorem linkless_of_entries {t : FileTree} (checked : ∀ x ∈ t.entries, isLink x.2 = false) : t.Linkless := by
  intro place target stands
  rcases mem_entries_of_get? stands with root | member
  · rw [root, get?_nil] at stands
    cases stands
  · cases checked _ member

/-- Above what stands somewhere there are directories. -/
theorem Sound.above {t : FileTree} (sound : t.Sound) {place below : Location} {entry : Entry}
    (stands : t.get? (place ++ below) = some entry) (deeper : below ≠ []) : t.get? place = some .directory := by
  induction below generalizing place with
  | nil => exact absurd rfl deeper
  | cons n rest ih =>
    by_cases ended : rest = []
    · rw [ended] at stands
      exact sound.parents _ _ _ stands
    · rw [List.append_cons] at stands
      exact sound.parents _ _ _ (ih stands ended)

/-- Names that do not lead up are walked alike where the places on the way are alike. -/
theorem walk_congr {t t' : FileTree} {here : Location} {names : List FileName} (down : dotDot ∉ names)
    (same : ∀ first, first <+: names → t.get? (here ++ first) = t'.get? (here ++ first)) :
    t.walk here names = t'.walk here names := by
  induction names generalizing here with
  | nil => rfl
  | cons n rest ih =>
    rw [List.mem_cons, not_or] at down
    have stands : t.get? (here ++ [n]) = t'.get? (here ++ [n]) := same [n] (by simp)
    have later : t.walk (here ++ [n]) rest = t'.walk (here ++ [n]) rest := by
      refine ih down.2 fun first begins => ?_
      rw [List.append_assoc]
      exact same ([n] ++ first) (by simpa using begins)
    rw [walk, walk, if_neg (Ne.symm down.1), if_neg (Ne.symm down.1), stands, later]

/-! ### Names and their texts -/

theorem mem_bytesOf_of_slash {s : String} (slash : '/' ∈ s.toList) : 47 ∈ Text.bytesOf s := by
  obtain ⟨before, after, split⟩ := List.append_of_mem slash
  have spelled : s = String.ofList (before ++ '/' :: after) := by rw [← split, String.ofList_toList]
  have encoded : String.utf8EncodeChar '/' = [47] := by decide
  rw [Text.bytesOf, spelled]
  show 47 ∈ (String.ofList (before ++ '/' :: after)).toByteArray.data.toList
  rw [String.toByteArray_ofList, List.utf8Encode_append, List.utf8Encode_cons, List.utf8Encode_singleton, encoded]
  simp

theorem fromUTF8?_toUTF8 (text : String) : String.fromUTF8? text.toUTF8 = some text := by
  unfold String.fromUTF8?
  exact dif_pos text.isValidUTF8

theorem textOf?_nameOf (p : List Char) : Text.textOf? (nameOf p) = some (String.ofList p) :=
  fromUTF8?_toUTF8 (String.ofList p)

theorem bytesOf_of_textOf? {n : FileName} {s : String} (spelled : Text.textOf? n = some s) :
    Text.bytesOf s = n := by
  unfold Text.textOf? String.fromUTF8? at spelled
  split at spelled
  · cases spelled
    rfl
  · cases spelled

/-- **The text of a name** that can stand in a directory is a piece that names an entry. -/
theorem proper_of_isName {n : FileName} {s : String} (spelled : Text.textOf? n = some s) (name : IsName n) :
    nameOf s.toList = n ∧ Path.Proper s.toList := by
  have bytes : nameOf s.toList = n := by
    rw [nameOf, String.ofList_toList]
    exact bytesOf_of_textOf? spelled
  obtain ⟨full, single, double, plain⟩ := name
  refine ⟨bytes, ?_, ?_, ?_⟩
  · rw [← isBlank_nameOf, bytes]
    exact isBlank_eq_false.mpr (not_or.mpr ⟨full, single⟩)
  · intro dots
    rw [dots, nameOf_dotDot] at bytes
    exact double bytes.symm
  · intro slash
    rw [← bytesOf_of_textOf? spelled] at plain
    exact plain (mem_bytesOf_of_slash slash)

theorem nameOf_ne_dotDot {p : List Char} (proper : Path.Proper p) : nameOf p ≠ dotDot := by
  rw [← nameOf_dotDot, nameOf_injective.ne_iff]
  exact proper.down

theorem dotDot_not_mem_map {ps : List (List Char)} (proper : ∀ p ∈ ps, Path.Proper p) :
    dotDot ∉ ps.map nameOf := by
  intro member
  obtain ⟨p, listed, same⟩ := List.mem_map.mp member
  exact nameOf_ne_dotDot (proper p listed) same

/-! ### Files below a directory -/

theorem mem_filesWithin {t : FileTree} {fuel : Nat} {d names : Location}
    (member : names ∈ t.filesWithin fuel d) :
    names ≠ [] ∧ ∃ content, t.get? (d ++ names) = some (.file content) := by
  induction fuel generalizing d names with
  | zero => cases member
  | succ fuel ih =>
    obtain ⟨n, _, inside⟩ := List.mem_flatMap.mp member
    split at inside
    · next content stands =>
      rw [List.mem_singleton] at inside
      rw [inside]
      exact ⟨by simp, content, stands⟩
    · obtain ⟨below, deeper, rfl⟩ := List.mem_map.mp inside
      obtain ⟨_, content, stands⟩ := ih deeper
      refine ⟨by simp, content, ?_⟩
      rwa [List.append_assoc] at stands
    · cases inside

theorem mem_filesBelow {t : FileTree} {d names : Location} (member : names ∈ t.filesBelow d) :
    names ≠ [] ∧ ∃ content, t.get? (d ++ names) = some (.file content) := mem_filesWithin member

end FileTree

end Detype
