import Detype.Proofs.Files.Follow
import Detype.Proofs.Files.Listing
import Mathlib.Data.List.Sort

/-
**A tree with one file more.**

A file is put into a directory where nothing of its name stands. Paths lead to the files and directories that they led
to, and each listing is what it was, but for the file among the others.

* `Free` — a free place in a directory.
* `Free.sound` — the tree with a file there is one as file systems keep them.
* `Free.entryAt?_directory`, `Free.entryAt?_file` — paths lead where they led.
* `Free.filesBelow_above`, `Free.filesBelow_apart` — listings of the directories above the file, and of others.
-/

namespace Detype

namespace FileTree

/-- What stands at another place than the one that was set stood there. -/
theorem stood_of_set {t : FileTree} {place p : Location} {entry entry' : Entry}
    (stands : (t.set place entry').get? p = some entry) (other : p ≠ place) : t.get? p = some entry := by
  rwa [get?_set_ne t other] at stands

/-- A free place in a directory, and a name that can stand there. -/
structure Free (t : FileTree) (place : Location) : Prop where
  split : ∃ above n, place = above ++ [n] ∧ t.get? above = some .directory ∧ IsName n
  free : t.get? place = none

namespace Free

variable {t : FileTree} {place : Location} (free : t.Free place) {content : ByteArray}

include free

theorem ne_nil : place ≠ [] := by
  obtain ⟨above, n, rfl, _⟩ := free.split
  simp

theorem get?_eq (content : ByteArray) (p : Location) :
    (t.set place (.file content)).get? p = if p = place then some (.file content) else t.get? p :=
  get?_set t free.ne_nil _ p

theorem ne_of_stands {p : Location} {entry : Entry} (stands : t.get? p = some entry) : p ≠ place := by
  rintro rfl
  rw [free.free] at stands
  cases stands

/-- What stood somewhere stands there. -/
theorem stays {p : Location} {entry : Entry} (stands : t.get? p = some entry) :
    (t.set place (.file content)).get? p = some entry := by
  rw [get?_set_ne t (free.ne_of_stands stands), stands]

/-- **The tree with the file is one as file systems keep them.** -/
theorem sound (sound : t.Sound) (content : ByteArray) : (t.set place (.file content)).Sound := by
  obtain ⟨above, n, same, directory, name⟩ := free.split
  refine ⟨fun p entry stands m member => ?_, fun front m entry stands => ?_⟩
  · by_cases added : p = place
    · rw [added, same, List.mem_append, List.mem_singleton] at member
      rcases member with inAbove | rfl
      · exact sound.names above _ directory m inAbove
      · exact name
    · exact sound.names p entry (stood_of_set stands added) m member
  · refine free.stays ?_
    by_cases added : front ++ [m] = place
    · rw [same] at added
      rwa [(List.append_inj' added rfl).1]
    · exact sound.parents front m entry (stood_of_set stands added)

/-! ### Where paths lead -/

theorem keeps : t.Keeps (t.set place (.file content)) := ⟨fun stands _ => free.stays stands⟩

theorem kept : (t.set place (.file content)).Keeps t := by
  refine ⟨fun {p entry} stands noFile => stood_of_set stands ?_⟩
  rintro rfl
  rw [get?_set_self t free.ne_nil] at stands
  exact noFile content (Option.some.inj stands).symm

/-- **Paths lead to the directories that they led to.** -/
theorem entryAt?_directory {cwd d : Location} {path : String} :
    (t.set place (.file content)).entryAt? cwd path = some (d, .directory) ↔
      t.entryAt? cwd path = some (d, .directory) :=
  ⟨free.kept.entryAt?_directory, free.keeps.entryAt?_directory⟩

/-- **Paths lead to the files that they led to**, unless they lead to the new one. -/
theorem entryAt?_file (content : ByteArray) {cwd p : Location} {path : String} {content' : ByteArray}
    (other : p ≠ place) :
    (t.set place (.file content)).entryAt? cwd path = some (p, .file content') ↔
      t.entryAt? cwd path = some (p, .file content') := by
  constructor
  · intro found
    exact free.kept.entryAt?_file found (stood_of_set (get?_of_entryAt? found) other)
  · intro found
    exact free.keeps.entryAt?_file found (free.stays (get?_of_entryAt? found))

/-! ### Listings -/

/-- The files below a directory are those that were there, and the new one. -/
theorem mem_filesBelow {d names : Location} (sound : t.Sound) :
    names ∈ (t.set place (.file content)).filesBelow d ↔
      names ∈ t.filesBelow d ∨ (names ≠ [] ∧ d ++ names = place) := by
  rw [mem_filesBelow_iff (free.sound sound content), mem_filesBelow_iff sound, free.get?_eq]
  by_cases added : d ++ names = place
  · simp [added, free.free]
  · simp [added]

/-- **A directory that the file is not below** is listed as before. -/
theorem filesBelow_apart {d : Location} (sound : t.Sound) (apart : ∀ names, names ≠ [] → d ++ names ≠ place) :
    (t.set place (.file content)).filesBelow d = t.filesBelow d := by
  refine (pairwise_filesBelow _ d).eq_of_mem_iff (pairwise_filesBelow t d) fun names => ?_
  rw [free.mem_filesBelow sound]
  exact or_iff_left fun ⟨nonempty, added⟩ => apart names nonempty added

/-- **A directory above the file** is listed as before, but for the file among the others. -/
theorem filesBelow_above {d names : Location} (sound : t.Sound) (content : ByteArray) (nonempty : names ≠ [])
    (added : d ++ names = place) :
    ∃ before after, t.filesBelow d = before ++ after ∧
      (t.set place (.file content)).filesBelow d = before ++ names :: after := by
  have listed : names ∈ (t.set place (.file content)).filesBelow d :=
    (free.mem_filesBelow sound).mpr (Or.inr ⟨nonempty, added⟩)
  obtain ⟨before, after, split⟩ := List.append_of_mem listed
  refine ⟨before, after, ?_, split⟩
  have ordered := pairwise_filesBelow (t.set place (.file content)) d
  rw [split] at ordered
  have others : (before ++ after).Sublist (before ++ names :: after) :=
    (List.Sublist.refl before).append (List.sublist_cons_self names after)
  refine (pairwise_filesBelow t d).eq_of_mem_iff (ordered.sublist others) fun names' => ?_
  -- The new file is listed once, so that the others are those that were there.
  have once : names ∉ before ++ after := fun again =>
    (List.nodup_middle.mp ordered.nodup).notMem again
  have fresh : names ∉ t.filesBelow d := by
    intro old
    obtain ⟨_, content', stands⟩ := FileTree.mem_filesBelow old
    exact free.ne_of_stands stands added
  have either : names' ∈ (t.set place (.file content)).filesBelow d ↔ _ := free.mem_filesBelow sound
  rw [split] at either
  by_cases new : names' = names
  · rw [new]
    exact iff_of_false fresh once
  · have notAdded : ¬ (names' ≠ [] ∧ d ++ names' = place) := fun ⟨_, same⟩ =>
      new (List.append_cancel_left (same.trans added.symm))
    rw [or_iff_left notAdded] at either
    rw [← either, List.mem_append, List.mem_append, List.mem_cons]
    simp [new]

end Free

end FileTree

end Detype
