import Detype.Proofs.Run.Footprint

/-
**What a failed file leaves.**

A file that cannot be read or compiled leaves all files as they are, and so does one whose directories or whose source
map cannot be written. The code is written last: if that fails after its source map was written, the map stays.

* `FileTree.SameFiles` — trees with the same regular files.
* `Input.StrandsMap` — the map of an input changes a file, and then its code cannot be written.
* `processFile_failed` — a failed step leaves all files as they are, unless it strands a map.
-/

namespace Detype

namespace FileTree

/-- The regular files of two trees are the same, content included. -/
def SameFiles (t t' : FileTree) : Prop := ∀ p content, t'.get? p = some (.file content) ↔ t.get? p = some (.file content)

variable {cwd : Location} {t t' t'' : FileTree} {path : String}

theorem SameFiles.refl (t : FileTree) : t.SameFiles t := fun _ _ => Iff.rfl

theorem SameFiles.trans_iff (same : t.SameFiles t') : t.SameFiles t'' ↔ t'.SameFiles t'' :=
  ⟨fun later p content => (later p content).trans (same p content).symm,
    fun later p content => (later p content).trans (same p content)⟩

/-- Making directories leaves all files as they are. -/
theorem Traced.sameFiles {directories : String → Prop} (traced : Traced cwd noPath directories t t') :
    t.SameFiles t' := by
  intro p content
  by_cases same : t'.get? p = t.get? p
  · rw [same]
  · rcases traced.led p same with ⟨_, _, none, _⟩ | ⟨_, _, _, made, free⟩
    · exact none.elim
    · simp [made, free]

/-- A write leaves all files as they are if the same bytes were there before. -/
theorem sameFiles_writeFile {content : ByteArray} (written : t.writeFile cwd path content = .ok t') :
    t.SameFiles t' ↔ ∃ place, t.entryAt? cwd path = some (place, .file content) := by
  obtain ⟨place, below, rfl, _, before⟩ := writeFile_cases written
  constructor
  · intro same
    have stands := (same place content).mp (get?_set_self t below _)
    rcases before with ⟨old, found, stood⟩ | ⟨_, free⟩
    · rw [stood] at stands
      cases stands
      exact ⟨place, found⟩
    · rw [free] at stands
      cases stands
  · rintro ⟨place', found'⟩ p content'
    rcases before with ⟨old, found, stood⟩ | ⟨missing, _⟩
    · rw [found] at found'
      cases found'
      by_cases here : p = place
      · rw [here, get?_set_self t below, stood]
      · rw [get?_set_ne t here]
    · rw [missing] at found'
      cases found'

end FileTree

open FileTree

variable {settings : Settings} {cwd : Location} {input : Input} {t : FileTree}

/-- An input strands its map: the directories are made and the map is written, which changes a file, and then the
code cannot be written. `mapped` is the tree that this leaves. -/
structure Input.StrandsMap (input : Input) (settings : Settings) (cwd : Location) (t : FileTree) (outDir map : String)
    (mapped : FileTree) : Prop where
  out : settings.outDir = some outDir
  writes : ∃ source output above,
    t.readText cwd input.path = .ok source ∧
    compile source (settings.optionsFor input.path) = .ok output ∧
    output.sourceMap = some map ∧
    makeAbove t cwd (input.destination outDir) = (above, .ok ()) ∧
    (∀ place, above.entryAt? cwd (mapPath (input.destination outDir)) ≠ some (place, .file map.toUTF8)) ∧
    above.writeFile cwd (mapPath (input.destination outDir)) map.toUTF8 = .ok mapped ∧
    ∃ e, mapped.writeFile cwd (input.destination outDir)
      (withMapComment output.code (input.destination outDir)).toUTF8 = .error e

theorem sameFiles_makeAbove (t : FileTree) (cwd : Location) (destination : String) :
    t.SameFiles (makeAbove t cwd destination).1 := (traced_makeAbove t cwd destination).sameFiles

/-- **How writing the files of an output fails**: nothing was written, or the map was and the code was not. -/
theorem writeFiles_error {destination : String} {output : Output} {e : FileError}
    (fails : (writeFiles t cwd destination output).2 = .error e) :
    (writeFiles t cwd destination output).1 = t ∨
      ∃ map, output.sourceMap = some map ∧
        t.writeFile cwd (mapPath destination) map.toUTF8 = .ok (writeFiles t cwd destination output).1 ∧
        (writeFiles t cwd destination output).1.writeFile cwd destination
          (withMapComment output.code destination).toUTF8 = .error e := by
  have text : ∀ {t path text}, (writeText t cwd path text).2 = .error e →
      (writeText t cwd path text).1 = t ∧ t.writeFile cwd path text.toUTF8 = .error e := by
    intro t path text fails
    unfold writeText at fails ⊢
    split at fails
    · cases fails
    · next failed =>
      cases fails
      exact ⟨rfl, failed⟩
  unfold writeFiles at fails ⊢
  cases maps : output.sourceMap with
  | none =>
    rw [maps] at fails
    exact Or.inl (text fails).1
  | some map =>
    rw [maps] at fails
    dsimp only at fails ⊢
    cases written : t.writeFile cwd (mapPath destination) map.toUTF8 with
    | error e' =>
      have shape : writeText t cwd (mapPath destination) map = (t, .error e') := by rw [writeText, written]
      rw [shape]
      exact Or.inl rfl
    | ok mapped =>
      have shape : writeText t cwd (mapPath destination) map = (mapped, .ok ()) := by rw [writeText, written]
      rw [shape] at fails ⊢
      obtain ⟨kept, failed⟩ := text fails
      dsimp only at kept failed ⊢
      rw [kept]
      exact Or.inr ⟨map, rfl, written, failed⟩

/-- **An input that strands its map changes one file**: the path of the map leads to it, and it holds the map. -/
theorem Input.StrandsMap.changes {outDir map : String} {mapped : FileTree}
    (strands : input.StrandsMap settings cwd t outDir map mapped) :
    settings.options.sourceMap = true ∧ (processFile settings cwd input t).1 = mapped ∧
      ∃ place, mapped.entryAt? cwd (mapPath (input.destination outDir)) = some (place, .file map.toUTF8) ∧
        mapped.get? place = some (.file map.toUTF8) ∧ t.get? place ≠ some (.file map.toUTF8) ∧
        ∀ p, p ≠ place → ∀ content, mapped.get? p = some (.file content) ↔ t.get? p = some (.file content) := by
  obtain ⟨source, output, above, read, compiled, maps, made, other, written, e, fails⟩ := strands.writes
  have same : t.SameFiles above := by
    have kept := sameFiles_makeAbove t cwd (input.destination outDir)
    rwa [made] at kept
  refine ⟨?_, ?_, ?_⟩
  · rw [← optionsFor_sourceMap strands.out, ← compile_sourceMap compiled, maps]
    rfl
  · rw [(Ends.written read compiled strands.out).processFile_eq]
    simp only [writeOutput_stages, made, writeFiles, maps, writeText, written, fails]
  · obtain ⟨place, below, rfl, leads, before⟩ := writeFile_cases written
    refine ⟨place, leads, get?_set_self above below _, fun stands => ?_, fun p elsewhere content => ?_⟩
    · have stood := (same place _).mpr stands
      rcases before with ⟨old, found, there⟩ | ⟨_, free⟩
      · rw [there] at stood
        cases stood
        exact other place found
      · rw [free] at stood
        cases stood
    · rw [get?_set_ne above elsewhere]
      exact same p content

/-- A failed step leaves all files as they are, or it strands a map. -/
theorem sameFiles_or_strandsMap (failed : (processFile settings cwd input t).2.failed = true) :
    t.SameFiles (processFile settings cwd input t).1 ∨
      ∃ outDir map mapped, input.StrandsMap settings cwd t outDir map mapped := by
  have ends := ends_processFile settings cwd input t
  generalize processFile settings cwd input t = r at ends failed ⊢
  cases ends with
  | unread | uncompiled => exact Or.inl (.refl t)
  | printed => cases failed
  | @written source outDir output read compiled out =>
    dsimp only at failed ⊢
    have same := sameFiles_makeAbove t cwd (input.destination outDir)
    rw [writeOutput_stages] at failed ⊢
    cases made : makeAbove t cwd (input.destination outDir) with
    | mk above result =>
      rw [made] at failed same
      cases result with
      | error e => exact Or.inl same
      | ok =>
        dsimp only at failed ⊢
        cases wrote : (writeFiles above cwd (input.destination outDir) output).2 with
        | ok =>
          rw [wrote] at failed
          cases failed
        | error e =>
          rcases writeFiles_error wrote with kept | ⟨map, maps, written, fails⟩
          · rw [kept]
            exact Or.inl same
          · rw [same.trans_iff, sameFiles_writeFile written]
            by_cases there : ∃ place, above.entryAt? cwd (mapPath (input.destination outDir)) =
                some (place, .file map.toUTF8)
            · exact Or.inl there
            · refine Or.inr ⟨outDir, map, _, out, source, output, above, read, compiled, maps, made, ?_, written, e, fails⟩
              exact fun place found => there ⟨place, found⟩

/-- **A failed step leaves all files as they are, unless it strands a map**; and then it changes one file, to which
the path of the map leads and which holds the map. Without source maps it leaves all files as they are. -/
theorem processFile_failed (failed : (processFile settings cwd input t).2.failed = true) :
    (t.SameFiles (processFile settings cwd input t).1 ↔
      ∀ outDir map mapped, ¬ input.StrandsMap settings cwd t outDir map mapped) ∧
    ∀ outDir map mapped, input.StrandsMap settings cwd t outDir map mapped →
      settings.options.sourceMap = true ∧ (processFile settings cwd input t).1 = mapped ∧
      ∃ place, mapped.entryAt? cwd (mapPath (input.destination outDir)) = some (place, .file map.toUTF8) ∧
        mapped.get? place = some (.file map.toUTF8) ∧ t.get? place ≠ some (.file map.toUTF8) ∧
        ∀ p, p ≠ place → ∀ content, mapped.get? p = some (.file content) ↔ t.get? p = some (.file content) := by
  refine ⟨⟨fun same outDir map mapped strands => ?_, fun none => ?_⟩, fun _ _ _ strands => strands.changes⟩
  · obtain ⟨_, tree_eq, place, _, stands, other, _⟩ := strands.changes
    rw [← tree_eq] at stands
    exact other ((same place _).mp stands)
  · rcases sameFiles_or_strandsMap failed with same | ⟨outDir, map, mapped, strands⟩
    · exact same
    · exact absurd strands (none outDir map mapped)

/-- A working directory with the empty file `a.ts`, and a directory where its code goes. -/
def blocked : FileTree :=
  ⟨[(["w"].map Text.bytesOf, .directory), (["w", "a.ts"].map Text.bytesOf, .file .empty),
    (["w", "o"].map Text.bytesOf, .directory), (["w", "o", "a.js"].map Text.bytesOf, .directory)]⟩

theorem blocked_failed : (processFile withMaps [Text.bytesOf "w"] ⟨"a.ts", "a.ts"⟩ blocked).2.failed = true := by
  decide +kernel

theorem blocked_not_sameFiles :
    ¬ blocked.SameFiles (processFile withMaps [Text.bytesOf "w"] ⟨"a.ts", "a.ts"⟩ blocked).1 := by
  intro same
  have made : (processFile withMaps [Text.bytesOf "w"] ⟨"a.ts", "a.ts"⟩ blocked).1.isFileAt
      (["w", "o", "a.js.map"].map Text.bytesOf) = true := by decide +kernel
  obtain ⟨content, stands⟩ := isFileAt_eq_true.mp made
  have free : blocked.get? (["w", "o", "a.js.map"].map Text.bytesOf) = none := by decide +kernel
  rw [(same _ _).mp stands] at free
  cases free

theorem blocked_strandsMap :
    (processFile withMaps [Text.bytesOf "w"] ⟨"a.ts", "a.ts"⟩ blocked).2.failed = true ∧
      ∃ outDir map mapped,
        (⟨"a.ts", "a.ts"⟩ : Input).StrandsMap withMaps [Text.bytesOf "w"] blocked outDir map mapped := by
  refine ⟨blocked_failed, Classical.byContradiction fun none => blocked_not_sameFiles ?_⟩
  rw [(processFile_failed blocked_failed).1]
  exact fun outDir map mapped strands => none ⟨outDir, map, mapped, strands⟩

/-- **Not every failed step leaves all files as they are**: the map of `a.ts` is written, its code is not. -/
theorem failed_not_sameFiles :
    ¬ ∀ (settings : Settings) (cwd : Location) (input : Input) (t : FileTree),
      (processFile settings cwd input t).2.failed = true → t.SameFiles (processFile settings cwd input t).1 :=
  fun all => blocked_not_sameFiles (all withMaps [Text.bytesOf "w"] ⟨"a.ts", "a.ts"⟩ blocked blocked_failed)

end Detype
