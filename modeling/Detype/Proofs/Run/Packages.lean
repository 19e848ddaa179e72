import Detype.Proofs.Glob.Matching
import Detype.Proofs.Run.Bystanders
import Detype.Proofs.Run.StandardInput

/-
**Directories of packages.**

One pattern always holds: what lies below a directory with the name of a directory of packages is ignored. It is matched
against the path from the searched directory on, so the name of that directory and of those above it does not count, and
neither does that of the file.

* `packageDirectory` — the name; `parse_alwaysIgnored` — what the pattern is read as.
* `ignorePatterns_cases` — the patterns of a run are those of the arguments, and this one.
* `SourceBelow` — a file with the name of a source below a directory; `SourceBelow.matches_packages` — the pattern
  matches it just if it lies in a directory of packages.
* `Takes` — which of these files a search takes; `takes_of_patterns` — those that no pattern matches.
* `collect_packages` — without patterns of the arguments all are taken but those in directories of packages, and with
  them none of those is taken either.
-/

namespace Detype

open FileTree

/-! ### The pattern -/

/-- The name of directories of packages. -/
def packageDirectory : String := "node_modules"

theorem parse_alwaysIgnored : Glob.parse alwaysIgnored = .ok (Glob.belowNamed packageDirectory) := by
  simp [Glob.parse, alwaysIgnored, Glob.readTokens, Glob.twoStars, Glob.Reading.push, Glob.Reading.inGroup,
    Glob.belowNamed, packageDirectory]

theorem ignorePatterns_nil : ignorePatterns [] = .ok [Glob.belowNamed packageDirectory] := by
  unfold ignorePatterns
  rw [List.nil_append, List.mapM_cons, List.mapM_nil, parse_alwaysIgnored]
  rfl

/-- The patterns of a run are those of the arguments, and after them the one that always holds. -/
theorem ignorePatterns_cases {patterns : List String} {ignore : Glob.Patterns}
    (read : ignorePatterns patterns = .ok ignore) :
    ∃ own, ignore = own ++ [Glob.belowNamed packageDirectory] := by
  unfold ignorePatterns at read
  rw [List.mapM_append, List.mapM_cons, List.mapM_nil, parse_alwaysIgnored] at read
  cases given : patterns.mapM fun p => (Glob.parse p).mapError (RunError.invalidGlob p) with
  | error e =>
    rw [given] at read
    cases read
  | ok own =>
    rw [given] at read
    exact ⟨own, (Except.ok.inj read).symm⟩

theorem matches_append (first later : Glob.Patterns) (path : String) :
    Glob.Patterns.matches (first ++ later) path = (first.matches path || later.matches path) := List.any_append

/-! ### Files below a directory -/

/-- A regular file with the name of a source below a directory, by the texts of the names that lead to it. -/
structure SourceBelow (t : FileTree) (place : Location) (texts : List String) : Prop where
  stands : ∃ content, t.get? (place ++ texts.map Text.bytesOf) = some (.file content)
  isSource : isSourceFile (texts.getLast?.getD "") = true

namespace SourceBelow

variable {t : FileTree} {place : Location} {texts texts' : List String}

/-- Without patterns it is sought. -/
theorem sought (source : SourceBelow t place texts) : Sought t [] place texts := ⟨source.stands, source.isSource, rfl⟩

theorem sought_iff (source : SourceBelow t place texts) {ignore : Glob.Patterns} :
    Sought t ignore place texts ↔ ignore.matches (String.intercalate "/" texts) = false :=
  ⟨Sought.free, fun free => ⟨source.stands, source.isSource, free⟩⟩

/-- Its path below the directory tells which file it is. -/
theorem eq_of_below (source : SourceBelow t place texts) (source' : SourceBelow t place texts') (sound : t.Sound)
    {root : String} (same : Input.below root texts = Input.below root texts') : texts = texts' := by
  have relative : String.intercalate "/" texts = String.intercalate "/" texts' := congrArg Input.relative same
  have names := source.sought.segments_eq sound
  rw [relative, source'.sought.segments_eq sound] at names
  exact bytesOf_injective.list_map names.symm

/-- **The pattern that always holds matches it** just if it lies in a directory of packages. -/
theorem matches_packages (source : SourceBelow t place texts) (sound : t.Sound) :
    Glob.Patterns.matches [Glob.belowNamed packageDirectory] (String.intercalate "/" texts) = true ↔
      packageDirectory ∈ texts.dropLast := by
  obtain ⟨content, stands⟩ := source.stands
  have names : ∀ text ∈ texts, Glob.slash ∉ Text.bytesOf text := fun text member =>
    (sound.names _ _ stands _ (List.mem_append_right _ (List.mem_map_of_mem member))).2.2.2
  rw [Glob.Patterns.matches, List.any_cons, List.any_nil, Bool.or_false]
  exact Glob.matches_belowNamed (by decide) names

end SourceBelow

/-! ### What a search takes -/

/-- A search of a directory takes just those source files below it that are wanted. -/
def Takes (t : FileTree) (cwd : Location) (root : String) (place : Location) (ignore : Glob.Patterns)
    (wanted : List String → Prop) : Prop :=
  ∃ inputs, (collect t cwd ignore [root]).result = .ok inputs ∧
    (∀ input ∈ inputs, ∃ texts, SourceBelow t place texts ∧ input = Input.below root texts) ∧
    ∀ texts, SourceBelow t place texts → (Input.below root texts ∈ inputs ↔ wanted texts)

/-- **A search takes the files that no pattern matches.** -/
theorem takes_of_patterns {t : FileTree} (sound : t.Sound) {cwd place : Location} {root : String}
    (found : t.entryAt? cwd root = some (place, .directory)) (textual : t.Textual place) (ignore : Glob.Patterns)
    {wanted : List String → Prop}
    (free : ∀ texts, SourceBelow t place texts →
      (ignore.matches (String.intercalate "/" texts) = false ↔ wanted texts)) :
    Takes t cwd root place ignore wanted := by
  refine ⟨_, (result_collect_singleton ..).trans (harvestPath_directory ignore sound found textual), ?_, ?_⟩
  · intro input member
    obtain ⟨texts, listed, rfl⟩ := List.mem_map.mp member
    have isSought := (mem_sought sound).mp listed
    exact ⟨texts, ⟨isSought.stands, isSought.isSource⟩, rfl⟩
  · intro texts source
    rw [← free texts source, ← source.sought_iff, ← mem_sought sound, List.mem_map]
    refine ⟨fun ⟨texts', listed, same⟩ => ?_, fun listed => ⟨texts, listed, rfl⟩⟩
    have isSought := (mem_sought sound).mp listed
    rwa [← SourceBelow.eq_of_below ⟨isSought.stands, isSought.isSource⟩ source sound same]

/-- **Without patterns of the arguments a search takes all source files but those in directories of packages**, however
deep these lie, and whatever the searched directory is called. Patterns of the arguments can only take more away. -/
theorem collect_packages {t : FileTree} (sound : t.Sound) {cwd place : Location} {root : String}
    (found : t.entryAt? cwd root = some (place, .directory)) (textual : t.Textual place) :
    (∃ ignore, ignorePatterns [] = .ok ignore ∧
      Takes t cwd root place ignore fun texts => packageDirectory ∉ texts.dropLast) ∧
    ∀ patterns ignore, ignorePatterns patterns = .ok ignore → ∃ own, ignore = own ++ [Glob.belowNamed packageDirectory] ∧
      Takes t cwd root place ignore fun texts =>
        packageDirectory ∉ texts.dropLast ∧ own.matches (String.intercalate "/" texts) = false := by
  refine ⟨⟨_, ignorePatterns_nil, takes_of_patterns sound found textual _ fun texts source => ?_⟩, ?_⟩
  · rw [← Bool.not_eq_true, source.matches_packages sound]
  · intro patterns ignore read
    obtain ⟨own, rfl⟩ := ignorePatterns_cases read
    refine ⟨own, rfl, takes_of_patterns sound found textual _ fun texts source => ?_⟩
    rw [matches_append, Bool.or_eq_false_iff, ← Bool.not_eq_true (Glob.Patterns.matches [_] _),
      source.matches_packages sound, and_comm]

/-- A directory with the name of a directory of packages. In it are `a.ts`, `x/node_modules/y/b.ts` and
`xnode_modules/c.ts`. -/
def packages : FileTree :=
  ⟨[([Text.bytesOf "node_modules"], .directory), (["node_modules", "a.ts"].map Text.bytesOf, .file .empty),
    (["node_modules", "x"].map Text.bytesOf, .directory),
    (["node_modules", "x", "node_modules"].map Text.bytesOf, .directory),
    (["node_modules", "x", "node_modules", "y"].map Text.bytesOf, .directory),
    (["node_modules", "x", "node_modules", "y", "b.ts"].map Text.bytesOf, .file .empty),
    (["node_modules", "xnode_modules"].map Text.bytesOf, .directory),
    (["node_modules", "xnode_modules", "c.ts"].map Text.bytesOf, .file .empty)]⟩

/-- Of the three files the second is not taken, and neither is it with a pattern for the third. -/
theorem packages_taken :
    (∃ ignore inputs, ignorePatterns [] = .ok ignore ∧
      (collect packages [] ignore ["node_modules/"]).result = .ok inputs ∧
      Input.below "node_modules/" ["a.ts"] ∈ inputs ∧
      Input.below "node_modules/" ["x", "node_modules", "y", "b.ts"] ∉ inputs ∧
      Input.below "node_modules/" ["xnode_modules", "c.ts"] ∈ inputs) ∧
    ∃ ignore inputs, ignorePatterns ["*/c.ts"] = .ok ignore ∧
      (collect packages [] ignore ["node_modules/"]).result = .ok inputs ∧
      Input.below "node_modules/" ["x", "node_modules", "y", "b.ts"] ∉ inputs := by
  have sound : packages.Sound := sound_of_entries (by decide +kernel)
  have textual : packages.Textual [Text.bytesOf "node_modules"] := textual_of_entries (by decide +kernel) _
  have found : packages.entryAt? [] "node_modules/" = some ([Text.bytesOf "node_modules"], .directory) := by
    decide +kernel
  have first : SourceBelow packages [Text.bytesOf "node_modules"] ["a.ts"] := ⟨⟨.empty, by decide +kernel⟩, by decide⟩
  have second : SourceBelow packages [Text.bytesOf "node_modules"] ["x", "node_modules", "y", "b.ts"] :=
    ⟨⟨.empty, by decide +kernel⟩, by decide⟩
  have third : SourceBelow packages [Text.bytesOf "node_modules"] ["xnode_modules", "c.ts"] :=
    ⟨⟨.empty, by decide +kernel⟩, by decide⟩
  constructor
  · obtain ⟨ignore, read, inputs, result, _, taken⟩ := (collect_packages sound found textual).1
    refine ⟨ignore, inputs, read, result, (taken _ first).mpr (by decide), ?_, (taken _ third).mpr (by decide)⟩
    rw [taken _ second]
    decide
  · have parsed : Glob.parse "*/c.ts" = .ok (.star :: "/c.ts".toList.map .literal) := by
      simp [Glob.parse, Glob.readTokens, Glob.Reading.push, Glob.Reading.inGroup]
    obtain ⟨ignore, read⟩ : ∃ ignore, ignorePatterns ["*/c.ts"] = .ok ignore :=
      World.ignorePatterns_ok (List.forall_mem_singleton.mpr ⟨_, parsed⟩)
    obtain ⟨own, _, inputs, result, _, taken⟩ := (collect_packages sound found textual).2 _ ignore read
    refine ⟨ignore, inputs, read, result, ?_⟩
    rw [taken _ second, not_and]
    exact fun apart => absurd (by decide) apart

end Detype
