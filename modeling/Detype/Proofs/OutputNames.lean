import Detype.Proofs.Run.Collected

/-
**Names of outputs.**

Only the last component of a path matters for the name of its output, and of that only what stands behind its last dot.
So the output of a source file lies where the file lies, two source files have outputs of one name only if their names
differ in `.ts` against `.tsx`, and no output is taken for a source.

* `splitExtension_below` — a path is split where its last component is; `outputFileName_below` — so its output is named
  by that component.
* `EndsInSource` — a path whose last component is the name of a source file.
* `outputFileName_eq_iff` — which of these have outputs of one name.
* `outputFileName_laws` — all three together.
-/

namespace Detype

/-! ### The last component -/

theorem splitExtension_plain {name : List Char} (plain : '.' ∉ name) :
    splitExtension (String.ofList name) = (String.ofList name, "") := by
  unfold splitExtension
  simp [plain]

/-- A dot that stands before a slash does not count. -/
theorem splitExtension_slash (above : List Char) {name : List Char} (plain : '.' ∉ name) :
    splitExtension (String.ofList (above ++ '/' :: name)) = (String.ofList (above ++ '/' :: name), "") := by
  by_cases dotted : '.' ∈ above
  · obtain ⟨behind, before, reversed, none⟩ := List.eq_append_cons_of_mem (List.mem_reverse.mpr dotted)
    have split : above = before.reverse ++ '.' :: behind.reverse := by
      rw [← List.reverse_reverse above, reversed]
      simp
    have undotted : '.' ∉ behind.reverse ++ '/' :: name := by
      simp only [List.mem_append, List.mem_reverse, List.mem_cons, not_or]
      exact ⟨none, by decide, plain⟩
    have found := splitExtension_dot before.reverse undotted
    rw [if_pos (Or.inl (by simp))] at found
    rw [split, List.append_assoc, List.cons_append]
    exact found
  · exact splitExtension_plain (by simp [dotted, plain])

/-- **A path is split where its last component is.** -/
theorem splitExtension_below (above name : List Char) :
    splitExtension (String.ofList (above ++ '/' :: name)) =
      (String.ofList (above ++ '/' :: (splitExtension (String.ofList name)).1.toList),
        (splitExtension (String.ofList name)).2) := by
  by_cases dotted : '.' ∈ name
  · -- The last dot is the first one from behind.
    obtain ⟨behind, before, reversed, plain⟩ := List.eq_append_cons_of_mem (List.mem_reverse.mpr dotted)
    have split : name = before.reverse ++ '.' :: behind.reverse := by
      rw [← List.reverse_reverse name, reversed]
      simp
    rw [← List.mem_reverse] at plain
    rw [split, splitExtension_dot before.reverse plain, ← List.cons_append, ← List.append_assoc,
      splitExtension_dot (above ++ '/' :: before.reverse) plain]
    split <;> simp
  · rw [splitExtension_plain dotted, splitExtension_slash above dotted, String.toList_ofList]

/-- The ending of an output, by the extension of its source. -/
def outputEnding (extension : String) : String :=
  match extension with
  | "mts" => ".mjs"
  | "cts" => ".cjs"
  | _ => ".js"

theorem outputFileName_eq_append (name : String) :
    outputFileName name = (splitExtension name).1 ++ outputEnding (splitExtension name).2 := by
  unfold outputFileName outputEnding
  dsimp only
  split <;> simp only [*]

/-- **The output of a path is named by its last component**, and stands where that stands. -/
theorem outputFileName_below (directory name : String) :
    outputFileName (directory ++ "/" ++ name) = directory ++ "/" ++ outputFileName name := by
  have whole : directory ++ "/" ++ name = String.ofList (directory.toList ++ '/' :: name.toList) :=
    String.toList_inj.mp (by simp)
  rw [outputFileName_eq_append, outputFileName_eq_append name, whole, splitExtension_below,
    String.ofList_toList]
  exact String.toList_inj.mp (by simp)

/-- The output of a path of pieces is named by the last of them. -/
theorem outputFileName_concat (above : List (List Char)) (name : List Char) :
    outputFileName (String.ofList (Path.joinPieces (above ++ [name]))) =
      String.ofList (Path.joinPieces (above ++ [(outputFileName (String.ofList name)).toList])) := by
  by_cases top : above = []
  · simp [top, Path.joinPieces]
  · have whole : ∀ last, String.ofList (Path.joinPieces (above ++ [last])) =
        String.ofList (Path.joinPieces above) ++ "/" ++ String.ofList last :=
      fun last => String.toList_inj.mp (by simp [Path.joinPieces_concat top])
    rw [whole, whole, outputFileName_below, String.ofList_toList]

/-! ### Source files -/

/-- A path whose last component, which is what stands behind its last slash, is the name of a source file. -/
def EndsInSource (path : String) : Prop :=
  ∃ above name, Path.pieces path.toList = above ++ [name] ∧ isSourceFile (String.ofList name) = true

/-- The endings that make a source, or no source, are seen from the whole path. -/
theorem endsIn_joinPieces {above : List (List Char)} {name : List Char} {ending : String}
    (slashless : '/' ∉ ending.toList) :
    endsIn (String.ofList (Path.joinPieces (above ++ [name]))) ending = endsIn (String.ofList name) ending := by
  rw [Bool.eq_iff_iff, endsIn, endsIn, List.isSuffixOf_iff_suffix, List.isSuffixOf_iff_suffix, String.toList_ofList,
    String.toList_ofList]
  constructor
  · rintro ⟨before, spelled⟩
    exact suffix_of_joinPieces spelled.symm slashless
  · rintro ⟨before, spelled⟩
    rw [← spelled, ← Path.joinPieces_concat_append]
    exact List.suffix_append ..

theorem isSourceFile_joinPieces (above : List (List Char)) (name : List Char) :
    isSourceFile (String.ofList (Path.joinPieces (above ++ [name]))) = isSourceFile (String.ofList name) := by
  simp (disch := decide) only [isSourceFile, sourceEndings, declarationEndings, List.any_cons, List.any_nil,
    endsIn_joinPieces]

theorem endsInSource_iff {path : String} : EndsInSource path ↔ isSourceFile path = true := by
  obtain ⟨above, name, split⟩ := List.eq_nil_or_concat (Path.pieces path.toList) |>.resolve_left (Path.pieces_ne_nil _)
  rw [List.concat_eq_append] at split
  have whole : path = String.ofList (Path.joinPieces (above ++ [name])) := by
    rw [← split, Path.joinPieces_pieces, String.ofList_toList]
  rw [whole, isSourceFile_joinPieces, ← whole, EndsInSource, split]
  refine ⟨?_, fun isSource => ⟨above, name, rfl, isSource⟩⟩
  rintro ⟨above', name', same, isSource⟩
  rwa [(List.append_inj' same rfl).2 |> List.singleton_inj.mp]

/-- A path that ends in a source file, with its extension. -/
theorem EndsInSource.extension {path : String} (source : EndsInSource path) :
    ∃ stem, ∃ extension ∈ sourceExtensions, path = String.ofList (stem ++ '.' :: extension) := by
  have isSource := endsInSource_iff.mp source
  rw [← path.ofList_toList] at isSource
  obtain ⟨stem, extension, known, spelled⟩ := extension_of_isSourceFile isSource
  exact ⟨stem, extension, known, by rw [← spelled, String.ofList_toList]⟩

/-- What stands behind the last dot, slash or other character of a kind, and what before it. -/
theorem eq_of_last {c : Char} {before before' behind behind' : List Char} (plain : c ∉ behind) (plain' : c ∉ behind')
    (same : before ++ c :: behind = before' ++ c :: behind') : before = before' ∧ behind = behind' := by
  rcases List.append_eq_append_iff.mp same with ⟨between, rfl, rest⟩ | ⟨between, rfl, rest⟩
  · cases between with
    | nil => exact ⟨(List.append_nil _).symm, (List.cons.inj rest).2⟩
    | cons d between =>
      rw [(List.cons.inj rest).2] at plain
      exact absurd (List.mem_append_right between List.mem_cons_self) plain
  · cases between with
    | nil => exact ⟨List.append_nil _, (List.cons.inj rest).2.symm⟩
    | cons d between =>
      rw [(List.cons.inj rest).2] at plain'
      exact absurd (List.mem_append_right between List.mem_cons_self) plain'

/-- Two paths that differ in `.ts` against `.tsx`. -/
def DifferInX (path path' : String) : Prop := ∃ stem, path = stem ++ ".ts" ∧ path' = stem ++ ".tsx"

theorem DifferInX.outputFileName_eq {path path' : String} (differ : DifferInX path path') :
    outputFileName path = outputFileName path' := by
  obtain ⟨stem, rfl, rfl⟩ := differ
  have spelled : ∀ extension : List Char, stem ++ String.ofList ('.' :: extension) =
      String.ofList (stem.toList ++ '.' :: extension) := fun extension => String.toList_inj.mp (by simp)
  have first := outputFileName_source stem.toList (show ['t', 's'] ∈ sourceExtensions by decide)
  have second := outputFileName_source stem.toList (show ['t', 's', 'x'] ∈ sourceExtensions by decide)
  rw [← spelled] at first second
  exact first.trans second.symm

/-- **Source files have outputs of one name** if they are one, or differ in `.ts` against `.tsx`. -/
theorem outputFileName_eq_iff {path path' : String} (source : EndsInSource path) (source' : EndsInSource path') :
    outputFileName path = outputFileName path' ↔ path = path' ∨ DifferInX path path' ∨ DifferInX path' path := by
  constructor
  · obtain ⟨stem, extension, known, rfl⟩ := source.extension
    obtain ⟨stem', extension', known', rfl⟩ := source'.extension
    intro same
    rw [outputFileName_source stem known, outputFileName_source stem' known'] at same
    have plain : ∀ e ∈ codeExtensions, '.' ∉ e := by decide
    obtain ⟨rfl, alike⟩ := eq_of_last (plain _ (codeExtension_mem _)) (plain _ (codeExtension_mem _))
      (String.ofList_injective same)
    have cases_ : ∀ e ∈ sourceExtensions, ∀ e' ∈ sourceExtensions, codeExtension e = codeExtension e' →
        e = e' ∨ e = ['t', 's'] ∧ e' = ['t', 's', 'x'] ∨ e = ['t', 's', 'x'] ∧ e' = ['t', 's'] := by decide
    rcases cases_ _ known _ known' alike with rfl | ⟨rfl, rfl⟩ | ⟨rfl, rfl⟩
    · exact Or.inl rfl
    · exact Or.inr (Or.inl ⟨String.ofList stem, String.toList_inj.mp (by simp), String.toList_inj.mp (by simp)⟩)
    · exact Or.inr (Or.inr ⟨String.ofList stem, String.toList_inj.mp (by simp), String.toList_inj.mp (by simp)⟩)
  · rintro (rfl | differ | differ)
    · rfl
    · exact differ.outputFileName_eq
    · exact differ.outputFileName_eq.symm

/-- No output has the name of a source file. -/
theorem isSourceFile_outputFileName (path : String) : isSourceFile (outputFileName path) = false := by
  obtain ⟨extension, known, named⟩ := @outputFileName_eq path _ _ rfl
  rw [named]
  exact (not_isSourceFile known).1

/-- **Names of outputs.** Paths that end in source files have outputs of one name just if they are the same or differ in
`.ts` against `.tsx`. The output of a file in a directory is that of its name, in that directory. And no output is a
source, nor is its last component. -/
theorem outputFileName_laws :
    (∀ path path', EndsInSource path → EndsInSource path' →
      (outputFileName path = outputFileName path' ↔ path = path' ∨ DifferInX path path' ∨ DifferInX path' path)) ∧
    (∀ directory name, outputFileName (directory ++ "/" ++ name) = directory ++ "/" ++ outputFileName name) ∧
    ∀ path, isSourceFile (outputFileName path) = false ∧ ¬ EndsInSource (outputFileName path) :=
  ⟨fun _ _ source source' => outputFileName_eq_iff source source', outputFileName_below, fun path =>
    ⟨isSourceFile_outputFileName path, fun source => by
      rw [endsInSource_iff, isSourceFile_outputFileName] at source
      cases source⟩⟩

/-- Of three files in a directory with a dot in its name, two have outputs of one name. -/
theorem dotted_outputs :
    (outputFileName "v1.d/.a.tsx" = outputFileName "v1.d/.a.ts" ∧ outputFileName "v1.d/.a.mts" ≠ outputFileName "v1.d/.a.ts") ∧
      EndsInSource "v1.d/.a.tsx" ∧ EndsInSource "v1.d/.a.ts" ∧ EndsInSource "v1.d/.a.mts" := by
  have sources : EndsInSource "v1.d/.a.tsx" ∧ EndsInSource "v1.d/.a.ts" ∧ EndsInSource "v1.d/.a.mts" := by
    refine ⟨?_, ?_, ?_⟩ <;> exact endsInSource_iff.mpr (by decide)
  obtain ⟨first, second, third⟩ := sources
  exact ⟨⟨(outputFileName_laws.1 _ _ first second).mpr (.inr (.inr ⟨"v1.d/.a", rfl, rfl⟩)), by decide⟩,
    first, second, third⟩

end Detype
