import Detype.Proofs.Files.Errand

/-
**Following names to a file, links included.**

* `FileTree.Leads` — how names lead to a place for a file, through directories and links.
* `leads_of_resolves`, `Leads.resolves` — pieces resolve to such a place just if they lead there.
* `Keeps.entryAt?_file`, `Keeps.entryAt?_directory` — paths lead where they led, as long as directories and links stay.
* `fileName?_of_file` — a path that leads to a file ends in the name of a file.
* `writeFile_cases` — what a write does to the one place that its path leads to.
* `entryAt?_writeFile` — a path to which bytes are written leads to them.
* `entryAt?_writeOutput` — so does the destination of an output that could be written.
-/

namespace Detype

/-- The place that a target names, if that is one for a file. -/
def Target.lodging? : Target → Option Location
  | .found place (.file _) => some place
  | .vacant place false => some place
  | _ => none

namespace FileTree

/-- A place for a file: a file stands there, or nothing does. -/
def Lodges (t : FileTree) (place : Location) : Prop :=
  t.get? place = none ∨ ∃ content, t.get? place = some (.file content)

theorem Lodges.apart {t : FileTree} {place p : Location} {entry : Entry} (lodges : t.Lodges place)
    (stands : t.get? p = some entry) (other : ∀ content, entry ≠ .file content) : p ≠ place := by
  rintro rfl
  rcases lodges with free | ⟨content, file⟩
  · rw [stands] at free
    cases free
  · rw [stands] at file
    exact other content (Option.some.inj file)

/-- No file stands at the top. -/
theorem Lodges.below {t : FileTree} {place : Location} (lodges : t.Lodges place) : place ≠ [] :=
  (lodges.apart (get?_nil t) (by simp)).symm

/-- Directories and links of a tree are what they were in another. -/
structure Keeps (t t' : FileTree) : Prop where
  stays : ∀ {p : Location} {entry : Entry}, t.get? p = some entry → (∀ content, entry ≠ .file content) →
    t'.get? p = some entry

/-- How names lead from a directory to a place for a file, through at most so many links. -/
inductive Leads (t : FileTree) : (links : Nat) → Location → List FileName → Location → Prop
  | last {links here n} : LookedUp n → t.Lodges (here ++ [n]) → Leads t links here [n] (here ++ [n])
  | blank {links here n rest place} : isBlank n = true → Leads t links here rest place →
      Leads t links here (n :: rest) place
  | up {links here rest place} : Leads t links here.dropLast rest place →
      Leads t links here (dotDot :: rest) place
  | down {links here n rest place} : LookedUp n → t.get? (here ++ [n]) = some .directory →
      Leads t links (here ++ [n]) rest place → Leads t links here (n :: rest) place
  | link {links here n rest target place} : LookedUp n → t.get? (here ++ [n]) = some (.link target) →
      Leads t links (if Path.isAbsolute target then [] else here) (segments target ++ rest) place →
      Leads t (links + 1) here (n :: rest) place

/-- **Pieces that resolve to a place for a file lead there.** -/
theorem leads_of_resolves {t : FileTree} {links : Nat} {here place : Location} {segs : List FileName} {target : Target}
    (resolves : t.Resolves true links here segs target) (names : target.lodging? = some place) :
    t.Leads links here segs place := by
  induction resolves with
  | done | lastLink => cases names
  | blank blank _ ih => exact .blank blank (ih names)
  | up _ ih => exact .up (ih names)
  | directory looked stands _ ih => exact .down looked stands (ih names)
  | @vacant _ _ _ rest looked free _ =>
    cases rest with
    | nil =>
      cases names
      exact .last looked (Or.inl free)
    | cons m more => cases names
  | file looked stands =>
    cases names
    exact .last looked (Or.inr ⟨_, stands⟩)
  | link looked stands _ _ ih => exact .link looked stands (ih names)

namespace Leads

variable {t : FileTree} {links : Nat} {here place : Location} {segs : List FileName}

theorem lodges (leads : t.Leads links here segs place) : t.Lodges place := by
  induction leads with
  | last looked lodges => exact lodges
  | blank _ _ ih | up _ ih | down _ _ _ ih | link _ _ _ ih => exact ih

/-- **Names lead to a place for a file only if the last of them names an entry.** -/
theorem ends (leads : t.Leads links here segs place) : ∃ n, segs.getLast? = some n ∧ LookedUp n := by
  induction leads with
  | last looked _ => exact ⟨_, rfl, looked⟩
  | @blank _ _ n rest _ _ _ ih | @up _ _ rest _ _ ih | @down _ _ n rest _ _ _ _ ih =>
    obtain ⟨last, ends, looked⟩ := ih
    refine ⟨last, ?_, looked⟩
    rw [List.getLast?_cons, ends]
    rfl
  | @link _ _ n rest target _ looked _ _ ih =>
    cases rest with
    | nil => exact ⟨n, rfl, looked⟩
    | cons m more =>
      obtain ⟨last, ends, looked'⟩ := ih
      refine ⟨last, ?_, looked'⟩
      rw [List.getLast?_append, List.getLast?_cons, Option.some_or] at ends
      rw [List.getLast?_cons_cons, List.getLast?_cons, ends]

/-- Without links names lead to a place under the last of them. -/
theorem place_eq (leads : t.Leads links here segs place) (linkless : t.Linkless) :
    ∃ n above, segs.getLast? = some n ∧ place = above ++ [n] := by
  induction leads with
  | last => exact ⟨_, _, rfl, rfl⟩
  | @blank _ _ n rest _ _ _ ih | @up _ _ rest _ _ ih | @down _ _ n rest _ _ _ _ ih =>
    obtain ⟨last, above, ends, there⟩ := ih
    refine ⟨last, above, ?_, there⟩
    rw [List.getLast?_cons, ends]
    rfl
  | link _ stands => exact absurd stands (linkless _ _)

/-- **Names lead where they led before**, if directories and links are what they were. -/
theorem mono {t' : FileTree} (leads : t.Leads links here segs place) (lodges' : t'.Lodges place)
    (keeps : t.Keeps t') : t'.Leads links here segs place := by
  induction leads with
  | last looked _ => exact .last looked lodges'
  | blank named _ ih => exact .blank named (ih lodges')
  | up _ ih => exact .up (ih lodges')
  | down looked stands _ ih => exact .down looked (keeps.stays stands (by simp)) (ih lodges')
  | link looked stands _ ih => exact .link looked (keeps.stays stands (by simp)) (ih lodges')

/-- **Names that lead to a file resolve to it.** -/
theorem resolves {content : ByteArray} (leads : t.Leads links here segs place)
    (stands : t.get? place = some (.file content)) :
    t.Resolves true links here segs (.found place (.file content)) := by
  induction leads with
  | last looked _ => exact .file looked stands
  | blank blank _ ih => exact .blank blank (ih stands)
  | up _ ih => exact .up (ih stands)
  | down looked directory _ ih => exact .directory looked directory (ih stands)
  | link looked text _ ih => exact .link looked text (Bool.and_false _) (ih stands)

end Leads

/-! ### Paths to files -/

/-- A path that is found to lead to a place for a file leads there by its pieces. -/
theorem leads_of_locate {t : FileTree} {cwd place : Location} {path : String} {target : Target}
    (located : t.locate cwd path = .ok target) (names : target.lodging? = some place) :
    textFault? path = none ∧ t.Leads linkLimit (start cwd path) (segments path) place := by
  obtain ⟨nameable, resolves⟩ := locate_eq_ok.mp located
  exact ⟨nameable, leads_of_resolves resolves names⟩

theorem leads_of_file {t : FileTree} {cwd place : Location} {path : String} {content : ByteArray}
    (found : t.entryAt? cwd path = some (place, .file content)) :
    textFault? path = none ∧ t.Leads linkLimit (start cwd path) (segments path) place :=
  leads_of_locate (entryAt?_eq_some.mp found) rfl

theorem entryAt?_of_leads {t : FileTree} {cwd place : Location} {path : String} (nameable : textFault? path = none)
    (leads : t.Leads linkLimit (start cwd path) (segments path) place) {content : ByteArray}
    (stands : t.get? place = some (.file content)) : t.entryAt? cwd path = some (place, .file content) :=
  entryAt?_iff_resolves.mpr ⟨nameable, leads.resolves stands⟩

/-- **A file stands where a path leads to one.** -/
theorem get?_of_entryAt? {t : FileTree} {cwd place : Location} {path : String} {content : ByteArray}
    (found : t.entryAt? cwd path = some (place, .file content)) : t.get? place = some (.file content) :=
  (entryAt?_iff_resolves.mp found).2.stands (by simp)

/-- **A path that leads to a file ends in the name of a file.** -/
theorem ending_of_file {t : FileTree} {cwd place : Location} {path : String} {content : ByteArray}
    (found : t.entryAt? cwd path = some (place, .file content)) :
    ∃ front last, Path.Ending path front last ∧ Path.Proper last := by
  obtain ⟨_, leads⟩ := leads_of_file found
  obtain ⟨n, ends, looked⟩ := leads.ends
  rw [segments_eq, List.getLast?_map, Option.map_eq_some_iff] at ends
  obtain ⟨last, ends, rfl⟩ := ends
  obtain ⟨front, spelled⟩ := List.getLast?_eq_some_iff.mp ends
  have named : Path.isTrivial last = false := by rw [← isBlank_nameOf, looked.named]
  have down : last ≠ ['.', '.'] := by
    rintro rfl
    exact looked.down nameOf_dotDot
  exact ⟨_, last, ⟨⟨front, spelled, rfl⟩, named⟩, named, down, Path.not_mem_of_mem_pieces (spelled ▸ List.mem_concat_self)⟩

theorem fileName?_of_file {t : FileTree} {cwd place : Location} {path : String} {content : ByteArray}
    (found : t.entryAt? cwd path = some (place, .file content)) :
    ∃ name, Path.fileName? path = some name ∧ Path.Proper name.toList ∧ name.toList <:+ path.toList := by
  obtain ⟨front, last, ending, proper⟩ := ending_of_file found
  obtain ⟨ps, spelled, _⟩ := ending.spelled
  refine ⟨String.ofList last, ending.fileName? proper.down, ?_, ?_⟩
  · rwa [String.toList_ofList]
  · rw [String.toList_ofList, ← Path.joinPieces_pieces path.toList, spelled]
    exact ⟨_, Path.joinPieces_concat_append ps [] last⟩

/-- **Without links a path leads to a file under its last name.** -/
theorem place_of_file {t : FileTree} (linkless : t.Linkless) {cwd place : Location} {path : String}
    {front : List (List Char)} {last : List Char} (ending : Path.Ending path front last) {content : ByteArray}
    (found : t.entryAt? cwd path = some (place, .file content)) : ∃ above, place = above ++ [nameOf last] := by
  obtain ⟨_, leads⟩ := leads_of_file found
  obtain ⟨n, above, ends, rfl⟩ := leads.place_eq linkless
  obtain ⟨ps, spelled, _⟩ := ending.spelled
  rw [segments_eq, spelled, List.map_append, List.map_singleton, List.getLast?_concat] at ends
  exact ⟨above, by rw [Option.some.inj ends]⟩

/-- **A path leads to the file that it led to**, as long as there is one. -/
theorem Keeps.entryAt?_file {t t' : FileTree} (keeps : t.Keeps t') {cwd place : Location} {path : String}
    {content content' : ByteArray} (found : t.entryAt? cwd path = some (place, .file content))
    (stands : t'.get? place = some (.file content')) :
    t'.entryAt? cwd path = some (place, .file content') := by
  obtain ⟨nameable, leads⟩ := leads_of_file found
  exact entryAt?_of_leads nameable (leads.mono (Or.inr ⟨content', stands⟩) keeps) stands

/-- Names that lead to a directory lead to it later. -/
theorem Keeps.resolves_directory {t t' : FileTree} (keeps : t.Keeps t') {links : Nat} {here place : Location}
    {segs : List FileName} (resolves : t.Resolves true links here segs (.found place .directory)) :
    t'.Resolves true links here segs (.found place .directory) := by
  generalize found : Target.found place .directory = target at resolves ⊢
  induction resolves with
  | done => exact .done
  | blank blank _ ih => exact .blank blank (ih found)
  | up _ ih => exact .up (ih found)
  | directory looked stands _ ih => exact .directory looked (keeps.stays stands (by simp)) (ih found)
  | link looked stands on _ ih => exact .link looked (keeps.stays stands (by simp)) on (ih found)
  | vacant | file | lastLink => cases found

/-- **A path leads to the directory that it led to.** -/
theorem Keeps.entryAt?_directory {t t' : FileTree} (keeps : t.Keeps t') {cwd place : Location} {path : String}
    (found : t.entryAt? cwd path = some (place, .directory)) :
    t'.entryAt? cwd path = some (place, .directory) := by
  rw [entryAt?_iff_resolves] at found ⊢
  exact ⟨found.1, keeps.resolves_directory found.2⟩

/-- Directories and links stay what they are when something is put at a place for a file. -/
theorem Lodges.keeps_set {t : FileTree} {place : Location} (lodges : t.Lodges place) (entry : Entry) :
    t.Keeps (t.set place entry) := by
  refine ⟨fun here other => ?_⟩
  rw [get?_set_ne t (lodges.apart here other), here]

/-- A file that is put where a path leads to a place for a file is found by the path. -/
theorem entryAt?_set {t : FileTree} {cwd place : Location} {path : String} {target : Target}
    (located : t.locate cwd path = .ok target) (names : target.lodging? = some place) (content : ByteArray) :
    (t.set place (.file content)).entryAt? cwd path = some (place, .file content) := by
  obtain ⟨nameable, leads⟩ := leads_of_locate located names
  have below := leads.lodges.below
  have stands : (t.set place (.file content)).get? place = some (.file content) := get?_set_self t below _
  exact entryAt?_of_leads nameable (leads.mono (Or.inr ⟨content, stands⟩) (leads.lodges.keeps_set _)) stands

/-- **A write puts its bytes at one place**: where a file stood to which the path leads, or where nothing stood. -/
theorem writeFile_cases {t t' : FileTree} {cwd : Location} {path : String} {content : ByteArray}
    (written : t.writeFile cwd path content = .ok t') :
    ∃ place, place ≠ [] ∧ t' = t.set place (.file content) ∧ t'.entryAt? cwd path = some (place, .file content) ∧
      ((∃ old, t.entryAt? cwd path = some (place, .file old) ∧ t.get? place = some (.file old)) ∨
        (t.entryAt? cwd path = none ∧ t.get? place = none)) := by
  have put : ∀ {target place}, t.locate cwd path = .ok target → target.lodging? = some place →
      place ≠ [] ∧ (t.set place (.file content)).entryAt? cwd path = some (place, .file content) := by
    intro target place located names
    exact ⟨(leads_of_locate located names).2.lodges.below, entryAt?_set located names content⟩
  unfold writeFile at written
  cases located : t.locate cwd path with
  | error e =>
    rw [located] at written
    cases written
  | ok target =>
    rw [located] at written
    cases target with
    | found place entry =>
      cases entry with
      | directory | link _ => cases written
      | file old =>
        cases written
        obtain ⟨below, leads⟩ := put located rfl
        have found := entryAt?_eq_some.mpr located
        exact ⟨place, below, rfl, leads, Or.inl ⟨old, found, get?_of_entryAt? found⟩⟩
    | vacant place asDirectory =>
      cases asDirectory with
      | true => cases written
      | false =>
        cases written
        obtain ⟨below, leads⟩ := put located rfl
        exact ⟨place, below, rfl, leads, Or.inr ⟨by rw [entryAt?, located], (locate_eq_ok.mp located).2.free⟩⟩

/-- **A path to which bytes are written leads to them.** -/
theorem entryAt?_writeFile {t t' : FileTree} {cwd : Location} {path : String} {content : ByteArray}
    (written : t.writeFile cwd path content = .ok t') :
    ∃ place, t'.entryAt? cwd path = some (place, .file content) := by
  obtain ⟨place, _, _, leads, _⟩ := writeFile_cases written
  exact ⟨place, leads⟩

end FileTree

open FileTree

theorem entryAt?_writeText {t : FileTree} {cwd : Location} {path text : String}
    (written : (writeText t cwd path text).2 = .ok ()) :
    ∃ place, (writeText t cwd path text).1.entryAt? cwd path = some (place, .file text.toUTF8) := by
  unfold writeText at written ⊢
  split at written
  · next put => exact entryAt?_writeFile put
  · cases written

/-- **The code of an output that could be written** is found at its destination. -/
theorem entryAt?_writeOutput {t : FileTree} {cwd : Location} {destination : String} {output : Output}
    (written : (writeOutput t cwd destination output).2 = .ok ()) :
    ∃ place, (writeOutput t cwd destination output).1.entryAt? cwd destination = some (place, .file
      (if output.sourceMap.isSome then withMapComment output.code destination else output.code).toUTF8) := by
  rw [writeOutput_stages] at written ⊢
  split at written
  · cases written
  · unfold writeFiles at written ⊢
    cases maps : output.sourceMap with
    | none =>
      rw [maps] at written
      exact entryAt?_writeText written
    | some map =>
      rw [maps] at written
      dsimp only at written ⊢
      split at written
      · cases written
      · exact entryAt?_writeText written

end Detype
