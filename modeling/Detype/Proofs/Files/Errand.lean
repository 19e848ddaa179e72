import Detype.Proofs.Files.Way
import Detype.Run.Process

/-
**Writing an output as an errand.**

Where there are no links, the places that the writing of an output comes to are known beforehand: the
directories on the way to it, then the source map, then the code. What stands at these places decides
how far the writing gets.

* `Errand` — the way and the files of a writing; `Errand.run` carries it out.
* `Errand.run_get?` — a place stays as it is, or is free and becomes a directory, or gets a file of the errand.
* `Done.run_other`, `Done.run_again` — an errand that is done stays done, and run again it changes nothing.
* `writeOutput_stages` — an output is written in two stages, the directories above it and its files.
* `writeOutput_eq` — writing an output is running its errand.
-/

namespace Detype

namespace FileTree

/-! ### Files at the end of a way -/

theorem arrive_append (here : Location) (names more : List FileName) :
    arrive here (names ++ more) = arrive (arrive here names) more := by
  induction names generalizing here with
  | nil => rfl
  | cons n rest ih =>
    by_cases up : n = dotDot
    · subst up
      rw [List.cons_append, arrive_dotDot, arrive_dotDot, ih]
    · rw [List.cons_append, arrive_cons up, arrive_cons up, ih]

/-- Names that do not lead up lead below. -/
theorem arrive_of_not_mem {names : List FileName} (down : dotDot ∉ names) (here : Location) :
    arrive here names = here ++ names := by
  induction names generalizing here with
  | nil => simp [arrive]
  | cons n rest ih =>
    rw [List.mem_cons, not_or] at down
    rw [arrive_cons (Ne.symm down.1), ih down.2]
    simp

theorem eq_arrive_of_walk {t : FileTree} {here place : Location} {names : List FileName}
    (found : t.walk here names = .ok (.found place .directory)) : place = arrive here names := by
  induction names generalizing here with
  | nil =>
    cases found
    rfl
  | cons n rest ih =>
    rcases walk_cons_directory found with ⟨rfl, later⟩ | ⟨up, _, _, later⟩
    · rw [arrive_dotDot, ih later]
    · rw [arrive_cons up, ih later]

/-- The place of a file, as far as the text of its path tells it. -/
def spot (cwd : Location) (path : String) : Except FileError Location :=
  match textFault? path with
  | some e => .error e
  | none =>
    if ((route path).getLast?.getD []).length > 255 then .error .nameTooLong
    else .ok (arrive (start cwd path) (route path))

theorem spot_eq_ok {cwd place : Location} {path : String} (named : spot cwd path = .ok place) :
    textFault? path = none ∧ ¬ ((route path).getLast?.getD []).length > 255 ∧
      place = arrive (start cwd path) (route path) := by
  unfold spot at named
  split at named
  · cases named
  · next plain =>
    split at named
    · cases named
    · next short => exact ⟨plain, short, (Except.ok.inj named).symm⟩

/-- Puts bytes where no directory stands. -/
def putAt (t : FileTree) (place : Location) (content : ByteArray) : Except FileError FileTree :=
  match t.get? place with
  | some .directory => .error .isDirectory
  | _ => .ok (t.set place (.file content))

/-- Puts bytes at a place, if there is one. -/
def putSpot (t : FileTree) (spot : Except FileError Location) (content : ByteArray) : Except FileError FileTree :=
  match spot with
  | .error e => .error e
  | .ok place => t.putAt place content

theorem putSpot_eq_ok {t t' : FileTree} {spot : Except FileError Location} {content : ByteArray}
    (put : t.putSpot spot content = .ok t') : ∃ place, spot = .ok place ∧ t.putAt place content = .ok t' := by
  cases spot with
  | error e => cases put
  | ok place => exact ⟨place, rfl, put⟩

/-- **A file at the end of a way** that can be walked is written at its spot. -/
theorem writeFile_eq {t : FileTree} (linkless : t.Linkless) (cwd : Location) {path : String}
    {front : List (List Char)} {last : List Char} (ending : Path.Ending path front last)
    (down : nameOf last ≠ dotDot) {place : Location}
    (walked : t.walk (start cwd path) (front.map nameOf) = .ok (.found place .directory)) (content : ByteArray) :
    t.writeFile cwd path content = t.putSpot (spot cwd path) content := by
  have whole : route path = front.map nameOf ++ [nameOf last] := by
    rw [route, ending.names_eq, List.map_append]
    rfl
  unfold writeFile spot putSpot
  rw [locate_eq_walk linkless cwd ending.tight true]
  cases textFault? path with
  | some e => rfl
  | none =>
    dsimp only
    rw [whole, walk_append walked, arrive_append, ← eq_arrive_of_walk walked, List.getLast?_concat]
    dsimp only [Option.getD_some]
    rw [show arrive place [nameOf last] = place ++ [nameOf last] from arrive_cons down place []]
    rcases name_cases linkless place (nameOf last) with
      up | ⟨_, long | ⟨short, free | stands | ⟨content', stands⟩⟩⟩
    · exact absurd up down
    · rw [walk_long down long, if_pos long]
      rfl
    · rw [walk_vacant down short free, if_neg short]
      simp only [putAt, free]
      rfl
    · rw [walk_directory down short stands, if_neg short]
      simp only [putAt, stands]
      rfl
    · rw [walk_file down short stands, if_neg short]
      simp only [putAt, stands]
      rfl

/-- Puts files one after the other, as far as each has a place and can stand there. -/
def putAll : FileTree → List (Except FileError Location × ByteArray) → FileTree × Except FileError Unit
  | t, [] => (t, .ok ())
  | t, (spot, content) :: rest =>
    match t.putSpot spot content with
    | .error e => (t, .error e)
    | .ok t => putAll t rest

theorem putAll_cons (t : FileTree) (spot : Except FileError Location) (content : ByteArray)
    (rest : List (Except FileError Location × ByteArray)) :
    putAll t ((spot, content) :: rest) =
      match t.putSpot spot content with
      | .error e => (t, .error e)
      | .ok t => putAll t rest := rfl

theorem get?_nil (t : FileTree) : t.get? [] = some .directory := rfl

/-- Bytes are put at a place that is no directory, and nowhere else. -/
theorem putAt_eq_ok {t t' : FileTree} {place : Location} {content : ByteArray}
    (put : t.putAt place content = .ok t') :
    t.get? place ≠ some .directory ∧ place ≠ [] ∧ t' = t.set place (.file content) := by
  unfold putAt at put
  split at put
  · cases put
  · next free =>
    cases put
    refine ⟨free, fun root => free ?_, rfl⟩
    rw [root, get?_nil]

theorem putAll_get? {t : FileTree} (files : List (Except FileError Location × ByteArray)) (p : Location) :
    (putAll t files).1.get? p = t.get? p ∨ t.get? p ≠ some .directory ∧
      ∃ content, (.ok p, content) ∈ files ∧ (putAll t files).1.get? p = some (.file content) := by
  induction files generalizing t with
  | nil => exact Or.inl rfl
  | cons file rest ih =>
    obtain ⟨spot, content⟩ := file
    rw [putAll_cons]
    cases put : t.putSpot spot content with
    | error e => exact Or.inl rfl
    | ok t' =>
      obtain ⟨place, rfl, written⟩ := putSpot_eq_ok put
      obtain ⟨free, below, rfl⟩ := putAt_eq_ok written
      dsimp only
      rcases ih (t := t.set place (.file content)) with same | ⟨open', later, member, stands⟩
      · rw [get?_set t below] at same
        by_cases here : p = place
        · rw [if_pos here] at same
          subst here
          exact Or.inr ⟨free, content, List.mem_cons_self, same⟩
        · rw [if_neg here] at same
          exact Or.inl same
      · refine Or.inr ⟨?_, later, List.mem_cons_of_mem _ member, stands⟩
        rw [get?_set t below] at open'
        by_cases here : p = place
        · rw [here]
          exact free
        · rwa [if_neg here] at open'

/-- **Files that could all be put stand where they belong**, if they have places of their own. -/
theorem putAll_stands {t : FileTree} {files : List (Except FileError Location × ByteArray)}
    (apart : files.Pairwise fun a b => ∀ place, a.1 = .ok place → b.1 ≠ .ok place)
    (done : (putAll t files).2 = .ok ()) :
    ∀ file ∈ files, ∃ place, file.1 = .ok place ∧ (putAll t files).1.get? place = some (.file file.2) := by
  induction files generalizing t with
  | nil => simp
  | cons file rest ih =>
    obtain ⟨spot, content⟩ := file
    obtain ⟨first, others⟩ := List.pairwise_cons.mp apart
    rw [putAll_cons] at done ⊢
    cases put : t.putSpot spot content with
    | error e =>
      rw [put] at done
      cases done
    | ok t' =>
      rw [put] at done
      obtain ⟨place, rfl, written⟩ := putSpot_eq_ok put
      obtain ⟨_, below, rfl⟩ := putAt_eq_ok written
      intro file member
      rcases List.mem_cons.mp member with rfl | later
      · refine ⟨place, rfl, ?_⟩
        rcases putAll_get? rest place with same | ⟨_, other, listed, _⟩
        · exact same.trans (get?_set_self t below _)
        · exact absurd rfl (first _ listed place rfl)
      · exact ih others done file later

/-- Bytes that are put where they stand change nothing. -/
theorem putAt_again {t : FileTree} {place : Location} {content : ByteArray}
    (stands : t.get? place = some (.file content)) :
    ∃ t', t.putAt place content = .ok t' ∧ ∀ p, t'.get? p = t.get? p := by
  have below : place ≠ [] := by
    rintro rfl
    cases stands
  refine ⟨t.set place (.file content), ?_, fun p => ?_⟩
  · unfold putAt
    rw [stands]
  · rw [get?_set t below]
    split
    · next same => rw [same, stands]
    · rfl

/-- **Files that are put where they stand change nothing.** -/
theorem putAll_again {t : FileTree} {files : List (Except FileError Location × ByteArray)}
    (stand : ∀ file ∈ files, ∃ place, file.1 = .ok place ∧ t.get? place = some (.file file.2)) :
    (putAll t files).2 = .ok () ∧ ∀ p, (putAll t files).1.get? p = t.get? p := by
  induction files generalizing t with
  | nil => exact ⟨rfl, fun _ => rfl⟩
  | cons file rest ih =>
    obtain ⟨spot, content⟩ := file
    obtain ⟨place, rfl, stands⟩ := stand _ List.mem_cons_self
    obtain ⟨t', put, same⟩ := putAt_again stands
    have later := @ih t' fun file member => by
      obtain ⟨place', named, stands'⟩ := stand file (List.mem_cons_of_mem _ member)
      exact ⟨place', named, (same place').trans stands'⟩
    have put' : t.putSpot (.ok place) content = .ok t' := put
    rw [putAll_cons, put']
    exact ⟨later.1, fun p => (later.2 p).trans (same p)⟩

/-- A file at its spot is found by its path, if the way to it can be walked. -/
theorem entryAt?_of_spot {t : FileTree} (linkless : t.Linkless) {cwd above place : Location} {path : String}
    {front : List (List Char)} {last : List Char} (ending : Path.Ending path front last)
    (down : nameOf last ≠ dotDot) (named : spot cwd path = .ok place)
    (walked : t.walk (start cwd path) (front.map nameOf) = .ok (.found above .directory)) {content : ByteArray}
    (stands : t.get? place = some (.file content)) :
    t.entryAt? cwd path = some (place, .file content) := by
  have whole : route path = front.map nameOf ++ [nameOf last] := by
    rw [route, ending.names_eq, List.map_append]
    rfl
  obtain ⟨plain, short, place_eq⟩ := spot_eq_ok named
  rw [whole, List.getLast?_concat, Option.getD_some] at short
  rw [whole, arrive_append, ← eq_arrive_of_walk walked,
    show arrive above [nameOf last] = above ++ [nameOf last] from arrive_cons down above []] at place_eq
  rw [place_eq] at stands ⊢
  unfold entryAt?
  rw [locate_eq_walk linkless cwd ending.tight true, plain]
  dsimp only
  rw [whole, walk_append walked, walk_file down short stands]
  rfl

end FileTree

open FileTree

/-! ### Errands -/

/-- The way and the files of a writing. -/
structure Errand where
  /-- Why the directories cannot be named, if they cannot. -/
  fault : Option FileError := none
  /-- Where the way starts. -/
  base : Location := []
  way : List FileName := []
  files : List (Except FileError Location × ByteArray) := []

namespace Errand

/-- Makes the way and puts the files. -/
def run (e : Errand) (t : FileTree) : FileTree × Except FileError Unit :=
  match e.fault with
  | some fault => (t, .error fault)
  | none =>
    match makeWay false t e.base e.way with
    | (t, .error fault) => (t, .error fault)
    | (t, .ok ()) => putAll t e.files

/-- An errand with nothing to do. -/
def idle : Errand := {}

@[simp]
theorem run_idle (t : FileTree) : idle.run t = (t, .ok ()) := rfl

theorem run_fault {e : Errand} {fault : FileError} (refused : e.fault = some fault) (t : FileTree) :
    e.run t = (t, .error fault) := by rw [run, refused]

theorem run_of_way {e : Errand} {t : FileTree} (nameable : e.fault = none)
    (made : (makeWay false t e.base e.way).2 = .ok ()) :
    e.run t = putAll (makeWay false t e.base e.way).1 e.files := by
  unfold run
  rw [nameable]
  dsimp only
  split
  · next failed =>
    rw [failed] at made
    cases made
  · next done => rw [done]

theorem run_of_way_error {e : Errand} {t : FileTree} {fault : FileError} (nameable : e.fault = none)
    (refused : (makeWay false t e.base e.way).2 = .error fault) :
    e.run t = ((makeWay false t e.base e.way).1, .error fault) := by
  unfold run
  rw [nameable]
  dsimp only
  split
  · next failed =>
    rw [failed] at refused ⊢
    rw [← refused]
  · next done =>
    rw [done] at refused
    cases refused

/-- **A place stays as it is, or is free and becomes a directory, or gets a file of the errand.** -/
theorem run_get? (e : Errand) {t : FileTree} (linkless : t.Linkless) (p : Location) :
    (e.run t).1.get? p = t.get? p ∨ t.get? p = none ∧ (e.run t).1.get? p = some .directory ∨
      t.get? p ≠ some .directory ∧
        ∃ content, (.ok p, content) ∈ e.files ∧ (e.run t).1.get? p = some (.file content) := by
  cases nameable : e.fault with
  | some fault =>
    rw [run_fault nameable]
    exact Or.inl rfl
  | none =>
    have onWay := makeWay_get? linkless false e.base e.way p
    cases made : (makeWay false t e.base e.way).2 with
    | error fault =>
      rw [run_of_way_error nameable made]
      rcases onWay with same | new
      · exact Or.inl same
      · exact Or.inr (Or.inl new)
    | ok done =>
      rw [run_of_way nameable made]
      rcases putAll_get? e.files p with same | ⟨open', content, member, stands⟩
      · rw [same]
        rcases onWay with same | new
        · exact Or.inl same
        · exact Or.inr (Or.inl new)
      · refine Or.inr (Or.inr ⟨?_, content, member, stands⟩)
        intro directory
        exact open' (makeWay_keeps linkless _ _ _ directory)

theorem linkless_run (e : Errand) {t : FileTree} (linkless : t.Linkless) : (e.run t).1.Linkless := by
  intro place target
  rcases e.run_get? linkless place with same | ⟨_, new⟩ | ⟨_, content, _, stands⟩
  · rw [same]
    exact linkless place target
  · rw [new]
    simp
  · rw [stands]
    simp

/-- The errand is done: its way can be walked, and its files stand. -/
structure Done (e : Errand) (t : FileTree) : Prop where
  walked : t.walk e.base e.way = .ok (.found (arrive e.base e.way) .directory)
  stands : ∀ file ∈ e.files, ∃ place, file.1 = .ok place ∧ t.get? place = some (.file file.2)

/-- **An errand that succeeds is done.** -/
theorem done_run {e : Errand} {t : FileTree} (linkless : t.Linkless)
    (apart : e.files.Pairwise fun a b => ∀ place, a.1 = .ok place → b.1 ≠ .ok place)
    (done : (e.run t).2 = .ok ()) : e.Done (e.run t).1 := by
  cases nameable : e.fault with
  | some fault =>
    rw [run_fault nameable] at done
    cases done
  | none =>
    cases made : (makeWay false t e.base e.way).2 with
    | error fault =>
      rw [run_of_way_error nameable made] at done
      cases done
    | ok _ =>
      rw [run_of_way nameable made] at done ⊢
      refine ⟨walk_mono (fun p directory => ?_) (walk_of_makeWay linkless made), putAll_stands apart done⟩
      rcases putAll_get? e.files p with same | ⟨other, _⟩
      · rw [same, directory]
      · exact absurd directory other

/-- **An errand that is done stays done** when another with other files is run. -/
theorem Done.run_other {e other : Errand} {t : FileTree} (done : e.Done t) (linkless : t.Linkless)
    (apart : ∀ place content content', (.ok place, content) ∈ e.files → (.ok place, content') ∉ other.files) :
    e.Done (other.run t).1 := by
  refine ⟨walk_mono (fun p directory => ?_) done.walked, fun file member => ?_⟩
  · rcases other.run_get? linkless p with same | ⟨free, _⟩ | ⟨taken, _⟩
    · rw [same, directory]
    · rw [directory] at free
      cases free
    · exact absurd directory taken
  · obtain ⟨place, named, stands⟩ := done.stands file member
    refine ⟨place, named, ?_⟩
    rcases other.run_get? linkless place with same | ⟨free, _⟩ | ⟨_, content, listed, _⟩
    · rw [same, stands]
    · rw [stands] at free
      cases free
    · rw [← Prod.eta file, named] at member
      exact absurd listed (apart place _ _ member)

theorem fault_of_run {e : Errand} {t : FileTree} (done : (e.run t).2 = .ok ()) : e.fault = none := by
  cases nameable : e.fault with
  | none => rfl
  | some fault =>
    rw [run_fault nameable] at done
    cases done

/-- **An errand that is done can be run again without a change.** -/
theorem Done.run_again {e : Errand} {t : FileTree} (done : e.Done t) (nameable : e.fault = none) :
    (e.run t).2 = .ok () ∧ ∀ p, (e.run t).1.get? p = t.get? p := by
  have passed := makeWay_of_walk false done.walked
  rw [run_of_way nameable (by rw [passed]), passed]
  exact putAll_again done.stands

/-- Whether an errand is done depends on what stands at each place only. -/
theorem Done.congr {e : Errand} {t t' : FileTree} (done : e.Done t) (same : ∀ p, t'.get? p = t.get? p) : e.Done t' := by
  refine ⟨walk_mono (fun p directory => by rw [same, directory]) done.walked, fun file member => ?_⟩
  obtain ⟨place, named, stands⟩ := done.stands file member
  exact ⟨place, named, (same place).trans stands⟩

/-! ### The errand of an output -/

/-- The files of an output and where they go: the source map, if there is one, and the code. -/
def filesOf (cwd : Location) (destination : String) (output : Output) :
    List (Except FileError Location × ByteArray) :=
  match output.sourceMap with
  | none => [(spot cwd destination, output.code.toUTF8)]
  | some map =>
    [(spot cwd (mapPath destination), map.toUTF8),
      (spot cwd destination, (withMapComment output.code destination).toUTF8)]

theorem pairwise_filesOf {cwd : Location} {destination : String}
    (apart : ∀ place, spot cwd (mapPath destination) = .ok place → spot cwd destination ≠ .ok place)
    (output : Output) :
    (filesOf cwd destination output).Pairwise fun a b => ∀ place, a.1 = .ok place → b.1 ≠ .ok place := by
  unfold filesOf
  split
  · exact List.pairwise_singleton ..
  · exact List.pairwise_pair.mpr apart

/-- The errand of writing an output. -/
def ofOutput (cwd : Location) (destination : String) (output : Output) : Errand where
  fault := (Path.parent? destination).bind fun parent => if parent = "" then none else textFault? parent
  base := start cwd destination
  way := (route destination).dropLast
  files := filesOf cwd destination output

theorem base_ofOutput (cwd : Location) (destination : String) (output : Output) :
    (ofOutput cwd destination output).base = start cwd destination := rfl

theorem way_ofOutput (cwd : Location) (destination : String) (output : Output) :
    (ofOutput cwd destination output).way = (route destination).dropLast := rfl

theorem files_ofOutput (cwd : Location) (destination : String) (output : Output) :
    (ofOutput cwd destination output).files = filesOf cwd destination output := rfl

end Errand

/-- A path with a longer ending than its last name. -/
theorem ending_mapPath {destination : String} {front : List (List Char)} {last : List Char}
    (ending : Path.Ending destination front last) :
    Path.Ending (mapPath destination) front (last ++ ".map".toList) ∧
      nameOf (last ++ ".map".toList) ≠ dotDot := by
  have suffixed : ∀ cs : List Char, last ++ ".map".toList = cs → 4 ≤ cs.length := by
    rintro cs rfl
    rw [List.length_append, show (".map".toList).length = 4 by decide]
    omega
  refine ⟨ending.append (by decide) ?_, ?_⟩
  · rw [Path.isTrivial, Bool.or_eq_false_iff]
    refine ⟨?_, ?_⟩
    · rw [List.isEmpty_eq_false_iff]
      intro empty
      exact absurd (suffixed [] empty) (by decide)
    · rw [beq_eq_false_iff_ne]
      intro dotted
      exact absurd (suffixed ['.'] dotted) (by decide)
  · rw [← nameOf_dotDot, nameOf_injective.ne_iff]
    intro dotted
    exact absurd (suffixed ['.', '.'] dotted) (by decide)

/-! ### An output in two stages -/

/-- Makes the directories above a file. -/
def makeAbove (t : FileTree) (cwd : Location) (destination : String) : FileTree × Except FileError Unit :=
  match Path.parent? destination with
  | some parent => t.makeDirectories cwd parent
  | none => (t, .ok ())

/-- Writes a text to a file. -/
def writeText (t : FileTree) (cwd : Location) (path text : String) : FileTree × Except FileError Unit :=
  match t.writeFile cwd path text.toUTF8 with
  | .ok t => (t, .ok ())
  | .error e => (t, .error e)

/-- Writes the files of an output: the source map, if there is one, and the code. -/
def writeFiles (t : FileTree) (cwd : Location) (destination : String) (output : Output) :
    FileTree × Except FileError Unit :=
  match output.sourceMap with
  | none => writeText t cwd destination output.code
  | some map =>
    match writeText t cwd (mapPath destination) map with
    | (t, .error e) => (t, .error e)
    | (t, .ok ()) => writeText t cwd destination (withMapComment output.code destination)

/-- **An output is written in two stages**: the directories above it, and then its files. -/
theorem writeOutput_stages (t : FileTree) (cwd : Location) (destination : String) (output : Output) :
    writeOutput t cwd destination output =
      match makeAbove t cwd destination with
      | (t, .error e) => (t, .error e)
      | (t, .ok ()) => writeFiles t cwd destination output := by
  unfold writeOutput makeAbove
  cases Path.parent? destination with
  | none => rfl
  | some parent =>
    dsimp only
    rcases t.makeDirectories cwd parent with ⟨t', _ | _⟩ <;> rfl

section Output

variable {t : FileTree} (linkless : t.Linkless) (cwd : Location) {destination : String} {front : List (List Char)}
  {last : List Char} (ending : Path.Ending destination front last)

include linkless ending

/-- **The directories above a file** are made from the top. -/
theorem makeAbove_eq (output : Output) :
    makeAbove t cwd destination =
      match (Errand.ofOutput cwd destination output).fault with
      | some e => (t, .error e)
      | none => makeWay false t (start cwd destination) (front.map nameOf) := by
  have named : Path.names destination ≠ [] := by
    rw [ending.names_eq]
    simp
  obtain ⟨parent, above⟩ := Option.isSome_iff_exists.mp (Path.parent?_isSome named)
  obtain ⟨parentNames, parentTight, _, absolute⟩ := Path.parent?_eq_some above
  have front' : Path.names parent = front := by rw [parentNames, ending.names_eq, List.dropLast_concat]
  have made := makeDirectories_eq linkless cwd parentTight
  rw [start_of_isAbsolute absolute, route, front'] at made
  have faultEq : (Errand.ofOutput cwd destination output).fault = if parent = "" then none else textFault? parent := by
    show (Path.parent? destination).bind _ = _
    rw [above]
    rfl
  rw [makeAbove, above, faultEq]
  refine made.trans ?_
  cases (if parent = "" then none else textFault? parent) <;> rfl

variable (down : nameOf last ≠ dotDot) {place : Location}
  (walked : t.walk (start cwd destination) (front.map nameOf) = .ok (.found place .directory))

include down walked

theorem writeText_eq (text : String) :
    writeText t cwd destination text = putAll t [(spot cwd destination, text.toUTF8)] := by
  rw [writeText, writeFile_eq linkless cwd ending down walked, putAll_cons]
  cases t.putSpot (spot cwd destination) text.toUTF8 <;> rfl

/-- **The files of an output** are put where they go, if the directories above them are there. -/
theorem writeFiles_eq (output : Output) :
    writeFiles t cwd destination output = putAll t (Errand.filesOf cwd destination output) := by
  unfold writeFiles Errand.filesOf
  cases output.sourceMap with
  | none => exact writeText_eq linkless cwd ending down walked output.code
  | some map =>
    have nonempty : destination ≠ "" := by
      rintro rfl
      have none : [] = front ++ [last] := ending.names_eq
      simp at none
    have mapStart : start cwd (mapPath destination) = start cwd destination :=
      start_of_isAbsolute (Path.isAbsolute_append nonempty _) cwd
    obtain ⟨mapEnding, mapDown⟩ := ending_mapPath ending
    dsimp only
    rw [writeText_eq linkless cwd mapEnding mapDown (mapStart ▸ walked), putAll_cons, putAll_cons]
    cases put : t.putSpot (spot cwd (mapPath destination)) map.toUTF8 with
    | error e => rfl
    | ok mapped =>
      obtain ⟨mapPlace, _, written⟩ := putSpot_eq_ok put
      obtain ⟨free, below, rfl⟩ := putAt_eq_ok written
      -- The directories are still there behind the map.
      have stays : ∀ p, t.get? p = some .directory →
          (t.set mapPlace (.file map.toUTF8)).get? p = some .directory := by
        intro p directory
        rw [get?_set t below, if_neg, directory]
        rintro rfl
        exact free directory
      exact writeText_eq (linkless.set below (by simp)) cwd ending down (walk_mono stays walked) _

end Output

/-- **Writing an output is running its errand**, where there are no links. -/
theorem writeOutput_eq {t : FileTree} (linkless : t.Linkless) (cwd : Location) {destination : String}
    {front : List (List Char)} {last : List Char} (ending : Path.Ending destination front last)
    (down : nameOf last ≠ dotDot) (output : Output) :
    writeOutput t cwd destination output = (Errand.ofOutput cwd destination output).run t := by
  have wayEq : (Errand.ofOutput cwd destination output).way = front.map nameOf := by
    rw [Errand.way_ofOutput, route, ending.names_eq, List.map_append, List.map_singleton, List.dropLast_concat]
  rw [writeOutput_stages, makeAbove_eq linkless cwd ending output, Errand.run, wayEq, Errand.base_ofOutput,
    Errand.files_ofOutput]
  cases (Errand.ofOutput cwd destination output).fault with
  | some e => rfl
  | none =>
    have linkless' := linkless.makeWay false (start cwd destination) (front.map nameOf)
    have walked := @walk_of_makeWay t linkless false (start cwd destination) (front.map nameOf)
    dsimp only
    generalize makeWay false t (start cwd destination) (front.map nameOf) = made at linkless' walked ⊢
    obtain ⟨after, result⟩ := made
    cases result with
    | error e => rfl
    | ok done => exact writeFiles_eq linkless' cwd ending down (walked rfl) output

end Detype
