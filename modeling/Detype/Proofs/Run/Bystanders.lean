import Detype.Proofs.Files.Added
import Detype.Proofs.Run.Harvest

/-
**Files of which no input comes.**

A file below a directory that is not taken, since its name is none of a source or all that stands beside it is ignored,
makes no difference to the inputs of a run, as long as the names that lead to it are texts. Names are read before it is
seen what the file is, so that a file with another name ends the search.

* `mapM_insert_of_nil`, `mapM_insert_of_error` — a step more that gives nothing or fails.
* `Bystander` — such a file, by the names that lead to it.
* `Bystander.result_harvestFile`, `result_harvestFile_unreadable` — it gives nothing, or ends the search.
* `harvestPath_with_readable`, `harvestPath_with_unreadable` — what a path gives with such a file below it.
* `collect_with_bystander` — the whole statement.
-/

namespace Detype

open FileTree

/-! ### A step more -/

section Steps

variable {α β ε : Type} {f f' : α → Except ε (List β)} {before after : List α} {x : α}

/-- A step that gives nothing makes no difference. -/
theorem mapM_insert_of_nil (nothing : f x = .ok []) :
    ((before ++ x :: after).mapM f).map List.flatten = ((before ++ after).mapM f).map List.flatten := by
  rw [List.mapM_append, List.mapM_append, List.mapM_cons, nothing]
  cases before.mapM f with
  | error e => rfl
  | ok first =>
    cases after.mapM f with
    | error e => rfl
    | ok later =>
      show Except.ok (first ++ [] :: later).flatten = Except.ok (first ++ later).flatten
      simp

/-- A step that fails ends the search, unless it ended before. -/
theorem mapM_insert_of_error (f : α → Except ε (List β)) (before after : List α) {e : ε} (fails : f x = .error e) :
    ∃ e', (before ++ x :: after).mapM f = .error e' ∧ ((before ++ after).mapM f = .error e' ∨ e' = e) := by
  rw [List.mapM_append, List.mapM_append, List.mapM_cons, fails]
  cases before.mapM f with
  | error e' => exact ⟨e', rfl, Or.inl rfl⟩
  | ok first => exact ⟨e, rfl, Or.inr rfl⟩

theorem mapM_congr_of_mem {xs : List α} (same : ∀ x ∈ xs, f' x = f x) : xs.mapM f' = xs.mapM f := by
  induction xs with
  | nil => rfl
  | cons x xs ih =>
    rw [List.mapM_cons, List.mapM_cons, same x List.mem_cons_self,
      ih fun y member => same y (List.mem_cons_of_mem x member)]

/-- If each step gives the same, or fails as before or with one of certain errors, and one does fail, then so does the
whole search. -/
theorem mapM_error_of_step {certain : ε → Prop} {xs : List α}
    (steps : ∀ x ∈ xs, f' x = f x ∨ ∃ e, f' x = .error e ∧ (f x = .error e ∨ certain e))
    (fails : ∃ x ∈ xs, ∃ e, f' x = .error e) :
    ∃ e, xs.mapM f' = .error e ∧ (xs.mapM f = .error e ∨ certain e) := by
  induction xs with
  | nil =>
    obtain ⟨x, member, _⟩ := fails
    cases member
  | cons x xs ih =>
    obtain ⟨here, later⟩ := List.forall_mem_cons.mp steps
    rw [List.mapM_cons, List.mapM_cons]
    cases first : f' x with
    | error e =>
      refine ⟨e, rfl, ?_⟩
      rw [first] at here
      rcases here with same | ⟨e', error, known⟩
      · exact Or.inl (by rw [← same]; rfl)
      · obtain rfl := Except.error.inj error
        exact known.imp_left fun same => by rw [same]; rfl
    | ok found =>
      have same : f x = .ok found := by
        rcases here with same | ⟨e, error, _⟩
        · rw [← same, first]
        · rw [first] at error
          cases error
      obtain ⟨e, ended, known⟩ := ih later (by
        obtain ⟨y, member, e, error⟩ := fails
        rcases List.mem_cons.mp member with rfl | member
        · rw [first] at error
          cases error
        · exact ⟨y, member, e, error⟩)
      refine ⟨e, by rw [ended]; rfl, known.imp_left fun error => ?_⟩
      rw [same, error]
      rfl

end Steps

/-! ### Files that are not taken -/

/-- Whatever stands below a directory matches an ignore pattern. -/
def IgnoresAll (ignore : Glob.Patterns) (directory : List String) : Prop :=
  ∀ below : List String, below ≠ [] → (∀ s ∈ below, IsName (Text.bytesOf s)) →
    ignore.matches (String.intercalate "/" (directory ++ below)) = true

/-- The names that lead to a file of which no input comes: the last of them is not that of a source, or they lead
through a directory of which all is ignored. -/
inductive Bystander (ignore : Glob.Patterns) : Location → Prop
  | noSource (above : Location) {n : FileName}
      (other : ∀ text, Text.textOf? n = some text → isSourceFile text = false) : Bystander ignore (above ++ [n])
  | ignored (directory : List String) (all : IgnoresAll ignore directory) {below : Location} (deeper : below ≠ []) :
      Bystander ignore (directory.map Text.bytesOf ++ below)

theorem bytesOf_injective : Function.Injective Text.bytesOf := fun a b same => by
  have spelled := textOf?_bytesOf a
  rw [same, textOf?_bytesOf] at spelled
  exact (Option.some.inj spelled).symm

namespace Bystander

variable {ignore : Glob.Patterns} {names : Location}

theorem ne_nil (bystander : Bystander ignore names) : names ≠ [] := by
  cases bystander with
  | noSource _ _ => simp
  | ignored _ _ deeper => simp [deeper]

theorem not_wanted (bystander : Bystander ignore names) (valid : ∀ n ∈ names, IsName n) {texts : List String}
    (spelled : names.mapM Text.textOf? = some texts) : isWanted ignore texts = false := by
  have named := mapM_textOf?_eq_some.mp spelled
  rw [isWanted, Bool.and_eq_false_iff]
  cases bystander with
  | noSource above other =>
    obtain ⟨front, last, rfl, _, single⟩ := List.map_eq_append_iff.mp named.symm
    obtain ⟨text, rfl, rfl⟩ := List.map_eq_singleton_iff.mp single
    left
    rw [List.getLast?_concat]
    exact other text (textOf?_bytesOf text)
  | ignored directory all deeper =>
    obtain ⟨front, rest, rfl, same, rfl⟩ := List.map_eq_append_iff.mp named.symm
    obtain rfl := bytesOf_injective.list_map same
    right
    rw [all rest (by simpa using deeper) fun s member => valid _ (List.mem_append_right _ (List.mem_map_of_mem member))]
    rfl

/-- **It gives nothing**, if its names are texts. -/
theorem result_harvestFile (bystander : Bystander ignore names) (valid : ∀ n ∈ names, IsName n) {texts : List String}
    (spelled : names.mapM Text.textOf? = some texts) (root : String) :
    (harvestFile ignore root names).result = .ok [] := by
  rw [Detype.result_harvestFile ignore root bystander.ne_nil valid spelled, List.filter_cons_of_neg, List.filter_nil]
  · rfl
  · rw [bystander.not_wanted valid spelled]
    exact Bool.false_ne_true

end Bystander

/-- The error for a file with a name that is no text. -/
def unreadable (root : String) (names : Location) : RunError :=
  .nonUtf8Path ((names.map Text.utf8Lossy).foldl Path.join root)

/-- A file with a name that is no text ends the search. -/
theorem result_harvestFile_unreadable (ignore : Glob.Patterns) (root : String) {names : Location}
    (noText : names.mapM Text.textOf? = none) :
    (harvestFile ignore root names).result = .error (unreadable root names) := by
  unfold harvestFile
  rw [noText]
  rfl

/-! ### What a path gives -/

/-- A search of a path comes to a place, by the names that lead there from the directory that it begins at. -/
def FileTree.Reaches (t : FileTree) (cwd : Location) (path : String) (place names : Location) : Prop :=
  names ≠ [] ∧ ∃ directory, t.entryAt? cwd path = some (directory, .directory) ∧ directory ++ names = place

section Added

variable {t : FileTree} (sound : t.Sound) {place : Location} (free : t.Free place) {content : ByteArray}
  {cwd : Location} {ignore : Glob.Patterns} {path : String}

include free

/-- A path that leads to no directory gives what it gave, if it does not lead to the new file. -/
theorem harvestPath_apart (apart : (t.set place (.file content)).entryAt? cwd path ≠ some (place, .file content))
    (noDirectory : ∀ directory, t.entryAt? cwd path ≠ some (directory, .directory)) :
    harvestPath (t.set place (.file content)) cwd ignore path = harvestPath t cwd ignore path := by
  by_cases given : ∃ p content', t.entryAt? cwd path = some (p, .file content')
  · obtain ⟨p, content', found⟩ := given
    have found' := (free.entryAt?_file content (free.ne_of_stands (get?_of_entryAt? found))).mpr found
    unfold harvestPath
    rw [found, found']
  · have noFile : ∀ p content', t.entryAt? cwd path ≠ some (p, .file content') := fun p content' found =>
      given ⟨p, content', found⟩
    rw [harvestPath_of_missing ignore noFile noDirectory, harvestPath_of_missing ignore]
    · intro p content' found
      by_cases new : p = place
      · -- What stands at the place is the new file.
        have stands := get?_of_entryAt? found
        rw [new, get?_set_self t free.ne_nil] at stands
        cases stands
        exact apart (new ▸ found)
      · exact noFile p content' ((free.entryAt?_file content new).mp found)
    · exact fun directory found => noDirectory directory (free.entryAt?_directory.mp found)

include sound

/-- The names by which a search comes to the new file are names. -/
theorem isName_of_reaches {names : Location} (reaches : t.Reaches cwd path place names) : ∀ n ∈ names, IsName n := by
  obtain ⟨_, directory, _, added⟩ := reaches
  intro n member
  refine (free.sound sound .empty).names place _ (get?_set_self t free.ne_nil _) n ?_
  rw [← added]
  exact List.mem_append_right _ member

/-- **A path gives what it gave**, if the new file gives nothing where a search comes to it. -/
theorem harvestPath_with_readable
    (apart : (t.set place (.file content)).entryAt? cwd path ≠ some (place, .file content))
    (nothing : ∀ names, t.Reaches cwd path place names → (harvestFile ignore path names).result = .ok []) :
    (harvestPath (t.set place (.file content)) cwd ignore path).result = (harvestPath t cwd ignore path).result := by
  by_cases searched : ∃ directory, t.entryAt? cwd path = some (directory, .directory)
  · obtain ⟨directory, found⟩ := searched
    rw [result_harvestPath_of_directory ignore found,
      result_harvestPath_of_directory ignore (free.entryAt?_directory.mpr found)]
    by_cases above : ∃ names, names ≠ [] ∧ directory ++ names = place
    · obtain ⟨names, nonempty, added⟩ := above
      obtain ⟨before, after, listed, listed'⟩ := free.filesBelow_above sound content nonempty added
      rw [listed, listed']
      exact mapM_insert_of_nil (nothing names ⟨nonempty, directory, found, added⟩)
    · rw [free.filesBelow_apart sound fun names nonempty added => above ⟨names, nonempty, added⟩]
  · rw [harvestPath_apart free apart fun directory found => searched ⟨directory, found⟩]

/-- **A path fails**, if a search comes to the new file by names that are not all texts. -/
theorem harvestPath_with_unreadable (content : ByteArray) (ignore : Glob.Patterns) {names : Location}
    (reaches : t.Reaches cwd path place names) (noText : names.mapM Text.textOf? = none) :
    ∃ e, (harvestPath (t.set place (.file content)) cwd ignore path).result = .error e ∧
      ((harvestPath t cwd ignore path).result = .error e ∨ e = unreadable path names) := by
  obtain ⟨nonempty, directory, found, added⟩ := reaches
  obtain ⟨before, after, listed, listed'⟩ := free.filesBelow_above sound content nonempty added
  obtain ⟨e, ended, known⟩ := mapM_insert_of_error (fun names => (harvestFile ignore path names).result) before after
    (result_harvestFile_unreadable ignore path noText)
  rw [result_harvestPath_of_directory ignore found,
    result_harvestPath_of_directory ignore (free.entryAt?_directory.mpr found), listed, listed']
  exact ⟨e, by rw [ended]; rfl, known.imp_left fun error => by rw [error]; rfl⟩

end Added

/-! ### What the paths of a run give -/

/-- The errors for a file at a place, to which a search of one of the paths comes by names that are not all texts. -/
inductive Unread (t : FileTree) (cwd place : Location) (paths : List String) : RunError → Prop
  | intro {path : String} {names : Location} (given : path ∈ paths) (reaches : t.Reaches cwd path place names)
      (noText : names.mapM Text.textOf? = none) : Unread t cwd place paths (unreadable path names)

/-- **Files of which no input comes.** Let a file be put where nothing stands, and let no path lead to it. If the names
by which searches come to it are not those of a source, or lead through a directory of which all is ignored, then the
paths give what they gave, as long as these names are texts. Where one is not, the search ends with the error for it, or
with an error that it ended with before. -/
theorem collect_with_bystander {t : FileTree} (sound : t.Sound) {place : Location} (free : t.Free place)
    (content : ByteArray) (cwd : Location) (ignore : Glob.Patterns) {paths : List String}
    (apart : ∀ path ∈ paths, (t.set place (.file content)).entryAt? cwd path ≠ some (place, .file content))
    (bystander : ∀ path ∈ paths, ∀ names, t.Reaches cwd path place names → Bystander ignore names) :
    ((∀ path ∈ paths, ∀ names, t.Reaches cwd path place names → ∃ texts, names.mapM Text.textOf? = some texts) →
      (collect (t.set place (.file content)) cwd ignore paths).result = (collect t cwd ignore paths).result) ∧
    ((∃ path ∈ paths, ∃ names, t.Reaches cwd path place names ∧ names.mapM Text.textOf? = none) →
      ∃ e, (collect (t.set place (.file content)) cwd ignore paths).result = .error e ∧
        ((collect t cwd ignore paths).result = .error e ∨ Unread t cwd place paths e)) := by
  have readable : ∀ path ∈ paths,
      (∀ names, t.Reaches cwd path place names → ∃ texts, names.mapM Text.textOf? = some texts) →
      (harvestPath (t.set place (.file content)) cwd ignore path).result = (harvestPath t cwd ignore path).result := by
    intro path given spelled
    refine harvestPath_with_readable sound free (apart path given) fun names reaches => ?_
    obtain ⟨texts, text⟩ := spelled names reaches
    exact (bystander path given names reaches).result_harvestFile (isName_of_reaches sound free reaches) text path
  have unread : ∀ path ∈ paths, ∀ names, t.Reaches cwd path place names → names.mapM Text.textOf? = none →
      ∃ e, (harvestPath (t.set place (.file content)) cwd ignore path).result = .error e ∧
        ((harvestPath t cwd ignore path).result = .error e ∨ Unread t cwd place paths e) := by
    intro path given names reaches noText
    obtain ⟨e, fails, known⟩ := harvestPath_with_unreadable sound free content ignore reaches noText
    refine ⟨e, fails, known.imp_right ?_⟩
    rintro rfl
    exact .intro given reaches noText
  have steps : ∀ path ∈ paths,
      (harvestPath (t.set place (.file content)) cwd ignore path).result = (harvestPath t cwd ignore path).result ∨
      ∃ e, (harvestPath (t.set place (.file content)) cwd ignore path).result = .error e ∧
        ((harvestPath t cwd ignore path).result = .error e ∨ Unread t cwd place paths e) := by
    intro path given
    by_cases noText : ∃ names, t.Reaches cwd path place names ∧ names.mapM Text.textOf? = none
    · obtain ⟨names, reaches, noText⟩ := noText
      exact Or.inr (unread path given names reaches noText)
    · exact Or.inl (readable path given fun names reaches =>
        Option.ne_none_iff_exists'.mp fun none => noText ⟨names, reaches, none⟩)
  rw [result_collect, result_collect]
  constructor
  · intro spelled
    rw [mapM_congr_of_mem fun path given => readable path given (spelled path given)]
  · rintro ⟨path, given, names, reaches, noText⟩
    obtain ⟨e, fails, _⟩ := unread path given names reaches noText
    obtain ⟨e, ended, known⟩ := mapM_error_of_step steps ⟨path, given, e, fails⟩
    exact ⟨e, by rw [ended]; rfl, known.imp_left fun error => by rw [error]; rfl⟩

/-- A file in `s` is found by its name. -/
theorem neighbours_reaches {n : FileName} {path : String} (given : path ∈ ["s"]) {names : Location}
    (reaches : neighbours.Reaches [] path [Text.bytesOf "s", n] names) : names = [n] := by
  have directory : neighbours.entryAt? [] "s" = some ([Text.bytesOf "s"], .directory) := by decide +kernel
  obtain ⟨_, _, found, added⟩ := reaches
  rw [List.mem_singleton.mp given, directory] at found
  cases found
  exact (List.cons.inj added).2

/-- A file `s/c.txt` makes no difference to what `s` gives, nor does `s/c.ts` if all is ignored. -/
theorem neighbours_with_bystander :
    (neighbours.Free [Text.bytesOf "s", Text.bytesOf "c.txt"] ∧ Bystander [] [Text.bytesOf "c.txt"] ∧
      (collect (neighbours.set [Text.bytesOf "s", Text.bytesOf "c.txt"] (.file .empty)) [] [] ["s"]).result =
        (collect neighbours [] [] ["s"]).result) ∧
    neighbours.Free [Text.bytesOf "s", Text.bytesOf "c.ts"] ∧ Bystander [[.anyDirs]] [Text.bytesOf "c.ts"] ∧
      (collect (neighbours.set [Text.bytesOf "s", Text.bytesOf "c.ts"] (.file .empty)) [] [[.anyDirs]] ["s"]).result =
        (collect neighbours [] [[.anyDirs]] ["s"]).result := by
  have sound : neighbours.Sound := sound_of_entries (by decide +kernel)
  have free : neighbours.Free [Text.bytesOf "s", Text.bytesOf "c.txt"] := ⟨⟨[Text.bytesOf "s"], _, rfl, by decide +kernel, by decide +kernel⟩, by decide +kernel⟩
  have free' : neighbours.Free [Text.bytesOf "s", Text.bytesOf "c.ts"] := ⟨⟨[Text.bytesOf "s"], _, rfl, by decide +kernel, by decide +kernel⟩, by decide +kernel⟩
  have spelled : [Text.bytesOf "c.txt"].mapM Text.textOf? = some ["c.txt"] := by decide +kernel
  have spelled' : [Text.bytesOf "c.ts"].mapM Text.textOf? = some ["c.ts"] := by decide +kernel
  have note : Bystander [] [Text.bytesOf "c.txt"] := by
    refine .noSource [] fun text same => ?_
    rw [show text = "c.txt" from Option.some.inj (same.symm.trans (by decide +kernel))]
    decide
  have ignored : Bystander [[.anyDirs]] [Text.bytesOf "c.ts"] :=
    .ignored [] (fun _ _ _ => rfl) (List.cons_ne_nil _ _)
  refine ⟨⟨free, note, ?_⟩, free', ignored, ?_⟩
  · exact (collect_with_bystander sound free .empty [] [] (by decide +kernel)
      fun path given names reaches => neighbours_reaches given reaches ▸ note).1
      fun path given names reaches => ⟨_, neighbours_reaches given reaches ▸ spelled⟩
  · exact (collect_with_bystander sound free' .empty [] [[.anyDirs]] (by decide +kernel)
      fun path given names reaches => neighbours_reaches given reaches ▸ ignored).1
      fun path given names reaches => ⟨_, neighbours_reaches given reaches ▸ spelled'⟩

/-- The name `c\xff.txt`, which is no text. -/
def brokenName : FileName := Text.bytesOf "c" ++ 255 :: Text.bytesOf ".txt"

/-- A file of this name ends the search of `s`. -/
theorem unreadable_bystander :
    Bystander [] [brokenName] ∧
    (∃ inputs, (collect neighbours [] [] ["s"]).result = .ok inputs) ∧
    (collect (neighbours.set [Text.bytesOf "s", brokenName] (.file .empty)) [] [] ["s"]).result =
      .error (.nonUtf8Path "s/c\ufffd.txt") := by
  have sound : neighbours.Sound := sound_of_entries (by decide +kernel)
  have directory : neighbours.entryAt? [] "s" = some ([Text.bytesOf "s"], .directory) := by decide +kernel
  have searchable : neighbours.Searchable [] "s" := Or.inr ⟨_, directory, textual_of_entries (by decide +kernel) _⟩
  have free : neighbours.Free [Text.bytesOf "s", brokenName] :=
    ⟨⟨[Text.bytesOf "s"], _, rfl, by decide +kernel, by decide +kernel⟩, by decide +kernel⟩
  have noText : Text.textOf? brokenName = none := by decide +kernel
  have shown : unreadable "s" [brokenName] = .nonUtf8Path "s/c\ufffd.txt" := by decide +kernel
  obtain ⟨inputs, found⟩ := searchable.result sound []
  rw [result_collect_singleton, result_collect_singleton]
  refine ⟨.noSource [] (by simp [noText]), ⟨inputs, found⟩, ?_⟩
  obtain ⟨e, fails, before | same⟩ := harvestPath_with_unreadable sound free .empty []
    ⟨List.cons_ne_nil _ _, _, directory, rfl⟩ (by simp [noText])
  · rw [found] at before
    cases before
  · rw [fails, same, shown]

end Detype
