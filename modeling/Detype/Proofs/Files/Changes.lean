import Detype.Proofs.Files.Follow

/-
**Changes and the paths they are made at.**

Files are written and directories are made at paths. Nothing that stands anywhere is gone afterwards, and every place at
which something else stands than before is the one to which such a path leads, links included.

* `Retains` — nothing of a tree is gone in another.
* `Traced` — the changes between two trees are made at given paths; `Traced.trans` — so are those of two operations,
  one after the other.
* `entryAt?_makeDirectory` — a path at which a directory is made leads to it.
* `traced_makeDirectories`, `traced_writeFile` — the operations on files change what they are told to.
-/

namespace Detype.FileTree

/-! ### Free places -/

section Vacant

variable {t t' : FileTree} {place : Location} {ended followLast : Bool}

/-- Pieces without a name stay where they start. -/
theorem resolves_empty {links : Nat} {here : Location} {segs : List FileName} (empty : segs.all List.isEmpty = true) :
    t.Resolves followLast links here segs (.found here .directory) := by
  induction segs with
  | nil => exact .done
  | cons n rest ih =>
    rw [List.all_cons, Bool.and_eq_true, List.isEmpty_iff] at empty
    exact .blank (isBlank_eq_true.mpr (Or.inl empty.1)) (ih empty.2)

/-- **Names that lead to a free place lead to the directory that is made there.** -/
theorem Keeps.resolves_made (keeps : t.Keeps t') (made : t'.get? place = some .directory) {links : Nat}
    {here : Location} {segs : List FileName} (resolves : t.Resolves false links here segs (.vacant place ended)) :
    t'.Resolves true links here segs (.found place .directory) := by
  generalize found : Target.vacant place ended = target at resolves
  induction resolves with
  | done | file | lastLink => cases found
  | blank blank _ ih => exact .blank blank (ih found)
  | up _ ih => exact .up (ih found)
  | vacant looked _ ends =>
    cases found
    exact .directory looked made (resolves_empty ends)
  | directory looked stands _ ih => exact .directory looked (keeps.stays stands (by simp)) (ih found)
  | link looked stands _ _ ih => exact .link looked (keeps.stays stands (by simp)) (Bool.and_false _) (ih found)

/-- **A path at which a directory is made leads to it**, and the place was free. -/
theorem entryAt?_makeDirectory {cwd : Location} {path : String} (done : t.makeDirectory cwd path = .ok t') :
    ∃ place, t.get? place = none ∧ t' = t.set place .directory ∧
      t'.entryAt? cwd path = some (place, .directory) := by
  unfold makeDirectory at done
  cases located : t.locate cwd path false with
  | error e =>
    rw [located] at done
    cases done
  | ok target =>
    rw [located] at done
    cases target with
    | found => cases done
    | vacant place ended =>
      cases done
      obtain ⟨nameable, resolves⟩ := locate_eq_ok.mp located
      have lodges : t.Lodges place := Or.inl resolves.free
      have made := (lodges.keeps_set .directory).resolves_made (get?_set_self t lodges.below _) resolves
      exact ⟨place, resolves.free, rfl, entryAt?_iff_resolves.mpr ⟨nameable, made⟩⟩

end Vacant

/-! ### Nothing is gone -/

/-- Nothing of a tree is gone in another: directories and links are what they were, and files are files. -/
structure Retains (t t' : FileTree) : Prop extends t.Keeps t' where
  files : ∀ {p content}, t.get? p = some (.file content) → ∃ content', t'.get? p = some (.file content')

namespace Retains

variable {t t' t'' : FileTree}

theorem refl (t : FileTree) : t.Retains t := ⟨⟨fun stands _ => stands⟩, fun stands => ⟨_, stands⟩⟩

theorem trans (first : t.Retains t') (second : t'.Retains t'') : t.Retains t'' := by
  refine ⟨⟨fun stands other => second.stays (first.stays stands other) other⟩, fun stands => ?_⟩
  obtain ⟨content, stands'⟩ := first.files stands
  exact second.files stands'

/-- What is free later was free before. -/
theorem free (retains : t.Retains t') {p : Location} (free : t'.get? p = none) : t.get? p = none := by
  cases stands : t.get? p with
  | none => rfl
  | some entry =>
    cases entry with
    | file content =>
      obtain ⟨content', stands'⟩ := retains.files stands
      rw [stands'] at free
      cases free
    | directory | link _ =>
      rw [retains.stays stands (by simp)] at free
      cases free

/-- Nothing is gone when a file is put at a place for a file, or a directory at a free place. -/
theorem set {place : Location} {entry : Entry} (lodges : t.Lodges place)
    (kind : t.get? place = none ∨ ∃ content, entry = .file content) : t.Retains (t.set place entry) := by
  refine ⟨lodges.keeps_set entry, fun {p content} stands => ?_⟩
  rw [get?_set t lodges.below]
  split
  · next same =>
    rcases kind with free | ⟨content', rfl⟩
    · rw [same, free] at stands
      cases stands
    · exact ⟨content', rfl⟩
  · exact ⟨content, stands⟩

end Retains

/-! ### Traces -/

/-- A change of a tree that is made at given paths: nothing is gone, and a path leads to each place at which something
else stands than before. Either that is the path of a file, which stands there, or the place was free and the path is
that of a directory. -/
structure Traced (cwd : Location) (files directories : String → Prop) (t t' : FileTree) : Prop where
  retains : t.Retains t'
  led : ∀ p, t'.get? p ≠ t.get? p →
    (∃ path content, files path ∧ t'.entryAt? cwd path = some (p, .file content) ∧ t'.get? p = some (.file content)) ∨
      ∃ path, directories path ∧ t'.entryAt? cwd path = some (p, .directory) ∧ t'.get? p = some .directory ∧
        t.get? p = none

/-- No path. -/
abbrev noPath : String → Prop := fun _ => False

namespace Traced

variable {cwd : Location} {files directories files' directories' : String → Prop} {t t' t'' : FileTree}

theorem refl (cwd : Location) (files directories : String → Prop) (t : FileTree) :
    Traced cwd files directories t t := ⟨.refl t, fun _ changed => absurd rfl changed⟩

theorem mono (traced : Traced cwd files directories t t') (more : ∀ path, files path → files' path)
    (more' : ∀ path, directories path → directories' path) : Traced cwd files' directories' t t' := by
  refine ⟨traced.retains, fun p changed => ?_⟩
  rcases traced.led p changed with ⟨path, content, own, leads⟩ | ⟨path, own, leads⟩
  · exact Or.inl ⟨path, content, more path own, leads⟩
  · exact Or.inr ⟨path, more' path own, leads⟩

/-- **Changes one after the other are made at the paths of both.** A path still leads where it led after the first,
since directories and links stay. -/
theorem trans (first : Traced cwd files directories t t') (second : Traced cwd files directories t' t'') :
    Traced cwd files directories t t'' := by
  refine ⟨first.retains.trans second.retains, fun p changed => ?_⟩
  by_cases same : t''.get? p = t'.get? p
  · rcases first.led p (same ▸ changed) with ⟨path, content, own, leads, stands⟩ | ⟨path, own, leads, stands, free⟩
    · have stands' := same.trans stands
      exact Or.inl ⟨path, content, own, second.retains.entryAt?_file leads stands', stands'⟩
    · exact Or.inr ⟨path, own, second.retains.entryAt?_directory leads, same.trans stands, free⟩
  · rcases second.led p same with file | ⟨path, own, leads, stands, free⟩
    · exact Or.inl file
    · exact Or.inr ⟨path, own, leads, stands, first.retains.free free⟩

/-- No link is made. -/
theorem linkless (traced : Traced cwd files directories t t') (linkless : t.Linkless) : t'.Linkless := by
  intro p target stands
  by_cases same : t'.get? p = t.get? p
  · exact linkless p target (same.symm.trans stands)
  · rcases traced.led p same with ⟨_, _, _, _, file⟩ | ⟨_, _, _, directory, _⟩
    · rw [file] at stands
      cases stands
    · rw [directory] at stands
      cases stands

end Traced

section Operations

variable {cwd : Location} {t t' : FileTree} {path : String}

theorem eq_of_set_changed {p place : Location} {entry : Entry}
    (changed : (t.set place entry).get? p ≠ t.get? p) : p = place :=
  Classical.not_not.mp fun other => changed (get?_set_ne t other entry)

/-- **A write changes the file at its path.** -/
theorem traced_writeFile {content : ByteArray} (written : t.writeFile cwd path content = .ok t') :
    Traced cwd (· = path) noPath t t' := by
  obtain ⟨place, below, rfl, leads, before⟩ := writeFile_cases written
  have lodges : t.Lodges place := by
    rcases before with ⟨old, _, stood⟩ | ⟨_, free⟩
    · exact Or.inr ⟨old, stood⟩
    · exact Or.inl free
  refine ⟨.set lodges (Or.inr ⟨content, rfl⟩), fun p changed => Or.inl ?_⟩
  obtain rfl := eq_of_set_changed changed
  exact ⟨path, content, rfl, leads, get?_set_self t below _⟩

theorem traced_makeDirectory (done : t.makeDirectory cwd path = .ok t') : Traced cwd noPath (· = path) t t' := by
  obtain ⟨place, free, rfl, leads⟩ := entryAt?_makeDirectory done
  have lodges : t.Lodges place := Or.inl free
  refine ⟨.set lodges (Or.inl free), fun p changed => Or.inr ?_⟩
  obtain rfl := eq_of_set_changed changed
  exact ⟨path, rfl, leads, get?_set_self t lodges.below _, free⟩

/-- **Directories are made at the paths of a chain only**, also when it cannot be made to its end. -/
theorem traced_makeChain (t : FileTree) (cwd : Location) (chain : List String) :
    Traced cwd noPath (· ∈ chain) t (t.makeChain cwd chain).1 := by
  induction chain generalizing t with
  | nil => exact .refl ..
  | cons path above ih =>
    have own : ∀ {t t' : FileTree}, t.makeDirectory cwd path = .ok t' →
        Traced cwd noPath (· ∈ path :: above) t t' := fun done =>
      (traced_makeDirectory done).mono (fun _ => id) fun _ same => same ▸ List.mem_cons_self
    have rest := (ih t).mono (fun _ => id) fun _ member => List.mem_cons_of_mem path member
    rw [makeChain]
    split
    · exact .refl ..
    · split
      · next made => exact own made
      · split
        · next after e shape =>
          rw [shape] at rest
          exact rest
        · next after shape =>
          rw [shape] at rest
          split
          · next made => exact rest.trans (own made)
          · split <;> exact rest
      · split <;> exact .refl ..

theorem traced_makeDirectories (t : FileTree) (cwd : Location) (path : String) :
    Traced cwd noPath (· ∈ Path.ancestors path) t (t.makeDirectories cwd path).1 :=
  traced_makeChain t cwd _

end Operations

end Detype.FileTree
