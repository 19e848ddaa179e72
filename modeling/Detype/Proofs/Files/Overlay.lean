import Detype.Proofs.Files.Sound

/-
**An errand alone and after others.**

An errand is run twice: alone, on a tree `o`, and on a tree `t` that other errands have changed. The second run
follows the first as long as the others made no file where it makes a directory and no directory where it puts
a file. One difference is left: a file that stands in the way is reported as an existing file if a directory was
made before it, and as no directory else, and the others may have made that directory already.

* `Preserves` — directories and files stay what they are, up to the contents of files.
* `Overlay` — the changes of the run alone, put over the changed tree.
* `Errand.Blocked` — the run alone makes a directory and then meets a file that is in the way.
* `Errand.run_follows` — the second run puts the changes of the first over `t` and ends alike, unless the first
  is blocked.
* `Errand.run_after_of_blocked` — after any errand that goes the same way at first, a blocked errand ends otherwise.
-/

namespace Detype

namespace FileTree

/-- Directories and files stay what they are, up to the contents of files. -/
structure Preserves (o t : FileTree) : Prop where
  directories : ∀ p, o.get? p = some .directory → t.get? p = some .directory
  files : ∀ p content, o.get? p = some (.file content) → ∃ content', t.get? p = some (.file content')

/-- `b` is `t` with all that differs between `o` and `a` put over it. -/
def Overlay (o t a b : FileTree) : Prop :=
  ∀ p, b.get? p = if a.get? p = o.get? p then t.get? p else a.get? p

theorem Overlay.refl (o t : FileTree) : Overlay o t o t := fun _ => (if_pos rfl).symm

section Overlays

variable {o t a b : FileTree}

/-- An entry that is put into both trees. -/
theorem Overlay.set (laid : Overlay o t a b) {p : Location} (below : p ≠ []) {e : Entry}
    (own : o.get? p = some e → t.get? p = some e) {b' : FileTree}
    (after : ∀ q, b'.get? q = if q = p then some e else b.get? q) : Overlay o t (a.set p e) b' := by
  intro q
  rw [after q, get?_set a below]
  by_cases here : q = p
  · rw [if_pos here, if_pos here, here]
    split
    · next same => rw [own same.symm]
    · rfl
  · rw [if_neg here, if_neg here]
    exact laid q

theorem Overlay.directory (laid : Overlay o t a b) (kept : o.Preserves t) {p : Location}
    (stands : a.get? p = some .directory) : b.get? p = some .directory := by
  rw [laid p]
  split
  · next same => exact kept.directories p (same.symm.trans stands)
  · exact stands

/-- A place that the run alone leaves is what it is in the changed tree. -/
theorem Overlay.left (laid : Overlay o t a b) {p : Location} (same : a.get? p = o.get? p) : b.get? p = t.get? p := by
  rw [laid, if_pos same]

/-- A way is made in two parts, if the first can be made. -/
theorem makeWay_append {t : FileTree} (linkless : t.Linkless) {made : Bool} {here : Location}
    {first : List FileName} (passed : (makeWay made t here first).2 = .ok ()) (more : List FileName) :
    ∃ made', makeWay made t here (first ++ more) =
      makeWay made' (makeWay made t here first).1 (arrive here first) more := by
  induction first generalizing made t here with
  | nil => exact ⟨made, rfl⟩
  | cons n rest ih =>
    rcases name_cases linkless here n with rfl | ⟨up, long | ⟨short, free | stands | ⟨content, stands⟩⟩⟩
    · rw [makeWay_dotDot] at passed
      obtain ⟨made', whole⟩ := ih linkless passed
      exact ⟨made', by rw [List.cons_append, makeWay_dotDot, makeWay_dotDot, arrive_dotDot, whole]⟩
    · rw [makeWay_long up long] at passed
      cases passed
    · rw [makeWay_vacant up short free] at passed
      obtain ⟨made', whole⟩ := ih (linkless.set (concat_ne_nil here n) (by simp)) passed
      exact ⟨made', by rw [List.cons_append, makeWay_vacant up short free, makeWay_vacant up short free,
        arrive_cons up, whole]⟩
    · rw [makeWay_directory up short stands] at passed
      obtain ⟨made', whole⟩ := ih linkless passed
      exact ⟨made', by rw [List.cons_append, makeWay_directory up short stands, makeWay_directory up short stands,
        arrive_cons up, whole]⟩
    · rw [makeWay_file up short stands] at passed
      cases passed

/-- The first part of a way that can be made can be made. -/
theorem makeWay_first {t : FileTree} (linkless : t.Linkless) {made : Bool} {here : Location}
    {first more : List FileName} (passed : (makeWay made t here (first ++ more)).2 = .ok ()) :
    (makeWay made t here first).2 = .ok () := by
  induction first generalizing made t here with
  | nil => rfl
  | cons n rest ih =>
    rw [List.cons_append] at passed
    rcases name_cases linkless here n with rfl | ⟨up, long | ⟨short, free | stands | ⟨content, stands⟩⟩⟩
    · rw [makeWay_dotDot] at passed ⊢
      exact ih linkless passed
    · rw [makeWay_long up long] at passed
      cases passed
    · rw [makeWay_vacant up short free] at passed ⊢
      exact ih (linkless.set (concat_ne_nil here n) (by simp)) passed
    · rw [makeWay_directory up short stands] at passed ⊢
      exact ih linkless passed
    · rw [makeWay_file up short stands] at passed
      cases passed

/-- The way alone, up to a file of the tree that is in the way. -/
structure Halted (o : FileTree) (made : Bool) (a : FileTree) (here : Location) (names : List FileName) : Prop where
  refused : (makeWay made a here names).2 = .error .alreadyExists
  met : ∃ first n rest content, names = first ++ n :: rest ∧ rest ≠ [] ∧ n ≠ dotDot ∧ ¬ n.length > 255 ∧
    (makeWay made a here first).2 = .ok () ∧ o.get? (arrive here first ++ [n]) = some (.file content)

/-- The way in a changed tree follows the way alone. -/
structure Follows (o t : FileTree) (made made' : Bool) (a b : FileTree) (here : Location)
    (names : List FileName) : Prop where
  overlay : Overlay o t (makeWay made a here names).1 (makeWay made' b here names).1
  ends : (makeWay made a here names).2 = (makeWay made' b here names).2 ∨
    (∃ q, t.get? q ≠ o.get? q) ∧ Halted o made a here names

/-- A first step on which both ways agree. -/
theorem Follows.cons {made made' later later' : Bool} {a' b' : FileTree} {here here' : Location} {n : FileName}
    {names : List FileName} (follows : Follows o t later later' a' b' here' names)
    (alone : ∀ names, makeWay made a here (n :: names) = makeWay later a' here' names)
    (changed : makeWay made' b here (n :: names) = makeWay later' b' here' names)
    (arrives : ∀ names, arrive here (n :: names) = arrive here' names) :
    Follows o t made made' a b here (n :: names) := by
  obtain ⟨overlay, same | ⟨differs, refused, first, m, rest, content, split, more, up, short, passed, stands⟩⟩ :=
    follows
  · exact ⟨by rwa [alone, changed], Or.inl (by rw [alone, changed, same])⟩
  · refine ⟨by rwa [alone, changed], Or.inr ⟨differs, by rw [alone, refused], n :: first, m, rest, content, ?_⟩⟩
    refine ⟨by rw [split]; rfl, more, up, short, by rw [alone, passed], by rw [arrives, stands]⟩

/-- A file of the tree that is in the way alone is in the way in the changed tree too. The errors may differ, if a
directory was made before the file alone only. -/
theorem Follows.halt (kept : o.Preserves t) (laid : Overlay o t a b) {made made' : Bool}
    (flags : made = made' ∨ made = true ∧ ∃ q, t.get? q ≠ o.get? q) {here : Location} {n : FileName}
    {rest : List FileName} (up : n ≠ dotDot) (short : ¬ n.length > 255) {content : ByteArray}
    (stands : a.get? (here ++ [n]) = some (.file content)) (original : o.get? (here ++ [n]) = some (.file content)) :
    Follows o t made made' a b here (n :: rest) := by
  obtain ⟨content', kept'⟩ := kept.files _ _ original
  have stands' : b.get? (here ++ [n]) = some (.file content') := (laid.left (stands.trans original.symm)).trans kept'
  refine ⟨?_, ?_⟩
  · rwa [makeWay_file up short stands, makeWay_file up short stands']
  · rw [makeWay_file up short stands, makeWay_file up short stands']
    rcases flags with rfl | ⟨rfl, differs⟩
    · exact Or.inl rfl
    · cases more : rest.isEmpty with
      | true => exact Or.inl rfl
      | false =>
        refine Or.inr ⟨differs, ?_, [], n, rest, content, rfl, ?_, up, short, rfl, original⟩
        · rw [makeWay_file up short stands, more]
          rfl
        · rintro rfl
          cases more

/-- **The way in a changed tree follows the way alone**, if the changed tree has no file where a directory is
made. The induction is on the names; the flags tell in which of the two runs a directory was made before. -/
theorem makeWay_follows (linkless : a.Linkless) (linkless' : b.Linkless) (kept : o.Preserves t)
    (laid : Overlay o t a b) (onlyDirectories : ∀ p, a.get? p = o.get? p ∨ a.get? p = some .directory)
    {made made' : Bool} (flags : made = made' ∨ made = true ∧ ∃ q, t.get? q ≠ o.get? q) {here : Location}
    {names : List FileName}
    (clear : ∀ p, o.get? p = none → (makeWay made a here names).1.get? p = some .directory →
      ∀ content, t.get? p ≠ some (.file content)) :
    Follows o t made made' a b here names := by
  induction names generalizing made made' a b here with
  | nil => exact ⟨laid, Or.inl rfl⟩
  | cons n rest ih =>
    rcases name_cases linkless here n with rfl | ⟨up, long | ⟨short, free | stands | ⟨content, stands⟩⟩⟩
    · rw [makeWay_dotDot] at clear
      exact (ih linkless linkless' laid onlyDirectories flags clear).cons (fun _ => makeWay_dotDot) makeWay_dotDot
        (arrive_dotDot here)
    · refine ⟨?_, Or.inl ?_⟩
      · rwa [makeWay_long up long, makeWay_long up long]
      · rw [makeWay_long up long, makeWay_long up long]
    · -- Alone a directory is made: in the changed tree the place is free, or the directory is there.
      rw [makeWay_vacant up short free] at clear
      have below := concat_ne_nil here n
      have linklessSet := linkless.set below (e := .directory) (by simp)
      have same : a.get? (here ++ [n]) = o.get? (here ++ [n]) :=
        (onlyDirectories _).resolve_right (by rw [free]; simp)
      have vacant : o.get? (here ++ [n]) = none := same.symm.trans free
      have made_ : (makeWay true (a.set (here ++ [n]) .directory) (here ++ [n]) rest).1.get? (here ++ [n]) =
          some .directory := makeWay_keeps linklessSet _ _ _ (get?_set_self a below _)
      have changed := laid.left same
      have own : o.get? (here ++ [n]) = some .directory → t.get? (here ++ [n]) = some .directory := by
        rw [vacant]
        exact fun impossible => by cases impossible
      have onlyDirectories' : ∀ p, (a.set (here ++ [n]) .directory).get? p = o.get? p ∨
          (a.set (here ++ [n]) .directory).get? p = some .directory := by
        intro p
        rw [get?_set a below]
        split
        · exact Or.inr rfl
        · exact onlyDirectories p
      rcases name_cases linkless' here n with rfl | ⟨_, long | ⟨_, free' | stands' | ⟨content, stands'⟩⟩⟩
      · exact absurd rfl up
      · exact absurd long short
      · refine (ih linklessSet (linkless'.set below (e := .directory) (by simp))
          (laid.set below own (get?_set b below .directory)) onlyDirectories' (Or.inl rfl) clear).cons
            (fun _ => makeWay_vacant up short free) (makeWay_vacant up short free') (arrive_cons up here)
      · have already : ∀ q, b.get? q = if q = here ++ [n] then some .directory else b.get? q := by
          intro q
          split
          · next same => rw [same, stands']
          · rfl
        have differs : t.get? (here ++ [n]) ≠ o.get? (here ++ [n]) := by
          rw [← changed, stands', vacant]
          simp
        exact (ih linklessSet linkless' (laid.set below own already) onlyDirectories' (Or.inr ⟨rfl, _, differs⟩)
          clear).cons (fun _ => makeWay_vacant up short free) (makeWay_directory up short stands')
            (arrive_cons up here)
      · exact absurd (changed.symm.trans stands') (clear _ vacant made_ content)
    · rw [makeWay_directory up short stands] at clear
      exact (ih linkless linkless' laid onlyDirectories flags clear).cons
        (fun _ => makeWay_directory up short stands)
        (makeWay_directory up short (laid.directory kept stands)) (arrive_cons up here)
    · have same : a.get? (here ++ [n]) = o.get? (here ++ [n]) :=
        (onlyDirectories _).resolve_right (by rw [stands]; simp)
      exact .halt kept laid flags up short stands (same.symm.trans stands)

/-- **Files are put alone and in a changed tree alike**, if the changed tree has the places of the files as they
were and no directory where a file is put. -/
theorem putAll_follows (kept : o.Preserves t) (laid : Overlay o t a b)
    {files : List (Except FileError Location × ByteArray)}
    (own : ∀ p content, (.ok p, content) ∈ files → t.get? p = o.get? p ∨ o.get? p = none ∧ t.get? p = some .directory)
    (clear : ∀ p content, o.get? p = none → (putAll a files).1.get? p = some (.file content) →
      t.get? p ≠ some .directory) :
    Overlay o t (putAll a files).1 (putAll b files).1 ∧ (putAll a files).2 = (putAll b files).2 := by
  induction files generalizing a b with
  | nil => exact ⟨laid, rfl⟩
  | cons file rest ih =>
    obtain ⟨spot, content⟩ := file
    rw [putAll_cons] at clear
    rw [putAll_cons, putAll_cons]
    cases put : a.putSpot spot content with
    | error e =>
      have put' : b.putSpot spot content = .error e := by
        cases spot with
        | error e' => exact put
        | ok place =>
          have written : a.putAt place content = .error e := put
          unfold putAt at written
          split at written
          · next stands =>
            cases written
            show b.putAt place content = _
            rw [putAt, laid.directory kept stands]
          · cases written
      rw [put']
      exact ⟨laid, rfl⟩
    | ok a' =>
      obtain ⟨place, rfl, written⟩ := putSpot_eq_ok put
      obtain ⟨free, below, rfl⟩ := putAt_eq_ok written
      rw [put] at clear
      dsimp only at clear ⊢
      -- The file stays one to the end of the run alone, so no directory can be there in the changed tree.
      have final : ∃ content', (putAll (a.set place (.file content)) rest).1.get? place = some (.file content') := by
        rcases @putAll_get? (a.set place (.file content)) rest place with same | ⟨_, content', _, stands⟩
        · exact ⟨content, same.trans (get?_set_self a below _)⟩
        · exact ⟨content', stands⟩
      obtain ⟨content', final⟩ := final
      have untouched : t.get? place = o.get? place := by
        rcases own place content List.mem_cons_self with same | ⟨vacant, directory⟩
        · exact same
        · exact absurd directory (clear place content' vacant final)
      have free' : b.get? place ≠ some .directory := by
        rw [laid place]
        split
        · next same => rwa [untouched, ← same]
        · exact free
      have put' : b.putSpot (.ok place) content = .ok (b.set place (.file content)) := by
        show b.putAt place content = _
        unfold putAt
        split
        · next directory => exact absurd directory free'
        · rfl
      rw [put']
      exact ih (laid.set below (fun same => untouched.trans same) (get?_set b below _))
        (fun p content member => own p content (List.mem_cons_of_mem _ member)) clear

end Overlays

end FileTree

open FileTree

namespace Errand

/-- Alone, the errand is given up at a file of the tree that is in the way, after it made a directory. -/
structure Blocked (e : Errand) (o : FileTree) : Prop where
  nameable : e.fault = none
  halted : Halted o false o e.base e.way

/-- **An errand in a changed tree does what it does alone**, and puts its changes over the others, unless it is
blocked alone. -/
theorem run_follows (e : Errand) {o t : FileTree} (linkless : o.Linkless) (linkless' : t.Linkless)
    (kept : o.Preserves t)
    (own : ∀ p content, (.ok p, content) ∈ e.files → t.get? p = o.get? p ∨ o.get? p = none ∧ t.get? p = some .directory)
    (noFile : ∀ p, o.get? p = none → (e.run o).1.get? p = some .directory → ∀ content, t.get? p ≠ some (.file content))
    (noDirectory : ∀ p content, o.get? p = none → (e.run o).1.get? p = some (.file content) →
      t.get? p ≠ some .directory) :
    Overlay o t (e.run o).1 (e.run t).1 ∧ (e.run o).2 = (e.run t).2 ∨
      (∃ q, t.get? q ≠ o.get? q) ∧ e.Blocked o := by
  cases nameable : e.fault with
  | some fault =>
    rw [run_fault nameable, run_fault nameable]
    exact Or.inl ⟨.refl o t, rfl⟩
  | none =>
    have follows : Follows o t false false o t e.base e.way := by
      refine makeWay_follows linkless linkless' kept (.refl o t) (fun p => Or.inl rfl) (Or.inl rfl) fun p vacant new => ?_
      refine noFile p vacant ?_
      cases made : (makeWay false o e.base e.way).2 with
      | error fault => rwa [run_of_way_error nameable made]
      | ok _ =>
        rw [run_of_way nameable made]
        rcases putAll_get? e.files p with same | ⟨other, _⟩
        · rw [same, new]
        · exact absurd new other
    rcases follows.ends with same | ⟨differs, halted⟩
    · refine Or.inl ?_
      cases made : (makeWay false o e.base e.way).2 with
      | error fault =>
        rw [run_of_way_error nameable made, run_of_way_error nameable (same.symm.trans made)]
        exact ⟨follows.overlay, rfl⟩
      | ok _ =>
        rw [run_of_way nameable made] at noDirectory ⊢
        rw [run_of_way nameable (same.symm.trans made)]
        exact putAll_follows kept follows.overlay own noDirectory
    · exact Or.inr ⟨differs, nameable, halted⟩

/-- Directories and files stay what they are. -/
theorem preserves_run (e : Errand) {o : FileTree} (linkless : o.Linkless) : o.Preserves (e.run o).1 := by
  refine ⟨fun p directory => ?_, fun p content stands => ?_⟩
  · rcases e.run_get? linkless p with same | ⟨free, _⟩ | ⟨other, _⟩
    · rw [same, directory]
    · rw [directory] at free
      cases free
    · exact absurd directory other
  · rcases e.run_get? linkless p with same | ⟨free, _⟩ | ⟨_, content', _, new⟩
    · exact ⟨content, by rw [same, stands]⟩
    · rw [stands] at free
      cases free
    · exact ⟨content', new⟩

/-- The first part of the way is walkable afterwards, if alone it can be made. -/
theorem walk_run_of_way {e : Errand} {o : FileTree} (linkless : o.Linkless) (nameable : e.fault = none)
    {first more : List FileName} (way : e.way = first ++ more) (passed : (makeWay false o e.base first).2 = .ok ()) :
    (e.run o).1.walk e.base first = .ok (.found (arrive e.base first) .directory) := by
  obtain ⟨made, whole⟩ := makeWay_append linkless passed more
  have linkless' := linkless.makeWay false e.base first
  refine walk_mono (fun p directory => ?_) (walk_of_makeWay linkless passed)
  have onWay : (makeWay false o e.base e.way).1.get? p = some .directory := by
    rw [way, whole]
    exact makeWay_keeps linkless' _ _ _ directory
  cases result : (makeWay false o e.base e.way).2 with
  | error fault => rwa [run_of_way_error nameable result]
  | ok _ =>
    rw [run_of_way nameable result]
    rcases putAll_get? e.files p with same | ⟨other, _⟩
    · rw [same, onWay]
    · exact absurd onWay other

/-- **After an errand that goes the same way at first**, an errand that is blocked alone is stopped by the file
on its way: the directories before it are there by then. -/
theorem run_after_of_blocked {e f : Errand} {o : FileTree} (sound : o.Sound) (linkless : o.Linkless)
    (blocked : e.Blocked o) {trunk branch branch' : List FileName} (down : dotDot ∉ branch)
    (way : e.way = trunk ++ branch) (way' : f.way = trunk ++ branch') (base : f.base = e.base)
    (nameable : f.fault = none) : (e.run (f.run o).1).2 = .error .notDirectory := by
  obtain ⟨first, n, rest, content, split, more, up, short, passed, stands⟩ := blocked.halted.met
  have linkless' := f.linkless_run linkless
  have walked : (f.run o).1.walk e.base first = .ok (.found (arrive e.base first) .directory) := by
    rw [way] at split
    rcases List.append_eq_append_iff.mp split with ⟨as, first_eq, branch_eq⟩ | ⟨bs, trunk_eq, _⟩
    · -- The file is met below the common part: all above it are directories from the start.
      subst first_eq
      have downFirst : dotDot ∉ as := fun member => down (by rw [branch_eq]; exact List.mem_append_left _ member)
      have trunkPassed := makeWay_first linkless passed
      have walkedTrunk : (f.run o).1.walk e.base trunk = .ok (.found (arrive e.base trunk) .directory) := by
        rw [← base] at trunkPassed ⊢
        exact walk_run_of_way linkless nameable way' trunkPassed
      have walkedAlone := walk_of_makeWay linkless passed
      have walkedTrunkAlone : (makeWay false o e.base (trunk ++ as)).1.walk e.base trunk =
          .ok (.found (arrive e.base trunk) .directory) := by
        obtain ⟨made, whole⟩ := makeWay_append linkless trunkPassed as
        refine walk_mono (fun p directory => ?_) (walk_of_makeWay linkless trunkPassed)
        rw [whole]
        exact makeWay_keeps (linkless.makeWay false e.base trunk) _ _ _ directory
      rw [walk_append walkedTrunkAlone] at walkedAlone
      rw [walk_append walkedTrunk, ← walkedAlone]
      refine walk_congr downFirst ?_
      rintro before ⟨between, rfl⟩
      rw [arrive_append, arrive_of_not_mem downFirst, List.append_assoc, List.append_assoc,
        ← List.append_assoc _ before] at stands
      have directory := sound.above stands (by simp)
      rw [makeWay_keeps linkless _ _ _ directory, (f.preserves_run linkless).directories _ directory]
    · rw [trunk_eq, List.append_assoc] at way'
      rw [← base] at passed ⊢
      exact walk_run_of_way linkless nameable way' passed
  obtain ⟨content', stands'⟩ := (f.preserves_run linkless).files _ _ stands
  have stopped : (f.run o).1.walk e.base e.way = .error .notDirectory := by
    rw [split, walk_append walked, walk_file up short stands', if_neg]
    simpa using more
  have made : (makeWay false (f.run o).1 e.base e.way).2 = .error .notDirectory := by
    rw [makeWay_eq_settle linkless' _ _ (by rw [stopped]; simp), stopped]
    rfl
  rw [run_of_way_error blocked.nameable made]

theorem run_of_blocked {e : Errand} {o : FileTree} (blocked : e.Blocked o) :
    (e.run o).2 = .error .alreadyExists := by
  rw [run_of_way_error blocked.nameable blocked.halted.refused]

end Errand

end Detype
