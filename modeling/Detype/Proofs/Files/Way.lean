import Detype.Proofs.Files.Walk

/-
**Making directories from the top.**

The directories of a path are made from the innermost one outwards: each is tried, and those above it only
if it cannot stand yet. Where there are no links this comes to the same as making them from the top, one
name after the other.

* `FileTree.makeWay` — makes the directories of a list of names from the top.
* `makeWay_get?` — what stands somewhere stays, and a free place stays free or becomes a directory.
* `makeWay_of_walk` — where the way leads to a directory nothing is made.
* `makeWay_concat` — the last name is settled when the way to it is made.
* `makeDirectories_eq` — the directories of a tight path are made as `makeWay` makes them.
-/

namespace Detype.FileTree

/-! ### Changing a place -/

theorem get?_set (t : FileTree) {p : Location} (below : p ≠ []) (e : Entry) (q : Location) :
    (t.set p e).get? q = if q = p then some e else t.get? q := by
  by_cases same : q = p
  · rw [if_pos same, same, get?_set_self t below]
  · rw [if_neg same, get?_set_ne t same]

theorem Linkless.set {t : FileTree} (linkless : t.Linkless) {p : Location} (below : p ≠ []) {e : Entry}
    (plain : ∀ target, e ≠ .link target) : (t.set p e).Linkless := by
  intro place target
  rw [get?_set t below]
  split
  · exact fun same => plain target (Option.some.inj same)
  · exact linkless place target

theorem concat_ne_nil (here : Location) (n : FileName) : here ++ [n] ≠ [] := by simp

/-! ### Walking further -/

/-- **The first step of a walk to a directory** goes up or into a directory. -/
theorem walk_cons_directory {t : FileTree} {here place : Location} {n : FileName} {rest : List FileName}
    (found : t.walk here (n :: rest) = .ok (.found place .directory)) :
    n = dotDot ∧ t.walk here.dropLast rest = .ok (.found place .directory) ∨
      n ≠ dotDot ∧ ¬ n.length > 255 ∧ t.get? (here ++ [n]) = some .directory ∧
        t.walk (here ++ [n]) rest = .ok (.found place .directory) := by
  by_cases up : n = dotDot
  · subst up
    rw [walk_dotDot] at found
    exact Or.inl ⟨rfl, found⟩
  · rw [walk, if_neg up] at found
    split at found
    · cases found
    · next short =>
      split at found
      · split at found <;> cases found
      · next stands => exact Or.inr ⟨up, short, stands, found⟩
      · next never _ =>
        split at found
        · cases found
          exact absurd rfl never
        · cases found

theorem walk_append {t : FileTree} {here place : Location} {names : List FileName}
    (found : t.walk here names = .ok (.found place .directory)) (more : List FileName) :
    t.walk here (names ++ more) = t.walk place more := by
  induction names generalizing here with
  | nil =>
    cases found
    rfl
  | cons n rest ih =>
    rcases walk_cons_directory found with ⟨rfl, later⟩ | ⟨up, short, stands, later⟩
    · rw [List.cons_append, walk_dotDot, ih later]
    · rw [List.cons_append, walk_directory up short stands, ih later]

/-- Directories that stay directories are walked through as before. -/
theorem walk_mono {t t' : FileTree}
    (stays : ∀ p, t.get? p = some .directory → t'.get? p = some .directory) {here place : Location}
    {names : List FileName} (found : t.walk here names = .ok (.found place .directory)) :
    t'.walk here names = .ok (.found place .directory) := by
  induction names generalizing here with
  | nil => exact found
  | cons n rest ih =>
    rcases walk_cons_directory found with ⟨rfl, later⟩ | ⟨up, short, stands, later⟩
    · rw [walk_dotDot, ih later]
    · rw [walk_directory up short (stays _ stands), ih later]

/-- Where names lead from a directory. -/
def arrive : Location → List FileName → Location
  | here, [] => here
  | here, n :: rest => if n = dotDot then arrive here.dropLast rest else arrive (here ++ [n]) rest

theorem arrive_dotDot (here : Location) (rest : List FileName) :
    arrive here (dotDot :: rest) = arrive here.dropLast rest := by simp [arrive]

theorem arrive_cons {n : FileName} (up : n ≠ dotDot) (here : Location) (rest : List FileName) :
    arrive here (n :: rest) = arrive (here ++ [n]) rest := by simp [arrive, up]

/-! ### Making the way -/

/-- Makes the directories of a list of names from the top. `made` tells whether one was made before: then
a file in the way is met where a directory is to be made, and not on the way to it. -/
def makeWay : (made : Bool) → FileTree → Location → List FileName → FileTree × Except FileError Unit
  | _, t, _, [] => (t, .ok ())
  | made, t, here, n :: rest =>
    if n = dotDot then makeWay made t here.dropLast rest
    else if n.length > 255 then (t, .error .nameTooLong)
    else
      match t.get? (here ++ [n]) with
      | none => makeWay true (t.set (here ++ [n]) .directory) (here ++ [n]) rest
      | some .directory => makeWay made t (here ++ [n]) rest
      | some _ => (t, .error (if rest.isEmpty || made then .alreadyExists else .notDirectory))

section Steps

variable {t : FileTree} {here : Location} {n : FileName} {rest : List FileName} {made : Bool}

@[simp]
theorem makeWay_nil (made : Bool) (t : FileTree) (here : Location) : makeWay made t here [] = (t, .ok ()) := rfl

theorem makeWay_dotDot : makeWay made t here (dotDot :: rest) = makeWay made t here.dropLast rest := by
  simp [makeWay]

theorem makeWay_long (up : n ≠ dotDot) (long : n.length > 255) :
    makeWay made t here (n :: rest) = (t, .error .nameTooLong) := by
  rw [makeWay, if_neg up, if_pos long]

theorem makeWay_vacant (up : n ≠ dotDot) (short : ¬ n.length > 255) (free : t.get? (here ++ [n]) = none) :
    makeWay made t here (n :: rest) =
      makeWay true (t.set (here ++ [n]) .directory) (here ++ [n]) rest := by
  rw [makeWay, if_neg up, if_neg short, free]

theorem makeWay_directory (up : n ≠ dotDot) (short : ¬ n.length > 255)
    (stands : t.get? (here ++ [n]) = some .directory) :
    makeWay made t here (n :: rest) = makeWay made t (here ++ [n]) rest := by
  rw [makeWay, if_neg up, if_neg short, stands]

theorem makeWay_file (up : n ≠ dotDot) (short : ¬ n.length > 255) {content : ByteArray}
    (stands : t.get? (here ++ [n]) = some (.file content)) :
    makeWay made t here (n :: rest) =
      (t, .error (if rest.isEmpty || made then .alreadyExists else .notDirectory)) := by
  rw [makeWay, if_neg up, if_neg short, stands]

end Steps

/-- **The ways through a name**: up, refused for its length, or at a place that is free, a directory or a
file. -/
theorem name_cases {t : FileTree} (linkless : t.Linkless) (here : Location) (n : FileName) :
    n = dotDot ∨ n ≠ dotDot ∧ (n.length > 255 ∨ ¬ n.length > 255 ∧
      (t.get? (here ++ [n]) = none ∨ t.get? (here ++ [n]) = some .directory ∨
        ∃ content, t.get? (here ++ [n]) = some (.file content))) := by
  by_cases up : n = dotDot
  · exact Or.inl up
  · refine Or.inr ⟨up, ?_⟩
    by_cases long : n.length > 255
    · exact Or.inl long
    · refine Or.inr ⟨long, ?_⟩
      cases stands : t.get? (here ++ [n]) with
      | none => exact Or.inl rfl
      | some entry =>
        cases entry with
        | directory => exact Or.inr (Or.inl rfl)
        | file content => exact Or.inr (Or.inr ⟨content, rfl⟩)
        | link target => exact absurd stands (linkless _ _)

/-- **What stands somewhere stays, and a free place stays free or becomes a directory.** -/
theorem makeWay_get? {t : FileTree} (linkless : t.Linkless) (made : Bool) (here : Location)
    (names : List FileName) (p : Location) :
    (makeWay made t here names).1.get? p = t.get? p ∨
      t.get? p = none ∧ (makeWay made t here names).1.get? p = some .directory := by
  induction names generalizing made t here with
  | nil => exact Or.inl rfl
  | cons n rest ih =>
    rcases name_cases linkless here n with rfl | ⟨up, long | ⟨short, free | stands | ⟨content, stands⟩⟩⟩
    · rw [makeWay_dotDot]
      exact ih linkless made _
    · rw [makeWay_long up long]
      exact Or.inl rfl
    · rw [makeWay_vacant up short free]
      have below := concat_ne_nil here n
      have later := ih (linkless.set below (e := .directory) (by simp)) true (here ++ [n])
      rw [get?_set t below] at later
      by_cases same : p = here ++ [n]
      · rw [if_pos same] at later
        rcases later with kept | ⟨absurdly, _⟩
        · exact Or.inr ⟨same ▸ free, kept⟩
        · cases absurdly
      · rwa [if_neg same] at later
    · rw [makeWay_directory up short stands]
      exact ih linkless made _
    · rw [makeWay_file up short stands]
      exact Or.inl rfl

theorem makeWay_keeps {t : FileTree} (linkless : t.Linkless) (made : Bool) (here : Location)
    (names : List FileName) {p : Location} {e : Entry} (stands : t.get? p = some e) :
    (makeWay made t here names).1.get? p = some e := by
  rcases makeWay_get? linkless made here names p with same | ⟨free, _⟩
  · rw [same, stands]
  · rw [stands] at free
    cases free

theorem Linkless.makeWay {t : FileTree} (linkless : t.Linkless) (made : Bool) (here : Location)
    (names : List FileName) : (makeWay made t here names).1.Linkless := by
  intro place target
  rcases makeWay_get? linkless made here names place with same | ⟨_, new⟩
  · rw [same]
    exact linkless place target
  · rw [new]
    simp

/-- **A way that is made can be walked.** -/
theorem walk_of_makeWay {t : FileTree} (linkless : t.Linkless) {made : Bool} {here : Location}
    {names : List FileName} (done : (makeWay made t here names).2 = .ok ()) :
    (makeWay made t here names).1.walk here names = .ok (.found (arrive here names) .directory) := by
  induction names generalizing made t here with
  | nil => rfl
  | cons n rest ih =>
    rcases name_cases linkless here n with rfl | ⟨up, long | ⟨short, free | stands | ⟨content, stands⟩⟩⟩
    · rw [makeWay_dotDot] at done ⊢
      rw [walk_dotDot, arrive_dotDot, ih linkless done]
    · rw [makeWay_long up long] at done
      cases done
    · rw [makeWay_vacant up short free] at done ⊢
      have below := concat_ne_nil here n
      have linkless' := linkless.set below (e := .directory) (by simp)
      rw [walk_directory up short (makeWay_keeps linkless' _ _ _ (get?_set_self t below _)), arrive_cons up,
        ih linkless' done]
    · rw [makeWay_directory up short stands] at done ⊢
      rw [walk_directory up short (makeWay_keeps linkless _ _ _ stands), arrive_cons up, ih linkless done]
    · rw [makeWay_file up short stands] at done
      cases done

/-- **Nothing is made of a way that can be walked.** -/
theorem makeWay_of_walk {t : FileTree} (made : Bool) {here place : Location} {names : List FileName}
    (found : t.walk here names = .ok (.found place .directory)) : makeWay made t here names = (t, .ok ()) := by
  induction names generalizing here with
  | nil => rfl
  | cons n rest ih =>
    rcases walk_cons_directory found with ⟨rfl, later⟩ | ⟨up, short, stands, later⟩
    · rw [makeWay_dotDot, ih later]
    · rw [makeWay_directory up short stands, ih later]

/-! ### One name more -/

/-- What comes of making a directory where a walk ended. -/
def settle (t : FileTree) : Except FileError Target → FileTree × Except FileError Unit
  | .ok (.vacant place _) => (t.set place .directory, .ok ())
  | .ok (.found _ .directory) => (t, .ok ())
  | .ok (.found _ _) => (t, .error .alreadyExists)
  | .error e => (t, .error e)

theorem makeWay_singleton {t : FileTree} (linkless : t.Linkless) (made : Bool) (here : Location)
    (n : FileName) : makeWay made t here [n] = t.settle (t.walk here [n]) := by
  rcases name_cases linkless here n with rfl | ⟨up, long | ⟨short, free | stands | ⟨content, stands⟩⟩⟩
  · rw [makeWay_dotDot, walk_dotDot]
    rfl
  · rw [makeWay_long up long, walk_long up long]
    rfl
  · rw [makeWay_vacant up short free, walk_vacant up short free]
    rfl
  · rw [makeWay_directory up short stands, walk_directory up short stands]
    rfl
  · rw [makeWay_file up short stands, walk_file up short stands]
    rfl

/-- What comes of a way to which a name is added, given what came of the way. -/
def further (here : Location) (names : List FileName) :
    FileTree × Except FileError Unit → FileTree × Except FileError Unit
  | (t, .error e) => (t, .error e)
  | (t, .ok ()) => t.settle (t.walk here names)

theorem further_walk {made : FileTree × Except FileError Unit} {here place : Location} {n : FileName}
    {names : List FileName} (through : made.1.walk here (n :: names) = made.1.walk place names) :
    further here (n :: names) made = further place names made := by
  obtain ⟨t, result⟩ := made
  cases result with
  | error e => rfl
  | ok done =>
    show t.settle (t.walk here (n :: names)) = t.settle (t.walk place names)
    rw [through]

/-- **The last name is settled when the way to it is made**, provided a directory was made before, or a place on the
way is free, so that one is made now. -/
theorem makeWay_concat {t : FileTree} (linkless : t.Linkless) {made : Bool} (here : Location) (init : List FileName)
    (n : FileName) (makes : made = true ∨ t.walk here (init ++ [n]) = .error .notFound) :
    makeWay made t here (init ++ [n]) = further here (init ++ [n]) (makeWay made t here init) := by
  induction init generalizing made t here with
  | nil => exact makeWay_singleton linkless made here n
  | cons m init ih =>
    rw [List.cons_append] at makes ⊢
    rcases name_cases linkless here m with rfl | ⟨up, long | ⟨short, free | stands | ⟨content, stands⟩⟩⟩
    · rw [walk_dotDot] at makes
      rw [makeWay_dotDot, makeWay_dotDot, ih linkless _ makes]
      exact (further_walk walk_dotDot).symm
    · rw [makeWay_long up long, makeWay_long up long]
      rfl
    · have below := concat_ne_nil here m
      have linkless' := linkless.set below (e := .directory) (by simp)
      rw [makeWay_vacant up short free, makeWay_vacant up short free, ih linkless' _ (Or.inl rfl)]
      refine (further_walk (walk_directory up short ?_)).symm
      exact makeWay_keeps linkless' _ _ _ (get?_set_self t below _)
    · rw [walk_directory up short stands] at makes
      rw [makeWay_directory up short stands, makeWay_directory up short stands, ih linkless _ makes]
      exact (further_walk (walk_directory up short (makeWay_keeps linkless _ _ _ stands))).symm
    · rcases makes with rfl | missing
      · rw [makeWay_file up short stands, makeWay_file up short stands]
        simp [further]
      · rw [walk_file up short stands] at missing
        simp at missing

/-- A way on which nothing is missing is settled at its end. -/
theorem makeWay_eq_settle {t : FileTree} (linkless : t.Linkless) (here : Location) (names : List FileName)
    (reached : t.walk here names ≠ .error .notFound) :
    makeWay false t here names = t.settle (t.walk here names) := by
  induction names generalizing here with
  | nil => rfl
  | cons n rest ih =>
    rcases name_cases linkless here n with rfl | ⟨up, long | ⟨short, free | stands | ⟨content, stands⟩⟩⟩
    · rw [walk_dotDot] at reached ⊢
      rw [makeWay_dotDot, ih _ reached]
    · rw [makeWay_long up long, walk_long up long]
      rfl
    · rw [walk_vacant up short free] at reached ⊢
      rw [makeWay_vacant up short free]
      cases rest with
      | nil => rfl
      | cons m ms => exact absurd rfl reached
    · rw [walk_directory up short stands] at reached ⊢
      rw [makeWay_directory up short stands, ih _ reached]
    · rw [makeWay_file up short stands, walk_file up short stands]
      cases rest with
      | nil => rfl
      | cons m ms => rfl

/-! ### Directories of a path -/

section Path

variable {t : FileTree} (linkless : t.Linkless) (cwd : Location) {path : String}

include linkless

theorem makeDirectory_eq (tight : Path.Tight path) (nameable : textFault? path = none) :
    t.makeDirectory cwd path =
      match t.walk (start cwd path) (route path) with
      | .error e => .error e
      | .ok (.found ..) => .error .alreadyExists
      | .ok (.vacant place _) => .ok (t.set place .directory) := by
  unfold makeDirectory
  rw [locate_eq_walk linkless cwd tight false, nameable]
  cases t.walk (start cwd path) (route path) with
  | error e => rfl
  | ok target => cases target <;> rfl

theorem isDirectory_eq (tight : Path.Tight path) (nameable : textFault? path = none) :
    t.isDirectory cwd path =
      match t.walk (start cwd path) (route path) with
      | .ok (.found _ .directory) => true
      | _ => false := by
  unfold isDirectory entryAt?
  rw [locate_eq_walk linkless cwd tight true, nameable]
  cases t.walk (start cwd path) (route path) with
  | error e => rfl
  | ok target =>
    cases target with
    | found place entry => cases entry <;> rfl
    | vacant place asDirectory => rfl

/-- A directory that is made, or is there already, or cannot be made. -/
theorem makeDirectory_settles (tight : Path.Tight path) (nameable : textFault? path = none) :
    (match t.makeDirectory cwd path with
      | .ok t => (t, .ok ())
      | .error e => if t.isDirectory cwd path then (t, .ok ()) else (t, .error e)) =
      t.settle (t.walk (start cwd path) (route path)) := by
  rw [makeDirectory_eq linkless cwd tight nameable, isDirectory_eq linkless cwd tight nameable]
  cases t.walk (start cwd path) (route path) with
  | error e => rfl
  | ok target =>
    cases target with
    | found place entry => cases entry <;> rfl
    | vacant place asDirectory => rfl

theorem makeChain_reached (tight : Path.Tight path) (nameable : textFault? path = none)
    (reached : t.walk (start cwd path) (route path) ≠ .error .notFound) (above : List String) :
    t.makeChain cwd (path :: above) = t.settle (t.walk (start cwd path) (route path)) := by
  have nonempty : path.isEmpty = false := by simpa using (textFault?_eq_none.mp nameable).1
  rw [← makeDirectory_settles linkless cwd tight nameable, makeChain, nonempty]
  have notMissing : t.makeDirectory cwd path ≠ .error .notFound := by
    rw [makeDirectory_eq linkless cwd tight nameable]
    cases found : t.walk (start cwd path) (route path) with
    | error e => simpa [found] using reached
    | ok target => cases target <;> simp
  cases outcome : t.makeDirectory cwd path with
  | ok after => rfl
  | error e =>
    cases e with
    | notFound => exact absurd outcome notMissing
    | _ => rfl

theorem makeChain_missing (tight : Path.Tight path) (nameable : textFault? path = none)
    (missing : t.walk (start cwd path) (route path) = .error .notFound) {above : List String}
    (linkless' : (t.makeChain cwd above).1.Linkless) :
    t.makeChain cwd (path :: above) = further (start cwd path) (route path) (t.makeChain cwd above) := by
  have nonempty : path.isEmpty = false := by simpa using (textFault?_eq_none.mp nameable).1
  have notYet : t.makeDirectory cwd path = .error .notFound := by
    rw [makeDirectory_eq linkless cwd tight nameable, missing]
  rw [makeChain, nonempty, notYet]
  cases shape : t.makeChain cwd above with
  | mk after result =>
    rw [shape] at linkless'
    cases result with
    | error e => rfl
    | ok done => exact makeDirectory_settles linkless' cwd tight nameable

end Path

/-- A beginning of a text that can name a place can name one, unless it is empty. -/
theorem textFault?_of_isPrefix {first path : String} (start : first.toList <+: path.toList)
    (nonempty : first ≠ "") (nameable : textFault? path = none) : textFault? first = none := by
  obtain ⟨rest, spelled⟩ := start
  have whole : path = first ++ String.ofList rest := by
    rw [← String.toList_inj, String.toList_append, String.toList_ofList, spelled]
  obtain ⟨_, plain, short⟩ := textFault?_eq_none.mp nameable
  rw [whole, String.toList_append] at plain
  rw [whole, String.utf8ByteSize_append] at short
  refine textFault?_eq_none.mpr ⟨nonempty, ?_, by omega⟩
  rw [Bool.eq_false_iff, ne_eq, List.contains_iff_mem] at plain ⊢
  exact fun nul => plain (List.mem_append_left _ nul)

/-- Each name takes a character of its own. -/
theorem length_names_le (path : String) : (Path.names path).length ≤ path.length := by
  have count : ∀ cs : List Char, ((Path.pieces cs).filter (!Path.isTrivial ·)).length ≤ cs.length := by
    intro cs
    induction cs with
    | nil => decide
    | cons c cs ih =>
      by_cases slash : c = '/'
      · subst slash
        rw [Path.pieces_slash]
        exact Nat.le_succ_of_le ih
      · obtain ⟨p, ps, first, joined⟩ := Path.pieces_cons slash cs
        rw [first] at ih
        rw [joined]
        have tail := List.length_filter_le (!Path.isTrivial ·) [c :: p]
        simp only [List.filter_cons] at ih ⊢
        split <;> split at ih <;> simp at ih ⊢ <;> omega
  rw [Path.names, ← String.length_toList]
  exact count path.toList

theorem start_of_isAbsolute {first path : String} (same : Path.isAbsolute first = Path.isAbsolute path)
    (cwd : Location) : start cwd first = start cwd path := by rw [start, start, same]

/-- A path and those above it are made from the top. -/
theorem makeChain_ancestorsWithin {t : FileTree} (linkless : t.Linkless) (cwd : Location) {fuel : Nat}
    {path : String} (tight : Path.Tight path) (nameable : path ≠ "" → textFault? path = none)
    (fits : (Path.names path).length ≤ fuel) :
    t.makeChain cwd (Path.ancestorsWithin fuel path) = makeWay false t (start cwd path) (route path) := by
  induction fuel generalizing path with
  | zero =>
    have nameless : route path = [] := by
      rw [route, List.eq_nil_of_length_eq_zero (Nat.le_zero.mp fits)]
      rfl
    rw [nameless, makeWay_nil, Path.ancestorsWithin]
    by_cases empty : path = ""
    · subst empty
      rfl
    · rw [makeChain_reached linkless cwd tight (nameable empty) (by rw [nameless]; simp), nameless]
      rfl
  | succ fuel ih =>
    rw [Path.ancestorsWithin]
    by_cases empty : path = ""
    · subst empty
      rfl
    · have nameable := nameable empty
      by_cases missing : t.walk (start cwd path) (route path) = .error .notFound
      · have named : Path.names path ≠ [] := by
          intro none
          rw [route, none] at missing
          cases missing
        obtain ⟨parent, above⟩ := Option.isSome_iff_exists.mp (Path.parent?_isSome named)
        obtain ⟨parentNames, parentTight, beginning, absolute⟩ := Path.parent?_eq_some above
        have shorter : (Path.names parent).length ≤ fuel := by
          rw [parentNames, List.length_dropLast]
          omega
        have made := ih parentTight (fun full => textFault?_of_isPrefix beginning full nameable) shorter
        have whole : route path = route parent ++ [nameOf ((Path.names path).getLast named)] := by
          rw [route, route, parentNames, ← List.map_singleton (f := nameOf), ← List.map_append,
            List.dropLast_concat_getLast]
        rw [above]
        dsimp only
        rw [makeChain_missing linkless cwd tight nameable missing
          (by rw [made]; exact linkless.makeWay _ _ _), made, start_of_isAbsolute absolute, whole]
        rw [whole] at missing
        exact (makeWay_concat linkless _ _ _ (Or.inr missing)).symm
      · rw [makeChain_reached linkless cwd tight nameable missing, makeWay_eq_settle linkless _ _ missing]

/-- **The directories of a tight path are made from the top**, if its text can name a place. -/
theorem makeDirectories_eq {t : FileTree} (linkless : t.Linkless) (cwd : Location) {path : String}
    (tight : Path.Tight path) :
    t.makeDirectories cwd path =
      match (if path = "" then none else textFault? path) with
      | some e => (t, .error e)
      | none => makeWay false t (start cwd path) (route path) := by
  have fits := length_names_le path
  by_cases empty : path = ""
  · rw [if_pos empty]
    exact makeChain_ancestorsWithin linkless cwd tight (fun full => absurd empty full) fits
  · rw [if_neg empty]
    cases fault : textFault? path with
    | none => exact makeChain_ancestorsWithin linkless cwd tight (fun _ => fault) fits
    | some e =>
      have nonempty : path.isEmpty = false := by simpa using empty
      have refused : t.makeDirectory cwd path = .error e := by
        unfold makeDirectory
        rw [locate_eq_walk linkless cwd tight false, fault]
        rfl
      have nowhere : t.isDirectory cwd path = false := by
        unfold isDirectory entryAt?
        rw [locate_eq_walk linkless cwd tight true, fault]
      have chain : ∃ above, Path.ancestors path = path :: above := by
        unfold Path.ancestors
        cases path.length <;> exact ⟨_, rfl⟩
      obtain ⟨above, shape⟩ := chain
      unfold makeDirectories
      rw [shape, makeChain, nonempty, refused]
      cases e with
      | notFound =>
        unfold textFault? at fault
        rw [nonempty] at fault
        simp only [Bool.false_eq_true, if_false] at fault
        split at fault
        · cases fault
        · split at fault <;> cases fault
      | _ => simp [nowhere]

end Detype.FileTree
