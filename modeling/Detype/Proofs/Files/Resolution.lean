import Detype.Files.Operations
import Detype.Proofs.Files.PathNames

/-
**Resolving the pieces of a path.**

A path is followed piece by piece. Here the steps stand in a relation, with one rule for what each piece can lead to, so
that whatever is true of a place to which a path leads is proved by induction on how it leads there.

* `nameOf`, `route`, `named` — pieces of a path as names in a directory, and those among them that count.
* `FileTree.Resolves` — how pieces are followed to a target, through directories and links.
* `follow_eq_ok` — pieces are followed to a target just if they resolve to it.
* `locate_eq_ok` — a path is found to lead to a target just if its text can name a place and its pieces
  resolve to it.
-/

namespace Detype.FileTree

/-! ### Pieces of a path as names -/

/-- A piece of a path as it stands in a directory. -/
def nameOf (p : List Char) : FileName := Text.bytesOf (String.ofList p)

theorem nameOf_injective : Function.Injective nameOf := by
  intro p q same
  have bytes : (String.ofList p).toByteArray.data.toList = (String.ofList q).toByteArray.data.toList := same
  have arrays : (String.ofList p).toByteArray = (String.ofList q).toByteArray :=
    ByteArray.ext (Array.toList_inj.mp bytes)
  exact String.ofList_injective (String.toByteArray_inj.mp arrays)

theorem nameOf_nil : nameOf [] = [] := by decide

theorem nameOf_dot : nameOf ['.'] = dot := by decide

theorem nameOf_dotDot : nameOf ['.', '.'] = dotDot := by decide

/-- Whether a piece is one that names nothing. -/
def isBlank (n : FileName) : Bool := decide (n = [] ∨ n = dot)

theorem isBlank_eq_true {n : FileName} : isBlank n = true ↔ n = [] ∨ n = dot := decide_eq_true_iff

theorem isBlank_eq_false {n : FileName} : isBlank n = false ↔ ¬ (n = [] ∨ n = dot) := decide_eq_false_iff_not

theorem isBlank_nameOf (p : List Char) : isBlank (nameOf p) = Path.isTrivial p := by
  have empty : nameOf p = [] ↔ p = [] := by rw [← nameOf_nil, nameOf_injective.eq_iff]
  have dotted : nameOf p = dot ↔ p = ['.'] := by rw [← nameOf_dot, nameOf_injective.eq_iff]
  rw [Bool.eq_iff_iff, isBlank_eq_true, empty, dotted]
  simp [Path.isTrivial]

theorem segments_eq (path : String) : segments path = (Path.pieces path.toList).map nameOf := rfl

/-- The names of a path, as they stand in directories. -/
def route (path : String) : List FileName := (Path.names path).map nameOf

/-- The pieces that count among those between slashes. -/
def named (segs : List FileName) : List FileName := segs.filter (!isBlank ·)

theorem named_segments (path : String) : named (segments path) = route path := by
  have counts : (fun n => !isBlank n) ∘ nameOf = fun p => !Path.isTrivial p := by
    funext p
    rw [Function.comp_apply, isBlank_nameOf]
  rw [named, segments_eq, List.filter_map, counts]
  rfl

theorem named_cons_blank {n : FileName} (blank : isBlank n = true) (segs : List FileName) :
    named (n :: segs) = named segs := by simp [named, blank]

theorem named_cons {n : FileName} (counts : isBlank n = false) (segs : List FileName) :
    named (n :: segs) = n :: named segs := by simp [named, counts]

/-- A piece that is looked up in a directory. -/
structure LookedUp (n : FileName) : Prop where
  named : isBlank n = false
  down : n ≠ dotDot
  short : ¬ n.length > 255

/-- A piece names nothing, goes up, is too long, or is looked up. -/
theorem piece_cases (n : FileName) :
    isBlank n = true ∨ n = dotDot ∨ (isBlank n = false ∧ n ≠ dotDot ∧ n.length > 255) ∨ LookedUp n := by
  cases named : isBlank n with
  | true => exact Or.inl rfl
  | false =>
    by_cases down : n = dotDot
    · exact Or.inr (Or.inl down)
    · by_cases long : n.length > 255
      · exact Or.inr (Or.inr (Or.inl ⟨rfl, down, long⟩))
      · exact Or.inr (Or.inr (Or.inr ⟨named, down, long⟩))

/-! ### One piece -/

section Pieces

variable {t : FileTree} {followLast : Bool} {jump : Location → List FileName → Except FileError Target}
  {here : Location} {n : FileName} {rest : List FileName}

theorem followBy_blank (blank : isBlank n = true) :
    t.followBy followLast jump here (n :: rest) = t.followBy followLast jump here rest := by
  rw [followBy, if_pos (isBlank_eq_true.mp blank)]

theorem followBy_dotDot :
    t.followBy followLast jump here (dotDot :: rest) = t.followBy followLast jump here.dropLast rest := by
  rw [followBy, if_neg (by decide), if_pos rfl]

theorem followBy_long (named : isBlank n = false) (down : n ≠ dotDot) (long : n.length > 255) :
    t.followBy followLast jump here (n :: rest) = .error .nameTooLong := by
  rw [followBy, if_neg (isBlank_eq_false.mp named), if_neg down, if_pos long]

theorem followBy_vacant (looked : LookedUp n) (free : t.get? (here ++ [n]) = none) :
    t.followBy followLast jump here (n :: rest) =
      if rest.all List.isEmpty then .ok (.vacant (here ++ [n]) (!rest.isEmpty)) else .error .notFound := by
  rw [followBy, if_neg (isBlank_eq_false.mp looked.named), if_neg looked.down, if_neg looked.short]
  dsimp only
  rw [free]

theorem followBy_directory (looked : LookedUp n) (stands : t.get? (here ++ [n]) = some .directory) :
    t.followBy followLast jump here (n :: rest) = t.followBy followLast jump (here ++ [n]) rest := by
  rw [followBy, if_neg (isBlank_eq_false.mp looked.named), if_neg looked.down, if_neg looked.short]
  dsimp only
  rw [stands]

theorem followBy_file (looked : LookedUp n) {content : ByteArray}
    (stands : t.get? (here ++ [n]) = some (.file content)) :
    t.followBy followLast jump here (n :: rest) =
      if rest.isEmpty then .ok (.found (here ++ [n]) (.file content)) else .error .notDirectory := by
  rw [followBy, if_neg (isBlank_eq_false.mp looked.named), if_neg looked.down, if_neg looked.short]
  dsimp only
  rw [stands]

theorem followBy_link (looked : LookedUp n) {text : String} (stands : t.get? (here ++ [n]) = some (.link text)) :
    t.followBy followLast jump here (n :: rest) =
      if rest.isEmpty && !followLast then .ok (.found (here ++ [n]) (.link text))
      else jump (if Path.isAbsolute text then [] else here) (segments text ++ rest) := by
  rw [followBy, if_neg (isBlank_eq_false.mp looked.named), if_neg looked.down, if_neg looked.short]
  dsimp only
  rw [stands]

end Pieces

/-! ### All pieces -/

/-- How pieces are followed from a directory to a target, through at most so many links. A link at the end is followed
only if `followLast` says so. -/
inductive Resolves (t : FileTree) (followLast : Bool) : (links : Nat) → Location → List FileName → Target → Prop
  | done {links here} : Resolves t followLast links here [] (.found here .directory)
  | blank {links here n rest target} : isBlank n = true → Resolves t followLast links here rest target →
      Resolves t followLast links here (n :: rest) target
  | up {links here rest target} : Resolves t followLast links here.dropLast rest target →
      Resolves t followLast links here (dotDot :: rest) target
  | vacant {links here n rest} : LookedUp n → t.get? (here ++ [n]) = none → rest.all List.isEmpty = true →
      Resolves t followLast links here (n :: rest) (.vacant (here ++ [n]) (!rest.isEmpty))
  | directory {links here n rest target} : LookedUp n → t.get? (here ++ [n]) = some .directory →
      Resolves t followLast links (here ++ [n]) rest target → Resolves t followLast links here (n :: rest) target
  | file {links here n content} : LookedUp n → t.get? (here ++ [n]) = some (.file content) →
      Resolves t followLast links here [n] (.found (here ++ [n]) (.file content))
  | lastLink {links here n text} : LookedUp n → t.get? (here ++ [n]) = some (.link text) → followLast = false →
      Resolves t followLast links here [n] (.found (here ++ [n]) (.link text))
  | link {links here n rest text target} : LookedUp n → t.get? (here ++ [n]) = some (.link text) →
      (rest.isEmpty && !followLast) = false →
      Resolves t followLast links (if Path.isAbsolute text then [] else here) (segments text ++ rest) target →
      Resolves t followLast (links + 1) here (n :: rest) target

section Following

variable {t : FileTree} {followLast : Bool} {links : Nat} {here : Location} {segs : List FileName} {target : Target}

/-- Pieces that are followed to a target resolve to it, if what follows a link does. -/
theorem resolves_of_followBy {jump : Location → List FileName → Except FileError Target}
    (jumps : ∀ {here segs}, jump here segs = .ok target →
      ∃ fewer, links = fewer + 1 ∧ t.Resolves followLast fewer here segs target)
    (followed : t.followBy followLast jump here segs = .ok target) :
    t.Resolves followLast links here segs target := by
  induction segs generalizing here with
  | nil =>
    cases followed
    exact .done
  | cons n rest ih =>
    rcases piece_cases n with blank | rfl | ⟨named, down, long⟩ | looked
    · rw [followBy_blank blank] at followed
      exact .blank blank (ih followed)
    · rw [followBy_dotDot] at followed
      exact .up (ih followed)
    · rw [followBy_long named down long] at followed
      cases followed
    · cases stands : t.get? (here ++ [n]) with
      | none =>
        rw [followBy_vacant looked stands] at followed
        split at followed
        · next ends =>
          cases followed
          exact .vacant looked stands ends
        · cases followed
      | some entry =>
        cases entry with
        | directory =>
          rw [followBy_directory looked stands] at followed
          exact .directory looked stands (ih followed)
        | file content =>
          rw [followBy_file looked stands] at followed
          cases rest with
          | nil =>
            cases followed
            exact .file looked stands
          | cons m more => cases followed
        | link text =>
          rw [followBy_link looked stands] at followed
          split at followed
          · next last =>
            rw [Bool.and_eq_true, List.isEmpty_iff, Bool.not_eq_true'] at last
            obtain ⟨rfl, stays⟩ := last
            cases followed
            exact .lastLink looked stands stays
          · next on =>
            obtain ⟨fewer, rfl, resolves⟩ := jumps followed
            exact .link looked stands (Bool.eq_false_iff.mpr on) resolves

theorem resolves_of_follow (followed : t.follow followLast links here segs = .ok target) :
    t.Resolves followLast links here segs target := by
  induction links generalizing here segs with
  | zero =>
    refine resolves_of_followBy (fun jumped => ?_) followed
    cases jumped
  | succ links ih => exact resolves_of_followBy (fun jumped => ⟨links, rfl, ih jumped⟩) followed

theorem follow_of_resolves (resolves : t.Resolves followLast links here segs target) :
    t.follow followLast links here segs = .ok target := by
  induction resolves with
  | @done links _ => cases links <;> rfl
  | @blank links _ _ _ _ blank _ ih =>
    rw [← ih]
    cases links <;> exact followBy_blank blank
  | @up links _ _ _ _ ih =>
    rw [← ih]
    cases links <;> exact followBy_dotDot
  | @vacant links _ _ _ looked free ends => cases links <;> exact (followBy_vacant looked free).trans (if_pos ends)
  | @directory links _ _ _ _ looked stands _ ih =>
    rw [← ih]
    cases links <;> exact followBy_directory looked stands
  | @file links _ _ _ looked stands => cases links <;> exact followBy_file looked stands
  | @lastLink links _ _ _ looked stands stays =>
    subst stays
    cases links <;> exact followBy_link looked stands
  | link looked stands on _ ih =>
    rw [← ih]
    exact (followBy_link looked stands).trans (if_neg (Bool.eq_false_iff.mp on))

/-- **Pieces are followed to a target** just if they resolve to it. -/
theorem follow_eq_ok :
    t.follow followLast links here segs = .ok target ↔ t.Resolves followLast links here segs target :=
  ⟨resolves_of_follow, follow_of_resolves⟩

end Following

namespace Resolves

variable {t : FileTree} {followLast : Bool} {links : Nat} {here place : Location} {segs : List FileName}

/-- What pieces are found to lead to stands there, if it is no directory. -/
theorem stands {entry : Entry} (resolves : t.Resolves followLast links here segs (.found place entry))
    (other : entry ≠ .directory) : t.get? place = some entry := by
  generalize found : Target.found place entry = target at resolves
  induction resolves with
  | done =>
    cases found
    exact absurd rfl other
  | blank _ _ ih | up _ ih | directory _ _ _ ih | link _ _ _ _ ih => exact ih found
  | vacant => cases found
  | file _ stands | lastLink _ stands _ =>
    cases found
    exact stands

/-- Nothing stands at a place that pieces are found to lead to as a free one. -/
theorem free {ended : Bool} (resolves : t.Resolves followLast links here segs (.vacant place ended)) :
    t.get? place = none := by
  generalize found : Target.vacant place ended = target at resolves
  induction resolves with
  | done | file | lastLink => cases found
  | blank _ _ ih | up _ ih | directory _ _ _ ih | link _ _ _ _ ih => exact ih found
  | vacant _ free _ =>
    cases found
    exact free

/-- A piece at the end that names nothing leads from a directory to that directory. -/
theorem concat_blank {n : FileName} (blank : isBlank n = true)
    (resolves : t.Resolves followLast links here segs (.found place .directory)) :
    t.Resolves followLast links here (segs ++ [n]) (.found place .directory) := by
  generalize found : Target.found place .directory = target at resolves ⊢
  induction resolves with
  | done => exact .blank blank .done
  | blank blank' _ ih => exact .blank blank' (ih found)
  | up _ ih => exact .up (ih found)
  | directory looked stands _ ih => exact .directory looked stands (ih found)
  | vacant | file | lastLink => cases found
  | link looked stands _ _ ih =>
    have later := ih found
    rw [List.append_assoc] at later
    exact .link looked stands (by simp) later

end Resolves

/-! ### Paths -/

/-- Where a path starts. -/
def start (cwd : Location) (path : String) : Location := if Path.isAbsolute path then [] else cwd

/-- Why a text names no place, whatever stands anywhere. -/
def textFault? (path : String) : Option FileError :=
  if path.isEmpty then some .notFound
  else if path.toList.contains (Char.ofNat 0) then some .nulInName
  else if path.utf8ByteSize ≥ 4096 then some .nameTooLong
  else none

theorem textFault?_eq_none {path : String} :
    textFault? path = none ↔
      path ≠ "" ∧ path.toList.contains (Char.ofNat 0) = false ∧ path.utf8ByteSize < 4096 := by
  unfold textFault?
  split
  · next empty => simp_all
  · next full =>
    split
    · next nul => simp_all
    · next plain => split <;> simp_all

theorem locate_eq (t : FileTree) (cwd : Location) (path : String) (followLast : Bool) :
    t.locate cwd path followLast =
      match textFault? path with
      | some e => .error e
      | none => t.follow followLast linkLimit (start cwd path) (segments path) := by
  unfold locate textFault?
  split
  · rfl
  · split
    · rfl
    · split <;> rfl

section Paths

variable {t : FileTree} {cwd place : Location} {path : String} {entry : Entry}

/-- **A path leads to a target** just if its text can name a place and its pieces resolve to the target. -/
theorem locate_eq_ok {followLast : Bool} {target : Target} :
    t.locate cwd path followLast = .ok target ↔
      textFault? path = none ∧ t.Resolves followLast linkLimit (start cwd path) (segments path) target := by
  rw [locate_eq, ← follow_eq_ok]
  cases textFault? path <;> simp

theorem entryAt?_eq_some :
    t.entryAt? cwd path = some (place, entry) ↔ t.locate cwd path = .ok (.found place entry) := by
  constructor
  · intro found
    unfold entryAt? at found
    split at found
    · next located =>
      cases found
      exact located
    · cases found
  · intro located
    rw [entryAt?, located]

/-- What stands at a path is what its pieces resolve to. -/
theorem entryAt?_iff_resolves :
    t.entryAt? cwd path = some (place, entry) ↔
      textFault? path = none ∧ t.Resolves true linkLimit (start cwd path) (segments path) (.found place entry) :=
  entryAt?_eq_some.trans locate_eq_ok

end Paths

end Detype.FileTree
