import Detype.Proofs.Files.Resolution

/-
**Following names where there are no links.**

Without links a path leads to a place that its names alone determine, and only what stands on the way
decides how far it leads.

* `FileTree.Linkless` — no link stands anywhere.
* `FileTree.walk` — following names one by one, with no links and no pieces that name nothing.
* `locate_eq_walk` — the place of a tight path is found by walking its names.
* `walk_of_entryAt?` — so is that of any path that leads to a directory.
-/

namespace Detype.FileTree

/-- No link stands anywhere. -/
def Linkless (t : FileTree) : Prop := ∀ place target, t.get? place ≠ some (.link target)

/-! ### Walking -/

/-- Follows names from a directory where there are no links. -/
def walk (t : FileTree) : Location → List FileName → Except FileError Target
  | here, [] => .ok (.found here .directory)
  | here, n :: rest =>
    if n = dotDot then t.walk here.dropLast rest
    else if n.length > 255 then .error .nameTooLong
    else
      match t.get? (here ++ [n]) with
      | none => if rest.isEmpty then .ok (.vacant (here ++ [n]) false) else .error .notFound
      | some .directory => t.walk (here ++ [n]) rest
      | some entry => if rest.isEmpty then .ok (.found (here ++ [n]) entry) else .error .notDirectory

section Steps

variable {t : FileTree} {here : Location} {n : FileName} {rest : List FileName}

@[simp]
theorem walk_nil (t : FileTree) (here : Location) : t.walk here [] = .ok (.found here .directory) := rfl

theorem walk_dotDot : t.walk here (dotDot :: rest) = t.walk here.dropLast rest := by simp [walk]

theorem walk_long (up : n ≠ dotDot) (long : n.length > 255) :
    t.walk here (n :: rest) = .error .nameTooLong := by
  rw [walk, if_neg up, if_pos long]

theorem walk_directory (up : n ≠ dotDot) (short : ¬ n.length > 255)
    (stands : t.get? (here ++ [n]) = some .directory) :
    t.walk here (n :: rest) = t.walk (here ++ [n]) rest := by
  rw [walk, if_neg up, if_neg short, stands]

theorem walk_vacant (up : n ≠ dotDot) (short : ¬ n.length > 255) (free : t.get? (here ++ [n]) = none) :
    t.walk here (n :: rest) =
      if rest.isEmpty then .ok (.vacant (here ++ [n]) false) else .error .notFound := by
  rw [walk, if_neg up, if_neg short, free]

theorem walk_file (up : n ≠ dotDot) (short : ¬ n.length > 255) {content : ByteArray}
    (stands : t.get? (here ++ [n]) = some (.file content)) :
    t.walk here (n :: rest) =
      if rest.isEmpty then .ok (.found (here ++ [n]) (.file content)) else .error .notDirectory := by
  rw [walk, if_neg up, if_neg short, stands]

end Steps

/-- The last of the pieces counts, if any does. -/
def TightPieces (segs : List FileName) : Prop :=
  named segs = [] ∨ ∃ n, segs.getLast? = some n ∧ isBlank n = false

theorem TightPieces.tail {n : FileName} {segs : List FileName} (tight : TightPieces (n :: segs)) :
    TightPieces segs := by
  cases segs with
  | nil => exact Or.inl rfl
  | cons m ms =>
    rcases tight with none | ⟨last, ends, counts⟩
    · refine Or.inl (List.filter_eq_nil_iff.mpr fun x member => ?_)
      exact List.filter_eq_nil_iff.mp none x (List.mem_cons_of_mem _ member)
    · exact Or.inr ⟨last, by rwa [List.getLast?_cons_cons] at ends, counts⟩

theorem tightPieces_segments {path : String} (tight : Path.Tight path) : TightPieces (segments path) := by
  rcases tight with none | ⟨p, ends, counts⟩
  · exact Or.inl (by rw [named_segments, route, none]; rfl)
  · refine Or.inr ⟨nameOf p, ?_, by rw [isBlank_nameOf, counts]⟩
    rw [segments_eq, List.getLast?_map, ends]
    rfl

/-- After a piece that counts, tight pieces are none at all or one of them counts. -/
theorem TightPieces.rest {n : FileName} {segs : List FileName} (tight : TightPieces (n :: segs))
    (counts : isBlank n = false) (more : segs ≠ []) :
    named segs ≠ [] ∧ segs.all List.isEmpty = false := by
  obtain ⟨last, ends, lastCounts⟩ : ∃ last, segs.getLast? = some last ∧ isBlank last = false := by
    rcases tight with none | ⟨last, ends, lastCounts⟩
    · rw [named_cons counts] at none
      cases none
    · obtain ⟨m, ms, rfl⟩ := List.exists_cons_of_ne_nil more
      exact ⟨last, by rwa [List.getLast?_cons_cons] at ends, lastCounts⟩
  have member : last ∈ segs := List.mem_of_getLast? ends
  refine ⟨fun none => ?_, List.all_eq_false.mpr ⟨last, member, fun empty => ?_⟩⟩
  · have dropped := List.filter_eq_nil_iff.mp none last member
    rw [lastCounts] at dropped
    exact dropped rfl
  · exact isBlank_eq_false.mp lastCounts (Or.inl (List.isEmpty_iff.mp empty))

/-- **Following tight pieces is walking the names among them.** -/
theorem followBy_eq_walk {t : FileTree} (linkless : t.Linkless) (followLast : Bool)
    (jump : Location → List FileName → Except FileError Target) (here : Location) {segs : List FileName}
    (tight : TightPieces segs) : t.followBy followLast jump here segs = t.walk here (named segs) := by
  induction segs generalizing here with
  | nil => rfl
  | cons n rest ih =>
    have later := fun here => ih here tight.tail
    rcases piece_cases n with blank | rfl | ⟨counts, up, long⟩ | looked
    · rw [named_cons_blank blank, followBy_blank blank, later]
    · rw [named_cons (by decide), followBy_dotDot, walk_dotDot, later]
    · rw [named_cons counts, followBy_long counts up long, walk_long up long]
    · rw [named_cons looked.named]
      have ends : rest = [] ∨ (rest.all List.isEmpty = false ∧ rest.isEmpty = false ∧
          (named rest).isEmpty = false) := by
        by_cases ended : rest = []
        · exact Or.inl ended
        · obtain ⟨someNamed, someFull⟩ := tight.rest looked.named ended
          exact Or.inr ⟨someFull, by simpa using ended, by simpa using someNamed⟩
      cases stands : t.get? (here ++ [n]) with
      | none =>
        rw [followBy_vacant looked stands, walk_vacant looked.down looked.short stands]
        rcases ends with rfl | ⟨full, more, moreNamed⟩
        · rfl
        · simp only [full, more, moreNamed]
          rfl
      | some entry =>
        cases entry with
        | directory =>
          rw [followBy_directory looked stands, walk_directory looked.down looked.short stands, later]
        | file content =>
          rw [followBy_file looked stands, walk_file looked.down looked.short stands]
          rcases ends with rfl | ⟨full, more, moreNamed⟩
          · rfl
          · simp only [more, moreNamed]
        | link target => exact absurd stands (linkless _ _)

theorem follow_eq_walk {t : FileTree} (linkless : t.Linkless) (followLast : Bool) (links : Nat)
    (here : Location) {segs : List FileName} (tight : TightPieces segs) :
    t.follow followLast links here segs = t.walk here (named segs) := by
  cases links with
  | zero => exact followBy_eq_walk linkless followLast _ here tight
  | succ links => exact followBy_eq_walk linkless followLast _ here tight

/-- **The place of a tight path** is found by walking its names. -/
theorem locate_eq_walk {t : FileTree} (linkless : t.Linkless) (cwd : Location) {path : String}
    (tight : Path.Tight path) (followLast : Bool) :
    t.locate cwd path followLast =
      match textFault? path with
      | some e => .error e
      | none => t.walk (start cwd path) (route path) := by
  have walked := follow_eq_walk linkless followLast linkLimit (start cwd path) (tightPieces_segments tight)
  rw [named_segments] at walked
  rw [locate_eq]
  cases textFault? path with
  | some e => rfl
  | none => exact walked

/-- Pieces that lead to a directory lead there by their names. -/
theorem Resolves.walk {t : FileTree} {followLast : Bool} {links : Nat} {here place : Location}
    {segs : List FileName} (resolves : t.Resolves followLast links here segs (.found place .directory))
    (linkless : t.Linkless) : t.walk here (named segs) = .ok (.found place .directory) := by
  generalize found : Target.found place .directory = target at resolves
  induction resolves with
  | done => rfl
  | blank blank _ ih => rw [named_cons_blank blank, ih found]
  | up _ ih => rw [named_cons (by decide), walk_dotDot, ih found]
  | directory looked stands _ ih =>
    rw [named_cons looked.named, walk_directory looked.down looked.short stands, ih found]
  | vacant | file | lastLink => cases found
  | link _ stands => exact absurd stands (linkless _ _)

/-- **A path that leads to a directory** leads there by its names. -/
theorem walk_of_entryAt? {t : FileTree} (linkless : t.Linkless) {cwd place : Location} {path : String}
    (found : t.entryAt? cwd path = some (place, .directory)) :
    textFault? path = none ∧ t.walk (start cwd path) (route path) = .ok (.found place .directory) := by
  obtain ⟨nameable, resolves⟩ := entryAt?_iff_resolves.mp found
  rw [← named_segments]
  exact ⟨nameable, resolves.walk linkless⟩

end Detype.FileTree
