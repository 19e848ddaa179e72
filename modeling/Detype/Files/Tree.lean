/-
**File trees.**

A file tree tells what stands at each location. A location is the list of names that leads to it from the root;
names are byte strings. The root is always a directory.

* `FileTree.get?` — what stands at a location.
* `FileTree.set`, `FileTree.remove` — the tree after a change.
* `FileTree.children` — the names in a directory, in byte order.
* `FileTree.filesBelow` — the regular files under a directory. Each directory is visited at its location
  in the order of names, and links are not followed.
-/

namespace Detype

/-- A name in a directory, as bytes. -/
abbrev FileName := List UInt8

/-- The names that lead from the root to a location. -/
abbrev Location := List FileName

-- Contents are compared by the comparison of byte arrays that comes with them.
attribute [local instance (high)] ByteArray.instDecidableEq

/-- What stands at a location. -/
inductive Entry where
  | file (content : ByteArray)
  | directory
  | link (target : String)
deriving DecidableEq, Inhabited

/-- What stands at each location. -/
structure FileTree where
  entries : List (Location × Entry) := []
deriving Inhabited

namespace FileTree

/-- What stands at a location. -/
def get? (t : FileTree) : Location → Option Entry
  | [] => some .directory
  | p => t.entries.lookup p

/-- The tree with an entry at a location. -/
def set (t : FileTree) (p : Location) (e : Entry) : FileTree := ⟨(p, e) :: t.entries.filter (·.1 != p)⟩

/-- The tree without a location and all that is below it. -/
def remove (t : FileTree) (p : Location) : FileTree := ⟨t.entries.filter fun (q, _) => !p.isPrefixOf q⟩

/-- The tree with directories at all locations above one. -/
def clearWay (t : FileTree) : (above : Location) → Location → FileTree
  | _, [] | _, [_] => t
  | above, n :: ns =>
    let here := above ++ [n]
    let t := match t.get? here with
      | some .directory => t
      | _ => t.set here .directory
    t.clearWay here ns

/-- The tree with an entry at a location, and directories above it. -/
def put (t : FileTree) (p : Location) (e : Entry) : FileTree := (t.clearWay [] p).set p e

/-- The length of the longest location. -/
def depth (t : FileTree) : Nat := (t.entries.map (·.1.length)).foldl max 0

/-- The name of a location, if the location is directly in a directory. -/
def nameIn? (d p : Location) : Option FileName := if p.dropLast = d then p.getLast? else none

/-- The names in a directory, in byte order. -/
def children (t : FileTree) (d : Location) : List FileName :=
  (t.entries.filterMap fun (p, _) => nameIn? d p).eraseDups.mergeSort fun a b => decide (a ≤ b)

/-- The regular files at most `fuel` names below a directory, as the names that lead to them from it. -/
def filesWithin (t : FileTree) : (fuel : Nat) → Location → List Location
  | 0, _ => []
  | fuel + 1, d => (t.children d).flatMap fun n =>
    match t.get? (d ++ [n]) with
    | some (.file _) => [[n]]
    | some .directory => (t.filesWithin fuel (d ++ [n])).map (n :: ·)
    | _ => []

/-- The regular files below a directory, as the names that lead to them from it. -/
def filesBelow (t : FileTree) (d : Location) : List Location := t.filesWithin (t.depth + 1) d

/-- The regular files below a directory that differ from those of an earlier tree. -/
def changedFiles (before after : FileTree) (d : Location) : List (Location × ByteArray) :=
  (after.filesBelow d).filterMap fun p =>
    match after.get? (d ++ p) with
    | some (.file content) =>
      if before.get? (d ++ p) = some (.file content) then none else some (p, content)
    | _ => none

theorem get?_set_self (t : FileTree) {p : Location} (below : p ≠ []) (e : Entry) :
    (t.set p e).get? p = some e := by
  cases p with
  | nil => exact absurd rfl below
  | cons n ns => simp [get?, set]

theorem lookup_filter_ne {p q : Location} (differ : q ≠ p) (es : List (Location × Entry)) :
    (es.filter (·.1 != p)).lookup q = es.lookup q := by
  induction es with
  | nil => rfl
  | cons a es ih =>
    obtain ⟨k, e⟩ := a
    by_cases same : k = p
    · have : (q == p) = false := by simpa using differ
      simp [List.filter, same, List.lookup_cons, this, ih]
    · have : (k != p) = true := by simpa using same
      simp only [List.filter, this]
      by_cases found : q = k
      · simp [found]
      · have : (q == k) = false := by simpa using found
        simp [List.lookup_cons, this, ih]

theorem get?_set_ne (t : FileTree) {p q : Location} (differ : q ≠ p) (e : Entry) :
    (t.set p e).get? q = t.get? q := by
  cases q with
  | nil => rfl
  | cons n ns =>
    have : ((n :: ns) == p) = false := by simpa using differ
    simp [get?, set, List.lookup_cons, this, lookup_filter_ne differ]

end FileTree

end Detype
