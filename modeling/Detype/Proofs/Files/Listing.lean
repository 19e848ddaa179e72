import Detype.Proofs.Files.Sound

/-
**What a listing depends on.**

The names in a directory and the files below it come from a list of entries, but only what stands at each place
matters, and how far a search goes does not, as long as it goes deep enough.

* `mem_children`, `children_eq_filter` — the names in a directory are those of its entries, in one order.
* `filesWithin_succ` — a search that is deep enough finds nothing more when it goes deeper.
* `Onto` — a tree whose files and directories another tree still has.
* `filter_filesBelow` — such a tree lists the files that were there before, in the same order.
* `mem_filesBelow_iff` — a listing has every file, links not followed.
* `pairwise_filesBelow` — it is in the order of the names, compared one by one.
* `filesBelow_of_entries` — so it can be read off the entries of a tree.
-/

namespace Detype

theorem nodup_eraseDups {α : Type} [BEq α] [LawfulBEq α] (l : List α) : l.eraseDups.Nodup := by
  match l with
  | [] => exact List.nodup_nil
  | a :: as =>
    rw [List.eraseDups_cons, List.nodup_cons, List.mem_eraseDups]
    exact ⟨by simp, nodup_eraseDups _⟩
termination_by l.length
decreasing_by exact Nat.lt_succ_of_le (List.length_filter_le _ _)

namespace FileTree

/-! ### The names in a directory -/

theorem nameIn?_eq_some {d p : Location} {n : FileName} : nameIn? d p = some n ↔ p = d ++ [n] := by
  unfold nameIn?
  refine ⟨fun named => ?_, ?_⟩
  · split at named
    · next above =>
      obtain ⟨front, split⟩ := List.getLast?_eq_some_iff.mp named
      rw [split, List.dropLast_concat] at above
      rw [split, above]
    · cases named
  · rintro rfl
    simp

theorem get?_isSome {t : FileTree} {p : Location} (below : p ≠ []) :
    (t.get? p).isSome = true ↔ ∃ e, (p, e) ∈ t.entries := by
  cases p with
  | nil => exact absurd rfl below
  | cons n ns =>
    show (t.entries.lookup (n :: ns)).isSome = true ↔ _
    rw [List.lookup_isSome_iff]
    refine ⟨fun ⟨⟨q, e⟩, member, same⟩ => ⟨e, ?_⟩, fun ⟨e, member⟩ => ⟨_, member, beq_self_eq_true _⟩⟩
    rwa [eq_of_beq same]

/-- **The names in a directory** are those at which something stands. -/
theorem mem_children {t : FileTree} {d : Location} {n : FileName} :
    n ∈ t.children d ↔ (t.get? (d ++ [n])).isSome = true := by
  rw [get?_isSome (by simp), children, List.mem_mergeSort, List.mem_eraseDups, List.mem_filterMap]
  simp only [nameIn?_eq_some]
  refine ⟨fun ⟨⟨p, e⟩, member, same⟩ => ⟨e, same ▸ member⟩, fun ⟨e, member⟩ => ⟨_, member, rfl⟩⟩

theorem pairwise_children (t : FileTree) (d : Location) : (t.children d).Pairwise (· ≤ ·) := by
  refine (List.pairwise_mergeSort ?trans ?total _).imp of_decide_eq_true
  case trans =>
    intro a b c first second
    exact decide_eq_true (List.le_trans (of_decide_eq_true first) (of_decide_eq_true second))
  case total =>
    intro a b
    simpa using List.le_total a b

theorem nodup_children (t : FileTree) (d : Location) : (t.children d).Nodup :=
  (List.mergeSort_perm _ _).nodup_iff.mpr (nodup_eraseDups _)

/-- **A directory that has more names has the others in the same order.** -/
theorem children_eq_filter {t t' : FileTree} {d : Location}
    (kept : ∀ n, (t.get? (d ++ [n])).isSome = true → (t'.get? (d ++ [n])).isSome = true) :
    t.children d = (t'.children d).filter fun n => (t.get? (d ++ [n])).isSome := by
  refine List.Perm.eq_of_pairwise (fun a b _ _ => List.le_antisymm) (pairwise_children t d)
    ((pairwise_children t' d).filter _) ?_
  rw [List.perm_ext_iff_of_nodup (nodup_children t d) ((nodup_children t' d).filter _)]
  intro n
  rw [List.mem_filter, mem_children, mem_children]
  exact ⟨fun stands => ⟨kept n stands, stands⟩, And.right⟩

/-! ### How deep a search goes -/

/-- What a name in a directory contributes to a search. -/
def filesAt (t : FileTree) (fuel : Nat) (d : Location) (n : FileName) : List Location :=
  match t.get? (d ++ [n]) with
  | some (.file _) => [[n]]
  | some .directory => (t.filesWithin fuel (d ++ [n])).map (n :: ·)
  | _ => []

theorem filesWithin_eq_flatMap (t : FileTree) (fuel : Nat) (d : Location) :
    t.filesWithin (fuel + 1) d = (t.children d).flatMap (t.filesAt fuel d) := rfl

theorem le_foldl_max {ls : List Nat} (start : Nat) : start ≤ ls.foldl max start ∧ ∀ n ∈ ls, n ≤ ls.foldl max start := by
  induction ls generalizing start with
  | nil => simp
  | cons l ls ih =>
    obtain ⟨first, others⟩ := ih (max start l)
    refine ⟨Nat.le_trans (Nat.le_max_left ..) first, fun n member => ?_⟩
    rcases List.mem_cons.mp member with rfl | later
    · exact Nat.le_trans (Nat.le_max_right ..) first
    · exact others n later

theorem length_le_depth {t : FileTree} {p : Location} {e : Entry} (member : (p, e) ∈ t.entries) :
    p.length ≤ t.depth :=
  (le_foldl_max 0).2 _ (List.mem_map.mpr ⟨_, member, rfl⟩)

/-- **A search that is deep enough finds nothing more when it goes deeper.** -/
theorem filesWithin_succ {t : FileTree} {fuel : Nat} {d : Location} (deep : t.depth < fuel + d.length) :
    t.filesWithin (fuel + 1) d = t.filesWithin fuel d := by
  induction fuel generalizing d with
  | zero =>
    have empty : t.children d = [] := by
      rw [List.eq_nil_iff_forall_not_mem]
      intro n member
      obtain ⟨e, listed⟩ := (get?_isSome (by simp)).mp (mem_children.mp member)
      have short := length_le_depth listed
      rw [List.length_append, List.length_singleton] at short
      omega
    rw [filesWithin_eq_flatMap, empty]
    rfl
  | succ fuel ih =>
    have deeper : ∀ n : FileName, t.filesWithin (fuel + 1) (d ++ [n]) = t.filesWithin fuel (d ++ [n]) := by
      intro n
      refine ih ?_
      rw [List.length_append, List.length_singleton]
      omega
    rw [filesWithin_eq_flatMap, filesWithin_eq_flatMap]
    unfold filesAt
    simp only [deeper]

theorem filesWithin_eq {t : FileTree} {fuel : Nat} (d : Location) (deep : t.depth < fuel) :
    t.filesWithin fuel d = t.filesBelow d := by
  obtain ⟨more, rfl⟩ := Nat.exists_eq_add_of_lt deep
  induction more with
  | zero => rfl
  | succ more ih =>
    rw [← Nat.add_assoc, filesWithin_succ (by omega)]
    exact ih (by omega)

/-! ### Files that were there before -/

/-- Whether a file stands at a place. -/
def isFileAt (t : FileTree) (p : Location) : Bool :=
  match t.get? p with
  | some (.file _) => true
  | _ => false

/-- A tree that has the files and the directories of another, and maybe more. -/
structure Onto (t t' : FileTree) : Prop where
  directories : ∀ p, t.get? p = some .directory → t'.get? p = some .directory
  files : ∀ p, t.isFileAt p = true → t'.isFileAt p = true

theorem isFileAt_eq_true {t : FileTree} {p : Location} :
    t.isFileAt p = true ↔ ∃ content, t.get? p = some (.file content) := by
  unfold isFileAt
  split <;> simp_all

theorem Onto.stands {t t' : FileTree} (onto : t.Onto t') (linkless : t.Linkless) {p : Location}
    (stands : (t.get? p).isSome = true) : (t'.get? p).isSome = true := by
  obtain ⟨entry, here⟩ := Option.isSome_iff_exists.mp stands
  cases entry with
  | file content =>
    obtain ⟨_, there⟩ := isFileAt_eq_true.mp (onto.files p (isFileAt_eq_true.mpr ⟨content, here⟩))
    rw [there]
    rfl
  | directory =>
    rw [onto.directories p here]
    rfl
  | link target => exact absurd here (linkless _ _)

theorem flatMap_filter_of_nil {α β : Type} {f : α → List β} {p : α → Bool} {l : List α}
    (empty : ∀ a ∈ l, p a = false → f a = []) : (l.filter p).flatMap f = l.flatMap f := by
  induction l with
  | nil => rfl
  | cons a l ih =>
    have rest := ih fun b member => empty b (List.mem_cons_of_mem a member)
    cases kept : p a with
    | true => rw [List.filter_cons_of_pos kept, List.flatMap_cons, List.flatMap_cons, rest]
    | false =>
      rw [List.filter_cons_of_neg (by simp [kept]), List.flatMap_cons, empty a List.mem_cons_self kept, rest]
      rfl

/-- A file at a place and what stands above it. -/
theorem Sound.above_file {t : FileTree} (sound : t.Sound) {d rest : Location} {n : FileName}
    (file : t.isFileAt (d ++ n :: rest) = true) : (t.get? (d ++ [n])).isSome = true := by
  obtain ⟨content, stands⟩ := isFileAt_eq_true.mp file
  by_cases ended : rest = []
  · rw [ended] at stands
    rw [stands]
    rfl
  · rw [List.append_cons] at stands
    rw [sound.above stands ended]
    rfl

theorem cons_of_mem_filesAt {t : FileTree} {fuel : Nat} {d names : Location} {n : FileName}
    (member : names ∈ t.filesAt fuel d n) : ∃ rest, names = n :: rest := by
  unfold filesAt at member
  split at member
  · exact ⟨[], List.mem_singleton.mp member⟩
  · obtain ⟨rest, _, rfl⟩ := List.mem_map.mp member
    exact ⟨rest, rfl⟩
  · cases member

/-- **A search in the later tree finds the files of the earlier one in their order**, and new ones between them. -/
theorem filter_filesWithin {t t' : FileTree} (sound : t.Sound) (linkless : t.Linkless) (onto : t.Onto t') (fuel : Nat)
    (d : Location) :
    (t'.filesWithin fuel d).filter (fun names => t.isFileAt (d ++ names)) = t.filesWithin fuel d := by
  induction fuel generalizing d with
  | zero => rfl
  | succ fuel ih =>
    have each : ∀ n, (t'.filesAt fuel d n).filter (fun names => t.isFileAt (d ++ names)) = t.filesAt fuel d n := by
      intro n
      cases stands : t.get? (d ++ [n]) with
      | none =>
        have nothing : t.filesAt fuel d n = [] := by rw [filesAt, stands]
        rw [nothing, List.filter_eq_nil_iff]
        rintro names member file
        obtain ⟨rest, rfl⟩ := cons_of_mem_filesAt member
        have above := sound.above_file file
        rw [stands] at above
        cases above
      | some entry =>
        cases entry with
        | file content =>
          have file : t.isFileAt (d ++ [n]) = true := isFileAt_eq_true.mpr ⟨content, stands⟩
          obtain ⟨content', stands'⟩ := isFileAt_eq_true.mp (onto.files _ file)
          simp only [filesAt, stands, stands', List.filter_cons, file, if_true, List.filter_nil]
        | directory =>
          simp only [filesAt, stands, onto.directories _ stands, List.filter_map]
          rw [← ih (d ++ [n])]
          congr 2
          funext names
          rw [Function.comp_apply, List.append_cons]
        | link target => exact absurd stands (linkless _ _)
    rw [filesWithin_eq_flatMap, filesWithin_eq_flatMap, List.filter_flatMap,
      children_eq_filter fun n stands => onto.stands linkless stands, flatMap_filter_of_nil]
    · simp only [each]
    · intro n _ free
      rw [filesAt, Option.isNone_iff_eq_none.mp (Option.isSome_eq_false_iff.mp free)]

/-- **The later tree lists the files of the earlier one** in their order, and new ones between them. -/
theorem filter_filesBelow {t t' : FileTree} (sound : t.Sound) (linkless : t.Linkless) (onto : t.Onto t')
    (d : Location) :
    (t'.filesBelow d).filter (fun names => t.isFileAt (d ++ names)) = t.filesBelow d := by
  have deep : t.depth < max t.depth t'.depth + 1 := by omega
  have deep' : t'.depth < max t.depth t'.depth + 1 := by omega
  rw [← filesWithin_eq d deep, ← filesWithin_eq d deep']
  exact filter_filesWithin sound linkless onto _ d

/-! ### What is listed, and in which order -/

/-- **A search finds every file** that is not too deep. -/
theorem mem_filesWithin_of_file {t : FileTree} (sound : t.Sound) {fuel : Nat} {d names : Location} {content : ByteArray}
    (below : names ≠ []) (deep : names.length ≤ fuel) (stands : t.get? (d ++ names) = some (.file content)) :
    names ∈ t.filesWithin fuel d := by
  induction fuel generalizing d names with
  | zero => exact absurd (List.length_eq_zero_iff.mp (Nat.le_zero.mp deep)) below
  | succ fuel ih =>
    obtain ⟨n, rest, rfl⟩ := List.exists_cons_of_ne_nil below
    rw [filesWithin_eq_flatMap, List.mem_flatMap]
    refine ⟨n, mem_children.mpr (sound.above_file (isFileAt_eq_true.mpr ⟨content, stands⟩)), ?_⟩
    rw [List.append_cons] at stands
    by_cases ended : rest = []
    · rw [ended, List.append_nil] at stands
      rw [ended, filesAt, stands]
      exact List.mem_singleton_self _
    · rw [filesAt, sound.above stands ended]
      exact List.mem_map_of_mem (ih ended (Nat.le_of_succ_le_succ deep) stands)

/-- **The files below a directory** are those of the tree, links not followed. -/
theorem mem_filesBelow_iff {t : FileTree} (sound : t.Sound) {d names : Location} :
    names ∈ t.filesBelow d ↔ names ≠ [] ∧ ∃ content, t.get? (d ++ names) = some (.file content) := by
  refine ⟨mem_filesBelow, fun ⟨below, content, stands⟩ => mem_filesWithin_of_file sound below ?_ stands⟩
  rcases mem_entries_of_get? stands with root | member
  · exact absurd (List.append_eq_nil_iff.mp root).2 below
  · have short := length_le_depth member
    rw [List.length_append] at short
    omega

theorem pairwise_lt_children (t : FileTree) (d : Location) : (t.children d).Pairwise (· < ·) :=
  ((pairwise_children t d).and (nodup_children t d)).imp fun ⟨before, differ⟩ => Std.lt_of_le_of_ne before differ

/-- **A search finds files in the order of their names**, compared one by one: what a directory holds comes where the
name of the directory stands among its neighbours. -/
theorem pairwise_filesWithin (t : FileTree) (fuel : Nat) (d : Location) :
    (t.filesWithin fuel d).Pairwise (· < ·) := by
  induction fuel generalizing d with
  | zero => exact List.Pairwise.nil
  | succ fuel ih =>
    rw [filesWithin_eq_flatMap, List.pairwise_flatMap]
    refine ⟨fun n _ => ?_, (pairwise_lt_children t d).imp fun {n m} before => ?_⟩
    · unfold filesAt
      split
      · exact List.pairwise_singleton ..
      · rw [List.pairwise_map]
        exact (ih (d ++ [n])).imp fun less => List.cons_lt_cons_iff.mpr (Or.inr ⟨rfl, less⟩)
      · exact List.Pairwise.nil
    · intro x first y second
      obtain ⟨_, rfl⟩ := cons_of_mem_filesAt first
      obtain ⟨_, rfl⟩ := cons_of_mem_filesAt second
      exact List.cons_lt_cons_iff.mpr (Or.inl before)

theorem pairwise_filesBelow (t : FileTree) (d : Location) : (t.filesBelow d).Pairwise (· < ·) :=
  pairwise_filesWithin t _ d

/-- **The files below a directory, read off the entries of a tree.** -/
theorem filesBelow_of_entries {t : FileTree} (sound : t.Sound) {d : Location} {listed : List Location}
    (sorted : listed.Pairwise (· < ·)) (files : ∀ names ∈ listed, names ≠ [] ∧ t.isFileAt (d ++ names) = true)
    (all : ∀ x ∈ t.entries, d <+: x.1 → t.isFileAt x.1 = true → x.1.drop d.length ∈ listed) :
    t.filesBelow d = listed := by
  have differ : ∀ a b : Location, a < b → a ≠ b := fun a b less same => List.lt_irrefl a (same ▸ less)
  refine List.Perm.eq_of_pairwise (fun a b _ _ less more => absurd (List.lt_trans less more) (List.lt_irrefl a))
    (pairwise_filesBelow t d) sorted ?_
  rw [List.perm_ext_iff_of_nodup ((pairwise_filesBelow t d).imp (differ _ _)) (sorted.imp (differ _ _))]
  intro names
  rw [mem_filesBelow_iff sound, ← isFileAt_eq_true]
  refine ⟨fun ⟨below, file⟩ => ?_, files names⟩
  obtain ⟨content, stands⟩ := isFileAt_eq_true.mp file
  rcases mem_entries_of_get? stands with root | member
  · exact absurd (List.append_eq_nil_iff.mp root).2 below
  · have inside := all _ member (List.prefix_append d names) file
    rwa [List.drop_left] at inside

end FileTree

end Detype
