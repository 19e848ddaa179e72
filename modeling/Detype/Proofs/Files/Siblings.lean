import Detype.Proofs.Files.Errand
import Detype.Proofs.Files.Prefix

/-
**Files beside each other.**

The path above a path starts from what that path starts from. So a name that is joined to it is, but for the spelling,
the path with its last name replaced.

* `split_of_lead` — a text that starts as a path does starts from the same.
* `components_sibling` — another name in the directory of a path.
* `components_mapPath` — the path of a source map is that of the code with a longer last name.
-/

namespace Detype

namespace Path

/-! ### The path above -/

/-- A path that starts from nothing is all pieces. -/
theorem split_snd_of_relative {path : String} (lead : (split path).1 = []) : (split path).2 = pieces path.toList := by
  unfold split at lead ⊢
  split
  · next shape =>
    rw [shape] at lead
    cases lead
  · next shape =>
    rw [shape] at lead
    cases lead
  · next rest more shape =>
    rw [shape] at lead
    cases rest with
    | nil => exact absurd rfl more
    | cons p ps => cases lead
  · rfl

/-- **A text that starts as a path does**, and goes on with some of its pieces, starts from the same. -/
theorem split_of_lead {path : String} {rs : List (List Char)} (start : rs <+: (split path).2)
    (trimmed : rs = [] ∨ ∃ front last, rs = front ++ [last] ∧ isTrivial last = false) :
    (split (String.ofList ((split path).1 ++ joinPieces rs))).1 = (split path).1 := by
  obtain ⟨bodyPlain, lead⟩ := split_cases path
  have plain : ∀ p ∈ rs, '/' ∉ p := fun p member => bodyPlain p (start.subset member)
  rcases trimmed with rfl | ⟨front, last, ended, named⟩
  · rcases lead with lead | lead | ⟨lead, _⟩ <;> rw [lead] <;> decide
  have some : rs ≠ [] := by simp [ended]
  obtain ⟨q, qs, rfl⟩ := List.exists_cons_of_ne_nil some
  -- An empty first piece is not the last one.
  have more : q = [] → qs ≠ [] := by
    rintro rfl rfl
    obtain ⟨_, same⟩ := List.append_inj' (show [] ++ [[]] = front ++ [last] from ended) rfl
    rw [← List.singleton_inj.mp same] at named
    cases named
  obtain ⟨rest, spelled⟩ := start
  rcases lead with lead | lead | ⟨lead, body | ⟨ps, body⟩⟩
  · rw [lead]
    exact (split_spec _).2.2.mpr (by simp [isAbsolute])
  · rw [split_snd_of_relative lead] at spelled
    have whole : pieces (String.ofList ([] ++ joinPieces (q :: qs))).toList = q :: qs := by
      rw [List.nil_append, String.toList_ofList, pieces_joinPieces some plain]
    rw [lead, split_fst whole more, ← lead, split_fst spelled.symm fun empty => by simp [more empty]]
  · rw [body] at spelled
    cases spelled
  · rw [body] at spelled
    obtain rfl : q = [] := (List.cons.inj spelled).1
    have whole : pieces (String.ofList (['.'] ++ joinPieces ([] :: qs))).toList = ['.'] :: qs := by
      rw [joinPieces_cons _ (more rfl), List.nil_append, String.toList_ofList, pieces_append_slash,
        pieces_joinPieces (more rfl) fun p member => plain p (List.mem_cons_of_mem _ member)]
      rfl
    rw [lead, split_fst whole (by simp)]
    rfl

/-- The path above a path with a name starts from the same. -/
theorem split_parent? {path parent : String} (above : parent? path = some parent) (named : names path ≠ []) :
    (split parent).1 = (split path).1 := by
  rcases trimEnd_eq_nil_or (split path).2 with none | ⟨front, last, shape, lastNamed⟩
  · refine absurd ?_ named
    rw [← (split_spec path).2.1, ← filter_trimEnd, none]
    rfl
  · rw [parent?_text above shape]
    refine split_of_lead ?_ (trimEnd_eq_nil_or front)
    exact ((trimEnd_isPrefix front).trans (List.prefix_append front [last])).trans (shape ▸ trimEnd_isPrefix _)

/-! ### Other names in a directory -/

theorem components_eq (path : String) : components path = ((split path).1, names path) :=
  Prod.ext rfl (split_spec path).2.1

/-- **A name that is joined to the path above a path** is that path with its last name replaced. -/
theorem components_sibling {path parent : String} {front : List (List Char)} {last name : List Char}
    (ending : Ending path front last) (above : parent? path = some parent) (proper : Proper name) :
    components (join parent (String.ofList name)) = ((split path).1, front ++ [name]) := by
  obtain ⟨nameEnding, relative⟩ := ending_ofList proper
  have spelled : pieces (join parent (String.ofList name)).toList = stem parent ++ [name] := by
    rw [pieces_join_stem parent relative, String.toList_ofList, pieces_of_not_mem proper.plain]
  have named : names path ≠ [] := by simp [ending.names_eq]
  rw [components_eq, (split_below spelled proper.named).1, split_parent? above named, names_join parent relative,
    (parent?_eq_some above).1, ending.names_eq, nameEnding.names_eq, List.dropLast_concat]
  rfl

/-- A path with a longer last name starts from the same. -/
theorem Ending.split_append {path : String} {front : List (List Char)} {last : List Char}
    (ending : Ending path front last) {more : String} (plain : '/' ∉ more.toList)
    (named : isTrivial (last ++ more.toList) = false) : (split (path ++ more)).1 = (split path).1 := by
  obtain ⟨ps, spelled, _⟩ := ending.spelled
  have longer := pieces_append spelled plain
  cases ps with
  | nil =>
    have fromNothing : ∀ q, isTrivial q = false → leadOf q = [] := by
      intro q named
      rw [isTrivial, Bool.or_eq_false_iff, List.isEmpty_eq_false_iff, beq_eq_false_iff_ne] at named
      rw [leadOf, if_neg named.1, if_neg named.2]
    have full : ∀ q, isTrivial q = false → q ≠ [] := by
      rintro _ named rfl
      cases named
    rw [split_fst longer fun empty => absurd empty (full _ named),
      split_fst spelled fun empty => absurd empty (full _ ending.named), fromNothing _ named,
      fromNothing _ ending.named]
  | cons q qs =>
    rw [List.cons_append] at longer spelled
    rw [split_fst longer (by simp), split_fst spelled (by simp)]

end Path

/-- The components of the path of a source map. -/
theorem components_mapPath {destination : String} {front : List (List Char)} {last : List Char}
    (ending : Path.Ending destination front last) :
    Path.components (mapPath destination) = ((Path.split destination).1, front ++ [last ++ ".map".toList]) := by
  obtain ⟨mapEnding, _⟩ := ending_mapPath ending
  have lead : (Path.split (mapPath destination)).1 = (Path.split destination).1 :=
    ending.split_append (by decide) mapEnding.named
  rw [Path.components_eq, lead, mapEnding.names_eq]

/-- **A source map stands beside its code**: its last name, joined to the path above the code, is its path. -/
theorem components_join_mapName {destination parent : String} {front : List (List Char)} {last : List Char}
    (ending : Path.Ending destination front last) (above : Path.parent? destination = some parent)
    (proper : Path.Proper (last ++ ".map".toList)) :
    Path.components (Path.join parent (String.ofList (last ++ ".map".toList))) =
      Path.components (mapPath destination) := by
  rw [components_mapPath ending, Path.components_sibling ending above proper]

end Detype
