import Detype.Proofs.Files.PathNames

/-
**Paths behind a directory.**

What lies below a directory has a path that is put together name by name behind that of the directory. Taking the
directory off again leaves these names, whatever pieces that name nothing the path of the directory is spelled with.

* `stem` — the pieces of a base that stand in the paths below it.
* `pieces_foldl_join` — names that are joined to a base one by one stand behind its stem.
* `split_below` — a path below a base starts from what the base starts from.
* `behind_append` — what is left behind some names, but for pieces that name nothing.
* `stripPrefix?_foldl_join` — a path below a directory without that of the directory.
-/

namespace Detype.Path

/-! ### Joining names -/

theorem pieces_injective {cs ds : List Char} (same : pieces cs = pieces ds) : cs = ds := by
  rw [← joinPieces_pieces cs, same, joinPieces_pieces]

/-- The pieces of a base that stand in the paths below it: not the empty one at its end. -/
def stem (base : String) : List (List Char) :=
  if (pieces base.toList).getLast? = some [] then (pieces base.toList).dropLast else pieces base.toList

/-- A base is its stem, or that and an empty piece. -/
theorem stem_cases (base : String) :
    (pieces base.toList = stem base ++ [[]]) ∨ (pieces base.toList = stem base ∧ (stem base).getLast? ≠ some []) := by
  unfold stem
  split
  · next last =>
    obtain ⟨front, shape⟩ := List.getLast?_eq_some_iff.mp last
    rw [shape, List.dropLast_concat]
    exact Or.inl rfl
  · next other => exact Or.inr ⟨rfl, other⟩

theorem filter_stem (base : String) : (stem base).filter (!isTrivial ·) = names base := by
  rw [names]
  rcases stem_cases base with shape | ⟨shape, _⟩
  · rw [shape, List.filter_append]
    simp [isTrivial]
  · rw [shape]

/-- **The pieces of a relative path below a base** stand behind the stem of the base. -/
theorem pieces_join_stem (base : String) {path : String} (relative : isAbsolute path = false) :
    pieces (join base path).toList = stem base ++ pieces path.toList := by
  by_cases empty : base = ""
  · subst empty
    simp [join, relative, stem, pieces]
  · have nonempty : base.isEmpty = false := by simpa using empty
    by_cases ends : base.toList.getLast? = some '/'
    · obtain ⟨cs, spelled⟩ := exists_of_getLast?_slash ends
      have shape : pieces base.toList = pieces cs ++ [[]] := by
        rw [spelled, pieces_append_slash]
        rfl
      have dropped : stem base = pieces cs := by
        rw [stem, shape, List.getLast?_concat, if_pos rfl, List.dropLast_concat]
      rw [dropped]
      simp [join, relative, nonempty, spelled, pieces_append_slash]
    · -- An empty piece at the end follows a slash.
      have full : (pieces base.toList).getLast? ≠ some [] := by
        intro last
        obtain ⟨front, shape⟩ := List.getLast?_eq_some_iff.mp last
        have plain : ∀ p ∈ front, '/' ∉ p := fun p member => not_mem_of_mem_pieces (by rw [shape]; simp [member])
        by_cases first : front = []
        · rw [first, List.nil_append] at shape
          have none : base.toList = [] := pieces_injective shape
          exact empty (String.toList_eq_nil_iff.mp none)
        · have slashed : pieces (joinPieces front ++ ['/']) = front ++ [[]] := by
            rw [pieces_append_slash, pieces_joinPieces first plain]
            rfl
          rw [pieces_injective (shape.trans slashed.symm)] at ends
          simp at ends
      simp [join, relative, nonempty, ends, stem, full, pieces_append_slash]

/-- A name that is joined to a base becomes the last piece of the stem. -/
theorem stem_join (base : String) {p : List Char} (proper : Proper p) :
    stem (join base (String.ofList p)) = stem base ++ [p] := by
  obtain ⟨_, relative⟩ := ending_ofList proper
  have spelled : pieces (join base (String.ofList p)).toList = stem base ++ [p] := by
    rw [pieces_join_stem base relative, String.toList_ofList, pieces_of_not_mem proper.plain]
  have full : p ≠ [] := by
    rintro rfl
    exact absurd proper.named (by decide)
  unfold stem
  rw [spelled, List.getLast?_concat, if_neg (by simpa using full)]
  rfl

/-- **Names that are joined to a base one by one** stand behind its stem. -/
theorem pieces_foldl_join (base : String) {ps : List (List Char)} (some : ps ≠ []) (proper : ∀ p ∈ ps, Proper p) :
    pieces (ps.foldl (fun path p => join path (String.ofList p)) base).toList = stem base ++ ps := by
  induction ps generalizing base with
  | nil => exact absurd rfl some
  | cons p ps ih =>
    have first := proper p List.mem_cons_self
    by_cases more : ps = []
    · subst more
      rw [List.foldl_cons, List.foldl_nil, pieces_join_stem base (ending_ofList first).2, String.toList_ofList,
        pieces_of_not_mem first.plain]
    · rw [List.foldl_cons, ih _ more fun q member => proper q (List.mem_cons_of_mem p member), stem_join base first,
        List.append_assoc]
      rfl

/-! ### What a path starts from -/

/-- What a path starts from, by its first piece. -/
def leadOf (q : List Char) : List Char := if q = [] then ['/'] else if q = ['.'] then ['.'] else []

/-- A path is split after its first piece, if that is a slash or a dot, and before it otherwise. -/
theorem split_eq {path : String} {q : List Char} {qs : List (List Char)} (spelled : pieces path.toList = q :: qs)
    (more : q = [] → qs ≠ []) :
    split path = (leadOf q,
      if q = [] then qs else if q = ['.'] then (if qs = [] then [] else [] :: qs) else q :: qs) := by
  unfold split
  rw [spelled]
  by_cases empty : q = []
  · subst empty
    obtain ⟨p, ps, rfl⟩ := List.exists_cons_of_ne_nil (more rfl)
    rfl
  · by_cases dotted : q = ['.']
    · subst dotted
      cases qs <;> rfl
    · rw [leadOf, if_neg empty, if_neg dotted, if_neg empty, if_neg dotted]
      split
      · next shape => exact absurd (List.cons.inj shape).1 empty
      · next shape => exact absurd (List.cons.inj shape).1 dotted
      · next shape => exact absurd (List.cons.inj shape).1 dotted
      · rfl

theorem split_fst {path : String} {q : List Char} {qs : List (List Char)} (spelled : pieces path.toList = q :: qs)
    (more : q = [] → qs ≠ []) : (split path).1 = leadOf q := by rw [split_eq spelled more]

theorem split_snd {path : String} {q : List Char} {qs : List (List Char)} (spelled : pieces path.toList = q :: qs)
    (more : isTrivial q = true → qs ≠ []) :
    (split path).2 = (if q = [] then [] else if q = ['.'] then [[]] else [q]) ++ qs := by
  rw [split_eq spelled fun empty => more (by rw [empty]; rfl)]
  by_cases empty : q = []
  · rw [if_pos empty, if_pos empty, List.nil_append]
  · by_cases dotted : q = ['.']
    · have full : qs ≠ [] := more (by rw [dotted]; rfl)
      rw [if_neg empty, if_neg empty, if_pos dotted, if_pos dotted, if_neg full, List.singleton_append]
    · rw [if_neg empty, if_neg empty, if_neg dotted, if_neg dotted, List.singleton_append]

/-- **A path below a base starts from what the base starts from.** -/
theorem split_below {base path : String} {p : List Char} {ps : List (List Char)}
    (spelled : pieces path.toList = stem base ++ p :: ps) (named : isTrivial p = false) :
    (split path).1 = (split base).1 ∧
      ∃ body, (split path).2 = body ++ p :: ps ∧ body.filter (!isTrivial ·) = names base := by
  have dropped := filter_stem base
  cases shape : stem base with
  | nil =>
    -- The base is empty.
    rw [shape, List.nil_append] at spelled
    have empty : pieces base.toList = [[]] := by
      rcases stem_cases base with above | ⟨above, _⟩
      · rw [above, shape, List.nil_append]
      · exact absurd (above.trans shape) (pieces_ne_nil _)
    have none : base.toList = [] := pieces_injective empty
    obtain rfl : base = "" := String.toList_eq_nil_iff.mp none
    have full : p ≠ [] ∧ p ≠ ['.'] := by
      refine ⟨?_, ?_⟩ <;> rintro rfl <;> exact absurd named (by decide)
    refine ⟨?_, [], ?_, names_empty.symm⟩
    · rw [split_fst spelled fun none => absurd none full.1, leadOf, if_neg full.1, if_neg full.2]
      decide
    · rw [split_snd spelled (fun blank => absurd blank (by simp [named])), if_neg full.1, if_neg full.2]
      rfl
  | cons q qs =>
    rw [shape] at dropped
    rw [shape, List.cons_append] at spelled
    refine ⟨?_, _, (split_snd spelled fun _ => by simp).trans (List.append_assoc ..).symm, ?_⟩
    · rw [split_fst spelled (by simp)]
      rcases stem_cases base with above | ⟨above, full⟩
      · rw [shape, List.cons_append] at above
        exact (split_fst above (by simp)).symm
      · rw [shape] at above full
        refine (split_fst above ?_).symm
        rintro rfl rfl
        exact full rfl
    · rw [← dropped, List.filter_append]
      by_cases empty : q = []
      · simp [empty, isTrivial]
      · by_cases dot : q = ['.']
        · simp [dot, isTrivial]
        · simp [empty, dot, isTrivial]

/-! ### What is left -/

theorem behind_cons_of_isTrivial {p : List Char} (blank : isTrivial p = true) {ns ps : List (List Char)}
    (some : ns ≠ []) : behind ns (p :: ps) = behind ns ps := by
  cases ns with
  | nil => exact absurd rfl some
  | cons n ns => rw [behind, behind, List.dropWhile_cons_of_pos blank]

/-- **Behind the names of some pieces** comes what follows these, but maybe after pieces that name nothing. -/
theorem behind_append (body ps : List (List Char)) :
    ∃ blanks, (∀ p ∈ blanks, isTrivial p = true) ∧
      behind (body.filter (!isTrivial ·)) (body ++ ps) = some (blanks ++ ps) := by
  induction body with
  | nil => exact ⟨[], by simp, rfl⟩
  | cons q body ih =>
    obtain ⟨blanks, trivial, left⟩ := ih
    cases blank : isTrivial q with
    | true =>
      rw [List.filter_cons_of_neg (by simp [blank])]
      by_cases none : body.filter (!isTrivial ·) = []
      · refine ⟨q :: body, fun p member => ?_, by rw [none]; rfl⟩
        rcases List.mem_cons.mp member with rfl | later
        · exact blank
        · simpa using List.filter_eq_nil_iff.mp none p later
      · exact ⟨blanks, trivial, by rw [List.cons_append, behind_cons_of_isTrivial blank none, left]⟩
    | false =>
      refine ⟨blanks, trivial, ?_⟩
      rw [List.filter_cons_of_pos (by simp [blank]), List.cons_append, behind,
        List.dropWhile_cons_of_neg (by simp [blank])]
      dsimp only
      rw [if_pos rfl, left]

theorem trimEnd_of_proper {ps : List (List Char)} (proper : ∀ p ∈ ps, Proper p) : trimEnd ps = ps := by
  have kept : ∀ qs : List (List Char), (∀ q ∈ qs, Proper q) → qs.dropWhile isTrivial = qs := by
    intro qs proper
    cases qs with
    | nil => rfl
    | cons q qs => exact List.dropWhile_cons_of_neg (by simp [(proper q List.mem_cons_self).named])
  rw [trimEnd, kept _ fun p member => proper p (List.mem_reverse.mp member), List.reverse_reverse]

/-- **A path below a directory without that of the directory** is made of the names that lead to it from there. -/
theorem stripPrefix?_foldl_join (base : String) {ps : List (List Char)} (some : ps ≠ [])
    (proper : ∀ p ∈ ps, Proper p) :
    stripPrefix? base (ps.foldl (fun path p => join path (String.ofList p)) base) =
      Option.some (String.ofList (joinPieces ps)) := by
  obtain ⟨p, rest, rfl⟩ := List.exists_cons_of_ne_nil some
  have named := (proper p List.mem_cons_self).named
  obtain ⟨lead, body, shape, dropped⟩ := split_below (pieces_foldl_join base some proper) named
  have baseNames : (components base).2 = names base := (split_spec base).2.1
  have baseLead : (components base).1 = (split base).1 := rfl
  obtain ⟨blanks, trivial, left⟩ := behind_append body (p :: rest)
  have skipped : (blanks ++ p :: rest).dropWhile isTrivial = p :: rest := by
    rw [List.dropWhile_append_of_pos trivial, List.dropWhile_cons_of_neg (by simp [named])]
  simp only [stripPrefix?]
  rw [baseLead, baseNames, lead, if_pos rfl, shape, ← dropped, left, Option.map_some, skipped,
    trimEnd_of_proper proper]

end Detype.Path
