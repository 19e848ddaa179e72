import Detype.Path

/-
**The names of a path.**

Nothing that follows a path depends on empty pieces and on `.`; what is left are its names.

* `Path.names` — the pieces of a path that name something.
* `Path.Tight` — a path whose last piece names something, if any piece does.
* `names_join` — a relative path below a base adds its names to those of the base.
* `parent?_eq_some` — the parent of a path is a beginning of its text, is tight, and has all its names but
  the last.
* `fileName?_eq` — the file name of a path is the last of its names.
-/

namespace Detype.Path

/-! ### Pieces -/

theorem pieces_ne_nil (cs : List Char) : pieces cs ≠ [] := by
  cases cs with
  | nil => simp [pieces]
  | cons c cs =>
    simp only [pieces]
    split
    · simp
    · split <;> simp

theorem pieces_slash (cs : List Char) : pieces ('/' :: cs) = [] :: pieces cs := by simp [pieces]

/-- A character that is no slash belongs to the first piece. -/
theorem pieces_cons {c : Char} (plain : c ≠ '/') (cs : List Char) :
    ∃ p ps, pieces cs = p :: ps ∧ pieces (c :: cs) = (c :: p) :: ps := by
  obtain ⟨p, ps, shape⟩ := List.exists_cons_of_ne_nil (pieces_ne_nil cs)
  exact ⟨p, ps, shape, by simp [pieces, plain, shape]⟩

/-- **A slash separates the pieces before it from those after it.** -/
theorem pieces_append_slash (cs ds : List Char) : pieces (cs ++ '/' :: ds) = pieces cs ++ pieces ds := by
  induction cs with
  | nil => simp [pieces]
  | cons c cs ih =>
    by_cases slash : c = '/'
    · subst slash
      rw [List.cons_append, pieces_slash, pieces_slash, ih, List.cons_append]
    · obtain ⟨p, ps, first, joined⟩ := pieces_cons slash cs
      rw [List.cons_append, joined, pieces, if_neg slash, ih, first]
      rfl

theorem pieces_of_not_mem {cs : List Char} (plain : '/' ∉ cs) : pieces cs = [cs] := by
  induction cs with
  | nil => rfl
  | cons c cs ih =>
    rw [List.mem_cons, not_or] at plain
    simp [pieces, Ne.symm plain.1, ih plain.2]

theorem not_mem_of_mem_pieces {cs p : List Char} (member : p ∈ pieces cs) : '/' ∉ p := by
  induction cs generalizing p with
  | nil => simp_all [pieces]
  | cons c cs ih =>
    by_cases slash : c = '/'
    · subst slash
      rw [pieces_slash] at member
      rcases List.mem_cons.mp member with rfl | later
      · simp
      · exact ih later
    · obtain ⟨q, qs, first, joined⟩ := pieces_cons slash cs
      rw [joined] at member
      rcases List.mem_cons.mp member with rfl | later
      · rw [List.mem_cons, not_or]
        exact ⟨Ne.symm slash, ih (by rw [first]; exact List.mem_cons_self)⟩
      · exact ih (by rw [first]; exact List.mem_cons_of_mem _ later)

theorem joinPieces_cons (p : List Char) {ps : List (List Char)} (more : ps ≠ []) :
    joinPieces (p :: ps) = p ++ '/' :: joinPieces ps := by
  cases ps with
  | nil => exact absurd rfl more
  | cons q qs => rfl

theorem joinPieces_pieces (cs : List Char) : joinPieces (pieces cs) = cs := by
  induction cs with
  | nil => rfl
  | cons c cs ih =>
    by_cases slash : c = '/'
    · subst slash
      rw [pieces_slash, joinPieces_cons _ (pieces_ne_nil cs), ih]
      rfl
    · obtain ⟨p, ps, first, joined⟩ := pieces_cons slash cs
      rw [joined]
      rw [first] at ih
      cases ps with
      | nil =>
        have whole : p = cs := ih
        rw [whole]
        rfl
      | cons q qs =>
        have whole : p ++ '/' :: joinPieces (q :: qs) = cs := ih
        rw [← whole]
        rfl

theorem pieces_joinPieces {ps : List (List Char)} (some : ps ≠ []) (plain : ∀ p ∈ ps, '/' ∉ p) :
    pieces (joinPieces ps) = ps := by
  induction ps with
  | nil => exact absurd rfl some
  | cons p ps ih =>
    have here := pieces_of_not_mem (plain p List.mem_cons_self)
    by_cases more : ps = []
    · subst more
      exact here
    · rw [joinPieces_cons p more, pieces_append_slash, here,
        ih more fun q member => plain q (List.mem_cons_of_mem _ member)]
      rfl

/-- Pieces without some of those at the end spell a beginning of the text. -/
theorem joinPieces_isPrefix {ps qs : List (List Char)} (start : ps <+: qs) :
    joinPieces ps <+: joinPieces qs := by
  induction ps generalizing qs with
  | nil => exact List.nil_prefix
  | cons p ps ih =>
    obtain ⟨rest, rfl⟩ := start
    by_cases more : ps = []
    · subst more
      by_cases last : rest = []
      · subst last
        exact List.prefix_refl _
      · exact ⟨'/' :: joinPieces rest, (joinPieces_cons p last).symm⟩
    · have longer : ps ++ rest ≠ [] := by simp [more]
      obtain ⟨tail, spelled⟩ := ih (List.prefix_append ps rest)
      refine ⟨tail, ?_⟩
      rw [List.cons_append, joinPieces_cons p more, joinPieces_cons p longer, ← spelled]
      simp

theorem joinPieces_concat_append (ps : List (List Char)) (last more : List Char) :
    joinPieces (ps ++ [last]) ++ more = joinPieces (ps ++ [last ++ more]) := by
  induction ps with
  | nil => rfl
  | cons p ps ih =>
    rw [List.cons_append, List.cons_append, joinPieces_cons _ (by simp), joinPieces_cons _ (by simp), ← ih]
    simp

theorem joinPieces_concat {ps : List (List Char)} (some : ps ≠ []) (last : List Char) :
    joinPieces (ps ++ [last]) = joinPieces ps ++ '/' :: last := by
  induction ps with
  | nil => exact absurd rfl some
  | cons p ps ih =>
    by_cases more : ps = []
    · subst more
      rfl
    · rw [List.cons_append, joinPieces_cons _ (by simp), ih more, joinPieces_cons p more, List.append_assoc]
      rfl

/-- Text without a slash makes the last piece longer. -/
theorem pieces_append {path more : String} {ps : List (List Char)} {last : List Char}
    (spelled : pieces path.toList = ps ++ [last]) (plain : '/' ∉ more.toList) :
    pieces (path ++ more).toList = ps ++ [last ++ more.toList] := by
  have lastPlain : '/' ∉ last := not_mem_of_mem_pieces (by rw [spelled]; simp)
  have text : path.toList = joinPieces (ps ++ [last]) := by rw [← spelled, joinPieces_pieces]
  rw [String.toList_append, text, joinPieces_concat_append, pieces_joinPieces (by simp)]
  intro p member
  rcases List.mem_append.mp member with early | final
  · exact not_mem_of_mem_pieces (by rw [spelled]; exact List.mem_append_left _ early)
  · rw [List.mem_singleton.mp final, List.mem_append, not_or]
    exact ⟨lastPlain, plain⟩

/-! ### Names -/

/-- The pieces of a path that name something. -/
def names (path : String) : List (List Char) := (pieces path.toList).filter (!isTrivial ·)

theorem names_empty : names "" = [] := by decide

/-- What a path starts from names nothing. -/
theorem split_spec (path : String) :
    (split path).1 ++ joinPieces (split path).2 = path.toList ∧
      (split path).2.filter (!isTrivial ·) = names path ∧
      ((split path).1 = ['/'] ↔ isAbsolute path = true) := by
  have whole := joinPieces_pieces path.toList
  have head : isAbsolute path = true ↔ ∃ cs, path.toList = '/' :: cs := by
    cases shape : path.toList with
    | nil => simp [isAbsolute, shape]
    | cons c cs => simp [isAbsolute, shape]
  unfold split names
  split
  · next p ps shape =>
    rw [shape] at whole ⊢
    have spelled : '/' :: joinPieces (p :: ps) = path.toList := whole
    exact ⟨spelled, by simp [isTrivial], by simp [head, ← spelled]⟩
  · next shape =>
    rw [shape] at whole ⊢
    have spelled : ['.'] = path.toList := whole
    exact ⟨spelled, by simp [isTrivial], by simp [head, ← spelled]⟩
  · next ps more shape =>
    rw [shape] at whole ⊢
    have rest : ps ≠ [] := fun none => more none
    have spelled : ['.'] ++ joinPieces ([] :: ps) = path.toList := by
      rw [joinPieces_cons _ rest, ← whole, joinPieces_cons _ rest]
      rfl
    exact ⟨spelled, by simp [isTrivial], by simp [head, ← spelled]⟩
  · next other _ _ =>
    refine ⟨whole, rfl, ?_⟩
    constructor
    · intro absurd
      cases absurd
    · intro absolute
      obtain ⟨cs, spelled⟩ := head.mp absolute
      rw [spelled, pieces_slash] at other
      obtain ⟨p, ps, shape⟩ := List.exists_cons_of_ne_nil (pieces_ne_nil cs)
      exact absurd (by rw [shape]) (other p ps)

/-! ### Paths below others -/

/-- A base that ends in a slash names nothing after it. -/
theorem exists_of_getLast?_slash {base : String} (ends : base.toList.getLast? = some '/') :
    ∃ cs, base.toList = cs ++ ['/'] := by
  obtain ⟨cs, spelled⟩ := List.getLast?_eq_some_iff.mp ends
  exact ⟨cs, spelled⟩

/-- **The pieces of a relative path below a base are its own after some with the names of the base.** -/
theorem pieces_join (base : String) {path : String} (relative : isAbsolute path = false) :
    ∃ ps, pieces (join base path).toList = ps ++ pieces path.toList ∧
      ps.filter (!isTrivial ·) = names base := by
  by_cases empty : base = ""
  · subst empty
    refine ⟨[], ?_, names_empty.symm⟩
    simp [join, relative]
  · have nonempty : base.isEmpty = false := by simpa using empty
    by_cases ends : base.toList.getLast? = some '/'
    · obtain ⟨cs, spelled⟩ := exists_of_getLast?_slash ends
      refine ⟨pieces cs, ?_, ?_⟩
      · simp [join, relative, nonempty, spelled, pieces_append_slash]
      · rw [names, spelled, pieces_append_slash, List.filter_append]
        simp [pieces, isTrivial]
    · refine ⟨pieces base.toList, ?_, rfl⟩
      simp [join, relative, nonempty, ends, pieces_append_slash]

theorem names_join (base : String) {path : String} (relative : isAbsolute path = false) :
    names (join base path) = names base ++ names path := by
  obtain ⟨ps, spelled, named⟩ := pieces_join base relative
  rw [names, spelled, List.filter_append, named]
  rfl

/-- The three ways to put a relative path below a base. -/
theorem join_cases (base : String) {path : String} (relative : isAbsolute path = false) :
    (base = "" ∧ join base path = path) ∨
      base ≠ "" ∧ (join base path = base ++ path ∨ join base path = base ++ "/" ++ path) := by
  by_cases empty : base = ""
  · exact Or.inl ⟨empty, by simp [join, empty]⟩
  · have nonempty : base.isEmpty = false := by simpa using empty
    refine Or.inr ⟨empty, ?_⟩
    by_cases ends : base.toList.getLast? = some '/'
    · exact Or.inl (by simp [join, relative, nonempty, ends])
    · exact Or.inr (by simp [join, relative, nonempty, ends])

theorem isAbsolute_append {base : String} (nonempty : base ≠ "") (more : String) :
    isAbsolute (base ++ more) = isAbsolute base := by
  obtain ⟨c, cs, spelled⟩ := List.exists_cons_of_ne_nil (mt String.toList_eq_nil_iff.mp nonempty)
  simp [isAbsolute, spelled]

theorem isAbsolute_join (base : String) {path : String} (relative : isAbsolute path = false) :
    isAbsolute (join base path) = isAbsolute base := by
  rcases join_cases base relative with ⟨rfl, same⟩ | ⟨nonempty, direct | apart⟩
  · rw [same, relative]
    decide
  · rw [direct, isAbsolute_append nonempty]
  · rw [apart, String.append_assoc, isAbsolute_append nonempty]

/-! ### Paths that end in a name -/

/-- A path whose last piece names something, if any piece does. -/
def Tight (path : String) : Prop :=
  names path = [] ∨ ∃ p, (pieces path.toList).getLast? = some p ∧ isTrivial p = false

/-- A path that ends in a name: the names before it, and the name. -/
structure Ending (path : String) (front : List (List Char)) (last : List Char) : Prop where
  spelled : ∃ ps, pieces path.toList = ps ++ [last] ∧ ps.filter (!isTrivial ·) = front
  named : isTrivial last = false

namespace Ending

variable {path : String} {front : List (List Char)} {last : List Char}

theorem names_eq (ending : Ending path front last) : names path = front ++ [last] := by
  obtain ⟨ps, spelled, before⟩ := ending.spelled
  rw [names, spelled, List.filter_append, before]
  simp [ending.named]

theorem tight (ending : Ending path front last) : Tight path := by
  obtain ⟨ps, spelled, _⟩ := ending.spelled
  exact Or.inr ⟨last, by simp [spelled], ending.named⟩

theorem join (ending : Ending path front last) (base : String) (relative : isAbsolute path = false) :
    Ending (join base path) (names base ++ front) last := by
  obtain ⟨ps, spelled, before⟩ := ending.spelled
  obtain ⟨qs, joined, above⟩ := pieces_join base relative
  refine ⟨⟨qs ++ ps, by rw [joined, spelled, List.append_assoc], ?_⟩, ending.named⟩
  rw [List.filter_append, above, before]

/-- The last name of a path can be made longer. -/
theorem append (ending : Ending path front last) {more : String} (plain : '/' ∉ more.toList)
    (named : isTrivial (last ++ more.toList) = false) :
    Ending (path ++ more) front (last ++ more.toList) := by
  obtain ⟨ps, spelled, before⟩ := ending.spelled
  exact ⟨⟨ps, pieces_append spelled plain, before⟩, named⟩

end Ending

/-! ### Pieces that name entries -/

/-- A piece that names an entry of a directory. -/
structure Proper (p : List Char) : Prop where
  named : isTrivial p = false
  down : p ≠ ['.', '.']
  plain : '/' ∉ p

theorem Proper.not_absolute {p : List Char} (proper : Proper p) (more : List Char) :
    isAbsolute (String.ofList (p ++ more)) = false := by
  cases p with
  | nil => exact absurd proper.named (by decide)
  | cons c cs =>
    have other : c ≠ '/' := fun slash => proper.plain (by simp [slash])
    simpa [isAbsolute] using other

theorem filter_of_proper {ps : List (List Char)} (proper : ∀ p ∈ ps, Proper p) :
    ps.filter (!isTrivial ·) = ps :=
  List.filter_eq_self.mpr fun p member => by simp [(proper p member).named]

/-- Proper pieces with slashes between them are a relative path that ends in the last of them. -/
theorem ending_joinPieces {front : List (List Char)} {last : List Char}
    (proper : ∀ p ∈ front ++ [last], Proper p) :
    Ending (String.ofList (joinPieces (front ++ [last]))) front last ∧
      isAbsolute (String.ofList (joinPieces (front ++ [last]))) = false := by
  have lastProper : Proper last := proper last (by simp)
  have frontProper : ∀ p ∈ front, Proper p := fun p member => proper p (by simp [member])
  refine ⟨⟨⟨front, ?_, filter_of_proper frontProper⟩, lastProper.named⟩, ?_⟩
  · rw [String.toList_ofList, pieces_joinPieces (by simp) fun p member => (proper p member).plain]
  · cases front with
    | nil => simpa [joinPieces] using lastProper.not_absolute []
    | cons p ps =>
      rw [List.cons_append, joinPieces_cons p (by simp)]
      exact (frontProper p (by simp)).not_absolute _

theorem ending_ofList {p : List Char} (proper : Proper p) :
    Ending (String.ofList p) [] p ∧ isAbsolute (String.ofList p) = false :=
  @ending_joinPieces [] p fun q member => by rwa [List.mem_singleton.mp member]

/-- **Proper pieces joined one by one to a base** are its names after those of the base. -/
theorem ending_foldl_join (base : String) {front : List (List Char)} {last : List Char}
    (proper : ∀ p ∈ front ++ [last], Proper p) :
    Ending ((front ++ [last]).foldl (fun path p => join path (String.ofList p)) base) (names base ++ front) last ∧
      isAbsolute ((front ++ [last]).foldl (fun path p => join path (String.ofList p)) base) = isAbsolute base := by
  induction front generalizing base with
  | nil =>
    obtain ⟨ending, relative⟩ := ending_ofList (proper last (by simp))
    exact ⟨ending.join base relative, isAbsolute_join base relative⟩
  | cons p ps ih =>
    obtain ⟨ending, relative⟩ := ending_ofList (proper p (by simp))
    obtain ⟨later, same⟩ := ih (join base (String.ofList p)) fun q member => proper q (by simp [member])
    rw [names_join base relative, ending.names_eq, List.append_assoc] at later
    rw [isAbsolute_join base relative] at same
    exact ⟨later, same⟩

/-! ### The path above -/

theorem trimEnd_isPrefix (ps : List (List Char)) : trimEnd ps <+: ps := by
  rw [trimEnd, ← List.reverse_suffix, List.reverse_reverse]
  exact List.dropWhile_suffix _

theorem filter_trimEnd (ps : List (List Char)) :
    (trimEnd ps).filter (!isTrivial ·) = ps.filter (!isTrivial ·) := by
  have dropped : ∀ qs : List (List Char),
      (qs.dropWhile isTrivial).filter (!isTrivial ·) = qs.filter (!isTrivial ·) := by
    intro qs
    induction qs with
    | nil => rfl
    | cons q qs ih => by_cases trivial : isTrivial q = true <;> simp_all
  rw [trimEnd, List.filter_reverse, dropped, ← List.filter_reverse, List.reverse_reverse]

/-- What is left ends in a piece that names something. -/
theorem trimEnd_eq_nil_or (ps : List (List Char)) :
    trimEnd ps = [] ∨ ∃ front last, trimEnd ps = front ++ [last] ∧ isTrivial last = false := by
  rw [trimEnd]
  cases shape : ps.reverse.dropWhile isTrivial with
  | nil => exact Or.inl rfl
  | cons last front =>
    refine Or.inr ⟨front.reverse, last, by simp, ?_⟩
    have stopped := List.head?_dropWhile_not isTrivial ps.reverse
    rw [shape] at stopped
    simpa using stopped

/-- What a path starts from: a slash, a dot that is a piece of its own, or nothing. -/
theorem split_cases (path : String) :
    (∀ p ∈ (split path).2, '/' ∉ p) ∧
      ((split path).1 = ['/'] ∨ (split path).1 = [] ∨
        (split path).1 = ['.'] ∧ ((split path).2 = [] ∨ ∃ ps, (split path).2 = [] :: ps)) := by
  have plain : ∀ p ∈ pieces path.toList, '/' ∉ p := fun p member => not_mem_of_mem_pieces member
  unfold split
  split
  · next shape => exact ⟨fun p member => plain p (by rw [shape]; exact List.mem_cons_of_mem _ member), Or.inl rfl⟩
  · exact ⟨fun p member => absurd member List.not_mem_nil, Or.inr (Or.inr ⟨rfl, Or.inl rfl⟩)⟩
  · next ps _ shape =>
    refine ⟨fun p member => ?_, Or.inr (Or.inr ⟨rfl, Or.inr ⟨ps, rfl⟩⟩)⟩
    rcases List.mem_cons.mp member with rfl | later
    · simp
    · exact plain p (by rw [shape]; exact List.mem_cons_of_mem _ later)
  · exact ⟨plain, Or.inr (Or.inl rfl)⟩

/-- The names of a text are among its pieces, after those that name nothing. -/
theorem names_of_pieces {text : String} {blanks front : List (List Char)} {last : List Char}
    (spelled : pieces text.toList = blanks ++ (front ++ [last])) (trivial : ∀ p ∈ blanks, isTrivial p = true)
    (named : isTrivial last = false) :
    names text = (front ++ [last]).filter (!isTrivial ·) ∧ Tight text := by
  have none : blanks.filter (!isTrivial ·) = [] := List.filter_eq_nil_iff.mpr (by simpa using trivial)
  refine ⟨?_, Or.inr ⟨last, ?_, named⟩⟩
  · rw [names, spelled, List.filter_append, none, List.nil_append]
  · rw [spelled, ← List.append_assoc, List.getLast?_concat]

/-- The names of a text that starts as a path does, after which come some of its pieces. -/
theorem names_of_lead {path : String} {rs : List (List Char)} (start : rs <+: (split path).2)
    (trimmed : rs = [] ∨ ∃ front last, rs = front ++ [last] ∧ isTrivial last = false) :
    names (String.ofList ((split path).1 ++ joinPieces rs)) = rs.filter (!isTrivial ·) ∧
      Tight (String.ofList ((split path).1 ++ joinPieces rs)) := by
  obtain ⟨bodyPlain, lead⟩ := split_cases path
  have plain : ∀ p ∈ rs, '/' ∉ p := fun p member => bodyPlain p (start.subset member)
  rcases trimmed with rfl | ⟨front, last, rfl, named⟩
  · rcases lead with lead | lead | ⟨lead, _⟩ <;> rw [lead] <;> exact ⟨by decide, Or.inl (by decide)⟩
  · have whole : pieces (joinPieces (front ++ [last])) = front ++ [last] :=
      pieces_joinPieces (by simp) plain
    rcases lead with lead | lead | ⟨lead, body | ⟨ps, body⟩⟩
    · have spelled : pieces (String.ofList (['/'] ++ joinPieces (front ++ [last]))).toList = [[]] ++ (front ++ [last]) := by
        rw [String.toList_ofList, List.singleton_append, pieces_slash, whole]
        rfl
      rw [lead]
      exact names_of_pieces spelled (by simp [isTrivial]) named
    · have spelled : pieces (String.ofList (joinPieces (front ++ [last]))).toList = [] ++ (front ++ [last]) := by
        rw [String.toList_ofList, whole, List.nil_append]
      rw [lead, List.nil_append]
      exact names_of_pieces spelled (by simp) named
    · rw [body] at start
      exact absurd (List.prefix_nil.mp start) (by simp)
    · rw [body] at start
      cases front with
      | nil =>
        obtain ⟨rest, shape⟩ := start
        simp only [List.nil_append, List.singleton_append, List.cons.injEq] at shape
        rw [shape.1] at named
        cases named
      | cons q qs =>
        obtain ⟨rest, shape⟩ := start
        simp only [List.cons_append, List.cons.injEq] at shape
        obtain ⟨rfl, _⟩ := shape
        have spelled : pieces (String.ofList (['.'] ++ joinPieces ([] :: qs ++ [last]))).toList =
            [['.']] ++ (qs ++ [last]) := by
          have rooted : joinPieces ([] :: qs ++ [last]) = '/' :: joinPieces (qs ++ [last]) := joinPieces_cons [] (by simp)
          rw [String.toList_ofList, rooted, pieces_append_slash,
            pieces_joinPieces (by simp) fun p member => plain p (by simp_all)]
          rfl
        obtain ⟨same, tight⟩ := names_of_pieces spelled (by simp [isTrivial]) named
        rw [lead]
        exact ⟨same.trans (by simp [isTrivial]), tight⟩

theorem isAbsolute_of_isPrefix {first path : String} (start : first.toList <+: path.toList)
    (absolute : isAbsolute first = true) : isAbsolute path = true := by
  obtain ⟨rest, spelled⟩ := start
  cases text : first.toList with
  | nil => simp [isAbsolute, text] at absolute
  | cons c cs =>
    rw [text] at spelled
    simpa [isAbsolute, text, ← spelled] using absolute

/-- A path with a name has a path above it. -/
theorem parent?_isSome {path : String} (named : names path ≠ []) : (parent? path).isSome = true := by
  simp only [parent?]
  cases shape : trimEnd (split path).2 with
  | nil =>
    refine absurd ?_ named
    rw [← (split_spec path).2.1, ← filter_trimEnd, shape]
    rfl
  | cons p ps => rfl

/-- The text of the parent of a path with a name. -/
theorem parent?_text {path parent : String} (above : parent? path = some parent) {front : List (List Char)}
    {last : List Char} (shape : trimEnd (split path).2 = front ++ [last]) :
    parent = String.ofList ((split path).1 ++ joinPieces (trimEnd front)) := by
  simp only [parent?] at above
  rw [shape] at above
  cases front with
  | nil => exact (Option.some.inj above).symm
  | cons q qs =>
    have init : (q :: qs ++ [last]).dropLast = q :: qs := List.dropLast_concat
    rw [← init]
    exact (Option.some.inj above).symm

/-- **The parent of a path**: a beginning of its text, tight, with all names but the last. -/
theorem parent?_eq_some {path parent : String} (above : parent? path = some parent) :
    names parent = (names path).dropLast ∧ Tight parent ∧ parent.toList <+: path.toList ∧
      isAbsolute parent = isAbsolute path := by
  obtain ⟨whole, named, absolute⟩ := split_spec path
  rcases trimEnd_eq_nil_or (split path).2 with none | ⟨front, last, shape, lastNamed⟩
  · simp only [parent?] at above
    rw [none] at above
    have nameless : names path = [] := by rw [← named, ← filter_trimEnd, none]; rfl
    by_cases dotted : (split path).1 = ['.']
    · rw [if_pos (by simp [dotted])] at above
      cases above
      rw [nameless]
      refine ⟨names_empty, Or.inl names_empty, List.nil_prefix, ?_⟩
      have relative : isAbsolute path ≠ true := fun holds => by
        rw [absolute.mpr holds] at dotted
        cases dotted
      rw [Bool.not_eq_true _ |>.mp relative]
      decide
    · rw [if_neg (by simpa using dotted)] at above
      cases above
  · have parentText := parent?_text above shape
    have start : trimEnd front <+: (split path).2 :=
      ((trimEnd_isPrefix front).trans ⟨[last], rfl⟩).trans (shape ▸ trimEnd_isPrefix _)
    obtain ⟨names', tight⟩ := names_of_lead start (trimEnd_eq_nil_or front)
    have namesPath : names path = front.filter (!isTrivial ·) ++ [last] := by
      rw [← named, ← filter_trimEnd, shape, List.filter_append]
      simp [lastNamed]
    have beginning : parent.toList <+: path.toList := by
      rw [parentText, String.toList_ofList, ← whole]
      exact (List.prefix_append_right_inj _).mpr (joinPieces_isPrefix start)
    refine ⟨?_, parentText ▸ tight, beginning, ?_⟩
    · rw [parentText, names', filter_trimEnd, namesPath]
      simp
    · rw [Bool.eq_iff_iff]
      refine ⟨isAbsolute_of_isPrefix beginning, fun holds => ?_⟩
      rw [parentText, absolute.mpr holds]
      simp [isAbsolute]

/-- **The file name of a path** is the last of its names, if that does not lead up. -/
theorem fileName?_eq (path : String) :
    fileName? path =
      match (names path).getLast? with
      | some ['.', '.'] => none
      | some p => some (String.ofList p)
      | none => none := by
  have same : (trimEnd (split path).2).getLast? = (names path).getLast? := by
    rw [← (split_spec path).2.1, ← filter_trimEnd]
    rcases trimEnd_eq_nil_or (split path).2 with none | ⟨front, last, shape, named⟩
    · simp only [none, List.filter_nil]
    · have kept : [last].filter (!isTrivial ·) = [last] := by simp [named]
      rw [shape, List.filter_append, kept, List.getLast?_concat, List.getLast?_concat]
  exact congrArg (fun last : Option (List Char) =>
    match last with
    | some ['.', '.'] => none
    | some p => some (String.ofList p)
    | none => none) same

/-- The file name of a path that ends in a name. -/
theorem Ending.fileName? {path : String} {front : List (List Char)} {last : List Char} (ending : Ending path front last)
    (down : last ≠ ['.', '.']) : Path.fileName? path = some (String.ofList last) := by
  rw [fileName?_eq, ending.names_eq, List.getLast?_concat]
  split
  · next dots => exact absurd (Option.some.inj dots) down
  · next same => rw [Option.some.inj same]
  · next none => cases none

end Detype.Path
