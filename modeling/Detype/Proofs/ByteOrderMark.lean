import Detype.Proofs.Positions

/-
**A byte-order mark before a text.**

A mark at the start of a text is dropped before the text is parsed, and what the parser reports has offsets from
behind the mark. They are then looked up in the text with the mark, and so they are three bytes short.

* `behindMark` — where a place of a text is when a mark stands before the text.
* `lineColumn_marked_iff` — the offsets that agree with it in spite of the missing bytes.
* `Diagnostic.arrange_map` — a change of diagnostics that respects the order of places can be made before or after
  they are arranged.
* `MovesBehindMark` — a text whose places all move behind the mark.
* `compile_marked` — what a mark changes: neither the code nor the messages, and which texts move behind it.
-/

namespace Detype

/-- The character U+FEFF. -/
def byteOrderMark : Char := '\uFEFF'

/-- A text with a byte-order mark before it. -/
def marked (text : String) : String := String.ofList (byteOrderMark :: text.toList)

/-- A text that does not start with a byte-order mark. -/
def Unmarked (text : String) : Prop := text.toList.head? ≠ some byteOrderMark

instance (text : String) : Decidable (Unmarked text) := inferInstanceAs (Decidable (¬ _))

@[simp]
theorem toList_marked (text : String) : (marked text).toList = byteOrderMark :: text.toList := String.toList_ofList

theorem withoutMark_marked (text : String) : withoutMark (marked text) = text := by
  rw [withoutMark, toList_marked]
  show (if byteOrderMark.toNat == 0xFEFF then String.ofList text.toList else marked text) = text
  rw [if_pos (by decide), String.ofList_toList]

theorem withoutMark_of_unmarked {text : String} (plain : Unmarked text) : withoutMark text = text := by
  unfold withoutMark
  split
  · next c cs spelled =>
    have other : c.toNat ≠ 0xFEFF := by
      intro same
      refine plain ?_
      rw [spelled, List.head?_cons]
      exact congrArg some (Char.toNat_inj.mp same)
    rw [if_neg (by simpa using other)]
  · rfl

/-! ### Prefixes behind a mark -/

theorem byteCount_mark (text : List Char) : byteCount (byteOrderMark :: text) = byteCount text + 3 := by
  rw [byteCount, ← List.singleton_append, String.ofList_append, String.utf8ByteSize_append,
    ← String.singleton_eq_ofList, String.utf8ByteSize_singleton, Nat.add_comm]
  rfl

theorem utf8ByteSize_marked (text : String) : (marked text).utf8ByteSize = text.utf8ByteSize + 3 := by
  have counted := byteCount_mark text.toList
  rwa [byteCount, byteCount, String.ofList_toList] at counted

/-- Where a place of a text is when a mark stands before the text: only the first line is longer. -/
def behindMark (line column : Nat) : Nat × Nat := (line, if line = 1 then column + 1 else column)

theorem behindMark_inj {line column line' column' : Nat} (same : behindMark line column = behindMark line' column') :
    line = line' ∧ column = column' := by
  unfold behindMark at same
  obtain ⟨rfl, columns⟩ := Prod.mk.inj same
  refine ⟨rfl, ?_⟩
  split at columns <;> omega

/-- A text ends where it ended, behind the mark. -/
theorem end_mark (text : List Char) :
    (lineAfter (byteOrderMark :: text), columnAfter (byteOrderMark :: text)) =
      behindMark (lineAfter text) (columnAfter text) := by
  induction text using List.reverseRecOn with
  | nil => decide
  | append_singleton text c ih =>
    obtain ⟨lines, columns⟩ := Prod.mk.inj ih
    rw [← List.cons_append, lineAfter_concat, columnAfter_concat, lineAfter_concat, columnAfter_concat, lines,
      columns]
    have first : 1 ≤ lineAfter text := Nat.le_add_right 1 _
    unfold behindMark
    by_cases ended : c = '\n'
    · rw [if_pos ended, if_pos ended, if_pos ended, if_neg (by omega)]
    · rw [if_neg ended, if_neg ended, if_neg ended]
      split <;> rfl

/-- What reaches an offset behind the mark is the mark and what reaches the offset less the mark. -/
theorem Reaches.tail {text first : List Char} {offset : Nat} (reaches : Reaches (byteOrderMark :: text) offset first)
    (behind : 0 < offset) : ∃ rest, first = byteOrderMark :: rest ∧ Reaches text (offset - 3) rest := by
  cases first with
  | nil =>
    have far := reaches.far
    have nothing : byteCount [] = 0 := rfl
    omega
  | cons c rest =>
    obtain ⟨rfl, begins⟩ := List.cons_prefix_cons.mp reaches.isPrefix
    refine ⟨rest, rfl, begins, ?_, fun other begins' reached => ?_⟩
    · have far := reaches.far
      rw [byteCount_mark] at far
      omega
    · have reached' : offset ≤ byteCount (byteOrderMark :: other) := by
        rw [byteCount_mark]
        omega
      have least := reaches.least _ (List.cons_prefix_cons.mpr ⟨rfl, begins'⟩) reached'
      simpa using least

/-- **When an offset that misses the mark's bytes still has the place behind the mark**: it is not the very start, and
no character starts in the missing bytes. -/
theorem lineColumn_marked_iff {text : String} {offset offset' : Nat} (inside : offset ≤ text.utf8ByteSize)
    (inside' : offset' ≤ text.utf8ByteSize + 3) (near : offset ≤ offset') (short : offset' ≤ offset + 3) :
    lineColumn (marked text).toList offset' =
        behindMark (lineColumn text.toList offset).1 (lineColumn text.toList offset).2 ↔
      0 < offset' ∧ ∀ n, offset' ≤ n + 3 → n < offset → ¬ IsBoundary text.toList n := by
  obtain ⟨first, reaches, place⟩ := lineColumn_eq inside
  rw [← utf8ByteSize_marked] at inside'
  obtain ⟨first', reaches', place'⟩ := lineColumn_eq inside'
  rw [toList_marked] at reaches'
  rw [place, place']
  rcases Nat.eq_zero_or_pos offset' with start | behind
  · -- At the very start nothing is before the offset, with the mark or without it.
    subst start
    obtain rfl : offset = 0 := by omega
    have nothing : ∀ text : List Char, Reaches text 0 [] := fun text =>
      ⟨List.nil_prefix, Nat.zero_le _, fun _ _ _ => Nat.zero_le _⟩
    obtain rfl := reaches.unique (nothing _)
    obtain rfl := reaches'.unique (nothing _)
    simp [lineAfter, columnAfter, behindMark]
  · obtain ⟨rest, spelled, reached⟩ := reaches'.tail behind
    rw [spelled, end_mark]
    constructor
    · intro same
      obtain ⟨lines, columns⟩ := behindMark_inj same
      obtain rfl : rest = first := prefix_eq_of_end reached.isPrefix reaches.isPrefix lines columns
      refine ⟨behind, ?_⟩
      rintro n missing less ⟨other, begins, rfl⟩
      have longer := reached.least other begins (by omega)
      obtain ⟨more, rfl⟩ := List.prefix_of_prefix_length_le reached.isPrefix begins longer
      have enough := reaches.far
      rw [byteCount, String.ofList_append, String.utf8ByteSize_append] at less
      unfold byteCount at enough
      omega
    · rintro ⟨_, none⟩
      have enough : offset ≤ byteCount rest := by
        by_contra less
        have far := reached.far
        exact none (byteCount rest) (by omega) (by omega) ⟨rest, reached.isPrefix, rfl⟩
      have begins : rest <+: first := reached.mono reaches (by omega)
      rw [begins.eq_of_length_le (reaches.least rest reached.isPrefix enough)]

/-! ### Arranged diagnostics -/

namespace Diagnostic

theorem dedup_map {f : Diagnostic → Diagnostic} {ds : List Diagnostic}
    (apart : ∀ a ∈ ds, ∀ b ∈ ds, f a = f b → a = b) : dedup (ds.map f) = (dedup ds).map f := by
  fun_induction dedup ds with
  | case1 => rfl
  | case2 => rfl
  | case3 a ds ih =>
    rw [List.map_cons, List.map_cons, dedup, if_pos rfl, ← List.map_cons]
    exact ih fun x member y member' => apart x (List.mem_cons_of_mem _ member) y (List.mem_cons_of_mem _ member')
  | case4 a b ds differ ih =>
    have differ' : f a ≠ f b := fun same => differ (apart a (by simp) b (by simp) same)
    rw [List.map_cons, List.map_cons, dedup, if_neg differ', ← List.map_cons, List.map_cons]
    congr 1
    exact ih fun x member y member' => apart x (List.mem_cons_of_mem _ member) y (List.mem_cons_of_mem _ member')

/-- **A change that respects the order of places** can be made before or after diagnostics are arranged. -/
theorem arrange_map {f : Diagnostic → Diagnostic} {ds : List Diagnostic}
    (apart : ∀ a ∈ ds, ∀ b ∈ ds, f a = f b → a = b)
    (order : ∀ a ∈ ds, ∀ b ∈ ds, a.precedes b = (f a).precedes (f b)) :
    arrange (ds.map f) = (arrange ds).map f := by
  rw [arrange, arrange, ← List.map_mergeSort order, dedup_map]
  intro a member b member'
  exact apart a (List.mem_mergeSort.mp member) b (List.mem_mergeSort.mp member')

/-- A diagnostic of a text, when a mark stands before the text. -/
def behindMark (d : Diagnostic) : Diagnostic :=
  { message := d.message
    line := d.line
    column := (Detype.behindMark d.line d.column).2
    endLine := d.endLine
    endColumn := (Detype.behindMark d.endLine d.endColumn).2
    start := d.start + 3
    stop := d.stop + 3 }

theorem behindMark_injective : Function.Injective behindMark := by
  intro a b same
  obtain ⟨messages, lines, columns, endLines, endColumns, starts, stops⟩ := Diagnostic.mk.inj same
  have places : a.column = b.column := (behindMark_inj (Prod.ext lines columns)).2
  have ends : a.endColumn = b.endColumn := (behindMark_inj (Prod.ext endLines endColumns)).2
  cases a
  cases b
  simp_all

theorem precedes_behindMark (a b : Diagnostic) : a.precedes b = a.behindMark.precedes b.behindMark := by
  rw [Bool.eq_iff_iff, precedes_iff, precedes_iff]
  show _ ↔ a.start + 3 < b.start + 3 ∨ a.start + 3 = b.start + 3 ∧ a.stop + 3 ≤ b.stop + 3
  omega

/-- A diagnostic at the offsets of another, looked up in a text. -/
def reread (text : String) (d : Diagnostic) : Diagnostic := at_ d.message ⟨d.start + 1, d.stop + 1⟩ text

end Diagnostic

/-! ### What is reported -/

/-- The messages that are reported of a text, and the spans that the parser gives them. -/
def reports (parsed : Parsed) (kind : ModuleKind) : List (String × Span) :=
  parsed.errors.map (fun f => (f.fault.message, f.span)) ++
    (if parsed.program.isModule && kind.usesRequire then parsed.program.topLevelAwaits else []).map
      fun s => (Diagnostic.awaitMessage, s)

theorem rawDiagnostics_eq_map (text : String) (parsed : Parsed) (kind : ModuleKind) :
    rawDiagnostics text parsed kind = (reports parsed kind).map fun r => Diagnostic.at_ r.1 r.2 text := by
  rw [reports, List.map_append, List.map_map, List.map_map]
  rfl

theorem mem_diagnose {text : String} {parsed : Parsed} {kind : ModuleKind} {d : Diagnostic} :
    d ∈ diagnose text parsed kind ↔ ∃ r ∈ reports parsed kind, Diagnostic.at_ r.1 r.2 text = d := by
  rw [diagnose, (Diagnostic.arranged_arrange _).same, rawDiagnostics_eq_map, List.mem_map]

section Reports

variable {text : String} {parsed : Parsed} {kind : ModuleKind}

theorem Span.offsets_eq (s : Span) (length : Nat) :
    s.offsets length = (min (s.lo - 1) length, max (min (s.hi - 1) length) (min (s.lo - 1) length)) := rfl

/-- A span that starts behind both texts is moved with their ends. -/
theorem at_marked (message : String) {span : Span} (beyond : text.utf8ByteSize + 3 < span.lo) :
    Diagnostic.at_ message span (marked text) = (Diagnostic.at_ message span text).behindMark := by
  have offsets : span.offsets text.utf8ByteSize = (text.utf8ByteSize, text.utf8ByteSize) := by
    rw [span.offsets_eq, Prod.mk.injEq]
    omega
  have offsets' : span.offsets (marked text).utf8ByteSize = (text.utf8ByteSize + 3, text.utf8ByteSize + 3) := by
    rw [span.offsets_eq, Prod.mk.injEq, utf8ByteSize_marked]
    omega
  have place := (@lineColumn_marked_iff text text.utf8ByteSize (text.utf8ByteSize + 3) le_rfl le_rfl (by omega)
    le_rfl).mpr ⟨by omega, fun n _ _ => by omega⟩
  unfold Diagnostic.at_ Diagnostic.behindMark
  rw [offsets, offsets']
  dsimp only
  rw [place]
  rfl

/-- **What is reported moves behind the mark only if all of it is behind the text.** A diagnostic in the text stays
where it is, so that its place is the moved place of an earlier one; and the first has no earlier one. -/
theorem beyond_of_moved
    (moved : ∀ d ∈ diagnose (marked text) parsed kind, ∃ e ∈ diagnose text parsed kind, e.behindMark = d) :
    ∀ r ∈ reports parsed kind, text.utf8ByteSize + 3 < r.2.lo := by
  -- The induction is on where a diagnostic starts in the text without the mark.
  have descent : ∀ n, ∀ r ∈ reports parsed kind, (r.2.offsets text.utf8ByteSize).1 = n →
      text.utf8ByteSize + 3 < r.2.lo := by
    intro n
    induction n using Nat.strong_induction_on with
    | _ n ih =>
      rintro r member rfl
      by_contra early
      obtain ⟨e, member', same⟩ := moved _ (mem_diagnose.mpr ⟨r, member, rfl⟩)
      obtain ⟨r', member'', rfl⟩ := mem_diagnose.mp member'
      have starts : (r'.2.offsets text.utf8ByteSize).1 + 3 = (r.2.offsets (marked text).utf8ByteSize).1 :=
        congrArg Diagnostic.start same
      rw [utf8ByteSize_marked] at starts
      have earlier : (r'.2.offsets text.utf8ByteSize).1 < (r.2.offsets text.utf8ByteSize).1 := by
        simp only [Span.offsets_eq] at starts ⊢
        omega
      have beyond := ih _ earlier r' member'' rfl
      simp only [Span.offsets_eq] at earlier
      omega
  exact fun r member => descent _ r member rfl

/-- What is behind the text moves behind the mark. -/
theorem diagnose_marked_of_beyond (beyond : ∀ r ∈ reports parsed kind, text.utf8ByteSize + 3 < r.2.lo) :
    diagnose (marked text) parsed kind = (diagnose text parsed kind).map Diagnostic.behindMark := by
  have raw : rawDiagnostics (marked text) parsed kind =
      (rawDiagnostics text parsed kind).map Diagnostic.behindMark := by
    rw [rawDiagnostics_eq_map, rawDiagnostics_eq_map, List.map_map]
    exact List.map_congr_left fun r member => at_marked r.1 (beyond r member)
  rw [diagnose, diagnose, raw]
  exact Diagnostic.arrange_map (fun a _ b _ same => Diagnostic.behindMark_injective same)
    fun a _ b _ => Diagnostic.precedes_behindMark a b

/-- **What is reported inside the text keeps its offsets** when a mark stands before it. -/
theorem diagnose_marked_of_inside
    (inside : ∀ r ∈ reports parsed kind, r.2.lo ≤ text.utf8ByteSize + 1 ∧ r.2.hi ≤ text.utf8ByteSize + 1) :
    diagnose (marked text) parsed kind = (diagnose text parsed kind).map (Diagnostic.reread (marked text)) := by
  have offsets : ∀ d : Diagnostic, d.PointsInto text →
      (⟨d.start + 1, d.stop + 1⟩ : Span).offsets (marked text).utf8ByteSize = (d.start, d.stop) := by
    intro d points
    have ordered := points.ordered
    have within := points.inside
    rw [Span.offsets_eq, Prod.mk.injEq, utf8ByteSize_marked]
    dsimp only
    omega
  have raw : rawDiagnostics (marked text) parsed kind =
      (rawDiagnostics text parsed kind).map (Diagnostic.reread (marked text)) := by
    rw [rawDiagnostics_eq_map, rawDiagnostics_eq_map, List.map_map]
    refine List.map_congr_left fun r member => ?_
    obtain ⟨lo, hi⟩ := inside r member
    have kept : r.2.offsets (marked text).utf8ByteSize = r.2.offsets text.utf8ByteSize := by
      rw [Span.offsets_eq, Span.offsets_eq, Prod.mk.injEq, utf8ByteSize_marked]
      omega
    have again := offsets _ (Diagnostic.pointsInto_at r.1 r.2 text)
    rw [Function.comp_apply, Diagnostic.reread]
    unfold Diagnostic.at_ at again ⊢
    dsimp only at again ⊢
    rw [again, kept]
  rw [diagnose, diagnose, raw]
  refine Diagnostic.arrange_map ?_ ?_
  · intro a member b member' same
    have points := pointsInto_rawDiagnostics member
    have points' := pointsInto_rawDiagnostics member'
    unfold Diagnostic.reread Diagnostic.at_ at same
    dsimp only at same
    rw [offsets a points, offsets b points'] at same
    obtain ⟨messages, _, _, _, _, starts, stops⟩ := Diagnostic.mk.inj same
    exact points.ext points' messages starts stops
  · intro a member b member'
    rw [Bool.eq_iff_iff, Diagnostic.precedes_iff, Diagnostic.precedes_iff]
    unfold Diagnostic.reread Diagnostic.at_
    dsimp only
    rw [offsets a (pointsInto_rawDiagnostics member), offsets b (pointsInto_rawDiagnostics member')]

end Reports

/-! ### Compilations -/

/-- An error of a text, when a mark stands before the text. -/
def CompileError.behindMark : CompileError → CompileError
  | parse message line column => parse message line (Detype.behindMark line column).2
  | e => e

/-- A text of which all places move behind the mark: the text with the mark cannot be compiled either, and the same
error is there behind the mark; or both can, and what is reported of one is reported of the other behind the mark. -/
inductive MovesBehindMark (text : String) (options : Options) : Prop where
  | failed {e : CompileError} (fails : compile text options = .error e)
      (fails' : compile (marked text) options = .error e.behindMark)
  | compiled {output output' : Output} (done : compile text options = .ok output)
      (done' : compile (marked text) options = .ok output')
      (moved : output'.diagnostics.Perm (output.diagnostics.map Diagnostic.behindMark))

/-- What the parser makes of a text, if the missing bytes do not show: an error is behind a character that is longer
than they are, or nothing is reported inside the text. -/
def HidesMark (text : String) (kind : ModuleKind) : Except FaultAt Parsed → Prop
  | .error f => 0 < (f.span.offsets (text.utf8ByteSize + 3)).1 ∧
      ∀ n, (f.span.offsets (text.utf8ByteSize + 3)).1 ≤ n + 3 → n < (f.span.offsets text.utf8ByteSize).1 →
        ¬ IsBoundary text.toList n
  | .ok parsed => ∀ r ∈ reports parsed kind, text.utf8ByteSize + 3 < r.2.lo

theorem compile_of_unmarked {text : String} (plain : Unmarked text) (options : Options) :
    compile text options = finish text options ((Source.ofString text).parse options.jsx) := by
  rw [compile, withoutMark_of_unmarked plain]

theorem compile_marked_eq (text : String) (options : Options) :
    compile (marked text) options = finish (marked text) options ((Source.ofString text).parse options.jsx) := by
  rw [compile, withoutMark_marked]

/-- A text that can be parsed compiles to the same code and map when a mark stands before it. -/
theorem finish_marked {text : String} (plain : Unmarked text) (options : Options) (parsed : Parsed) :
    ∃ code sourceMap,
      finish text options (.ok parsed) = .ok ⟨code, sourceMap, diagnose text parsed options.module⟩ ∧
      finish (marked text) options (.ok parsed) =
        .ok ⟨code, sourceMap, diagnose (marked text) parsed options.module⟩ := by
  refine ⟨_, _, rfl, ?_⟩
  unfold finish
  rw [withoutMark_marked, withoutMark_of_unmarked plain]
  rfl

/-- **Which texts move behind a mark.** -/
theorem movesBehindMark_iff {text : String} (plain : Unmarked text) (options : Options) :
    MovesBehindMark text options ↔ HidesMark text options.module ((Source.ofString text).parse options.jsx) := by
  have plainly := compile_of_unmarked plain options
  have behind := compile_marked_eq text options
  cases parse : (Source.ofString text).parse options.jsx with
  | error f =>
    rw [parse] at plainly behind
    have near := Span.offsets_le f.span text.utf8ByteSize
    have far := Span.offsets_le f.span (text.utf8ByteSize + 3)
    have between : (f.span.offsets text.utf8ByteSize).1 ≤ (f.span.offsets (text.utf8ByteSize + 3)).1 ∧
        (f.span.offsets (text.utf8ByteSize + 3)).1 ≤ (f.span.offsets text.utf8ByteSize).1 + 3 := by
      rw [Span.offsets_eq, Span.offsets_eq]
      omega
    have place := lineColumn_marked_iff (near.1.trans near.2) (far.1.trans far.2) between.1 between.2
    rw [HidesMark, ← place, ← utf8ByteSize_marked]
    constructor
    · intro moved
      cases moved with
      | failed fails fails' =>
        obtain rfl := Except.error.inj (plainly.symm.trans fails)
        obtain ⟨_, lines, columns⟩ := CompileError.parse.inj (Except.error.inj (behind.symm.trans fails'))
        exact Prod.ext lines columns
      | compiled done => cases plainly.symm.trans done
    · intro same
      refine .failed plainly (behind.trans ?_)
      unfold finish CompileError.behindMark
      dsimp only
      rw [same]
      rfl
  | ok parsed =>
    rw [parse] at plainly behind
    obtain ⟨code, sourceMap, finished, finished'⟩ := finish_marked plain options parsed
    rw [finished] at plainly
    rw [finished'] at behind
    rw [HidesMark]
    constructor
    · intro moved
      cases moved with
      | failed fails => cases plainly.symm.trans fails
      | compiled done done' same =>
        obtain rfl := Except.ok.inj (plainly.symm.trans done)
        obtain rfl := Except.ok.inj (behind.symm.trans done')
        exact beyond_of_moved fun d member => List.mem_map.mp (same.mem_iff.mp member)
    · intro beyond
      exact .compiled plainly behind (.of_eq (diagnose_marked_of_beyond beyond))

/-- **What a byte-order mark before a text changes.** The text cannot be compiled for the same reason, or it compiles
to the same code and map; what is reported inside the text keeps the offsets that it has without the mark, though they
are looked up with it; and so places move behind the mark only where the missing bytes do not show. -/
theorem compile_marked {text : String} (plain : Unmarked text) (options : Options) :
    (∀ message, (∃ line column, compile (marked text) options = .error (.parse message line column)) ↔
      ∃ line column, compile text options = .error (.parse message line column)) ∧
    (∀ output, compile text options = .ok output →
      ∃ output', compile (marked text) options = .ok output' ∧ output'.code = output.code ∧
        output'.sourceMap = output.sourceMap ∧
        ∀ parsed, (Source.ofString text).parse options.jsx = .ok parsed →
          (∀ r ∈ reports parsed options.module, r.2.lo ≤ text.utf8ByteSize + 1 ∧ r.2.hi ≤ text.utf8ByteSize + 1) →
          output'.diagnostics = output.diagnostics.map (Diagnostic.reread (marked text))) ∧
    (MovesBehindMark text options ↔
      HidesMark text options.module ((Source.ofString text).parse options.jsx)) := by
  refine ⟨fun message => ?_, fun output done => ?_, movesBehindMark_iff plain options⟩
  · rw [compile_of_unmarked plain, compile_marked_eq]
    cases (Source.ofString text).parse options.jsx with
    | error f =>
      unfold finish
      dsimp only
      simp only [Except.error.injEq, CompileError.parse.injEq]
      exact ⟨fun ⟨_, _, same, _⟩ => ⟨_, _, same, rfl, rfl⟩, fun ⟨_, _, same, _⟩ => ⟨_, _, same, rfl, rfl⟩⟩
    | ok parsed =>
      unfold finish
      simp
  · rw [compile_of_unmarked plain] at done
    rw [compile_marked_eq]
    cases parse : (Source.ofString text).parse options.jsx with
    | error f =>
      rw [parse] at done
      cases done
    | ok parsed =>
      obtain ⟨code, sourceMap, finished, finished'⟩ := finish_marked plain options parsed
      rw [parse, finished] at done
      obtain rfl := Except.ok.inj done
      refine ⟨_, finished', rfl, rfl, fun parsed' same inside => ?_⟩
      obtain rfl := Except.ok.inj same
      exact diagnose_marked_of_inside inside

/-- A text that goes wrong right behind a character of four bytes. -/
def closedTooOften : String := "𝒳)"

/-- The error is not where it is without the mark, but where it has to be behind it. -/
theorem closedTooOften_moves : Unmarked closedTooOften ∧ MovesBehindMark closedTooOften {} := by
  have plain : Unmarked closedTooOften := by decide
  obtain ⟨f, fails, place⟩ : ∃ f, (Source.ofString closedTooOften).parse false = .error f ∧ f.span.lo = 5 := by
    have early : (match (Source.ofString closedTooOften).parse false with
      | .error f => f.span.lo
      | .ok _ => 0) = 5 := by decide +kernel
    cases parse : (Source.ofString closedTooOften).parse false with
    | error f =>
      rw [parse] at early
      exact ⟨f, rfl, early⟩
    | ok parsed =>
      rw [parse] at early
      cases early
  have size : closedTooOften.utf8ByteSize = 5 := by decide
  obtain ⟨_, _, moves⟩ := compile_marked plain {}
  refine ⟨plain, ?_⟩
  rw [moves, fails, HidesMark, size]
  unfold Span.offsets
  rw [place]
  refine ⟨Nat.lt_of_lt_of_le (by decide) (le_refl 4), ?_⟩
  rintro n missing less ⟨first, begins, rfl⟩
  -- A prefix of the text has no byte, four or five of them.
  have counts : ∀ p ∈ closedTooOften.toList.inits, byteCount p = 0 ∨ 4 ≤ byteCount p := by decide
  have count := counts first ((List.mem_inits _ _).mpr begins)
  dsimp only at missing less
  omega

/-- What moves if one thing is reported of a text. -/
theorem MovesBehindMark.eq_of_single {text : String} {options : Options} (moved : MovesBehindMark text options)
    {d d' : Diagnostic} (found : (compile text options).toOption.map (·.diagnostics) = some [d])
    (found' : (compile (marked text) options).toOption.map (·.diagnostics) = some [d']) : d' = d.behindMark := by
  cases moved with
  | failed fails =>
    rw [fails] at found
    cases found
  | @compiled output output' done done' same =>
    rw [done] at found
    rw [done'] at found'
    have diagnostics : output.diagnostics = [d] := Option.some.inj found
    have diagnostics' : output'.diagnostics = [d'] := Option.some.inj found'
    rw [diagnostics, diagnostics', List.map_singleton, List.perm_singleton] at same
    exact (List.cons.inj same).1

/-- A module that deletes a name. -/
def deletion : String := "export {}; delete y;"

theorem deletion_diagnostics :
    (compile deletion {}).toOption.map (·.diagnostics) =
        some [⟨Fault.message .deleteIdent, 1, 19, 1, 20, 18, 19⟩] ∧
      (compile (marked deletion) {}).toOption.map (·.diagnostics) =
        some [⟨Fault.message .deleteIdent, 1, 17, 1, 18, 18, 19⟩] := by decide +kernel

/-- **Not every text moves behind a mark**: the name that is deleted is at byte 21 and in column 20 of the marked text,
but it is reported at byte 18 and in column 17. -/
theorem deletion_not_moved : Unmarked deletion ∧ ¬ MovesBehindMark deletion {} := by
  refine ⟨by decide +kernel, fun moved => ?_⟩
  obtain ⟨found, found'⟩ := deletion_diagnostics
  have starts : 18 = 18 + 3 := congrArg Diagnostic.start (moved.eq_of_single found found')
  omega

end Detype
