import Detype.Compile
import Mathlib.Data.List.Destutter

/-
**Where diagnostics point, and how they are listed.**

Whatever places the parser and the search for `await` report, a diagnostic points into the text, and the list of
diagnostics is the raw list in the order of places, with each run of equal ones once.

* `lineAfter`, `columnAfter` — the line and column at which a text ends.
* `Reaches` — the shortest prefix of whole characters that reaches an offset; `lineColumn_eq` — an offset has the
  line and column at which that prefix ends.
* `Diagnostic.PointsInto` — a diagnostic that points into a text; `pointsInto_at` — one made at any span does.
* `Diagnostic.Arranged` — a list of diagnostics in its final order; `arranged_arrange` — `arrange` gives one.
* `finish_diagnostics` — both hold of a compilation, whatever the parser reports.
-/

namespace Detype

/-! ### Lines and columns -/

/-- The line, from one, on which a text ends. -/
def lineAfter (text : List Char) : Nat := 1 + text.count '\n'

/-- The column, from one, at which a text ends. -/
def columnAfter (text : List Char) : Nat := 1 + (text.reverse.takeWhile (· ≠ '\n')).length

theorem lineAfter_concat (text : List Char) (c : Char) :
    lineAfter (text ++ [c]) = if c = '\n' then lineAfter text + 1 else lineAfter text := by
  unfold lineAfter
  rw [List.count_append, List.count_singleton]
  by_cases ended : c = '\n'
  · simp [ended]
    omega
  · simp [ended]

theorem columnAfter_concat (text : List Char) (c : Char) :
    columnAfter (text ++ [c]) = if c = '\n' then 1 else columnAfter text + 1 := by
  unfold columnAfter
  by_cases ended : c = '\n'
  · simp [ended]
  · simp [ended]
    omega

/-- **A longer text ends later**: on a later line, or on the same one and not before. -/
theorem ends_later {first later : List Char} (begins : first <+: later) :
    lineAfter first < lineAfter later ∨ lineAfter first = lineAfter later ∧ columnAfter first ≤ columnAfter later := by
  obtain ⟨more, rfl⟩ := begins
  induction more using List.reverseRecOn with
  | nil => exact Or.inr ⟨by simp, by simp⟩
  | append_singleton more c ih =>
    rw [← List.append_assoc, lineAfter_concat, columnAfter_concat]
    by_cases ended : c = '\n'
    · simp only [ended, if_true]
      omega
    · simp only [ended, if_false]
      omega

/-! ### Offsets -/

/-- The number of bytes of a text. -/
def byteCount (text : List Char) : Nat := (String.ofList text).utf8ByteSize

theorem byteCount_concat (text : List Char) (c : Char) : byteCount (text ++ [c]) = byteCount text + c.utf8Size := by
  rw [byteCount, String.ofList_append, String.utf8ByteSize_append, ← String.singleton_eq_ofList,
    String.utf8ByteSize_singleton]
  rfl

/-- The shortest prefix of whole characters that reaches an offset. -/
structure Reaches (text : List Char) (offset : Nat) (first : List Char) : Prop where
  isPrefix : first <+: text
  far : offset ≤ byteCount first
  least : ∀ other, other <+: text → offset ≤ byteCount other → first.length ≤ other.length

/-- A prefix to a later offset is longer. -/
theorem Reaches.mono {text first later : List Char} {offset offset' : Nat} (reaches : Reaches text offset first)
    (reaches' : Reaches text offset' later) (le : offset ≤ offset') : first <+: later :=
  List.prefix_of_prefix_length_le reaches.isPrefix reaches'.isPrefix
    (reaches.least later reaches'.isPrefix (le.trans reaches'.far))

/-- A prefix that reaches an offset is the shortest, if no part of it does. -/
theorem reaches_of_short {before : List Char} {offset : Nat} (rest : List Char)
    (short : ∀ other, other <+: before → other ≠ before → byteCount other < offset)
    (far : offset ≤ byteCount before) : Reaches (before ++ rest) offset before := by
  refine ⟨List.prefix_append before rest, far, fun other begins reached => ?_⟩
  by_contra less
  have inner : other <+: before :=
    List.prefix_of_prefix_length_le begins (List.prefix_append before rest) (by omega)
  have fails := short other inner (by rintro rfl; exact less le_rfl)
  omega

/-- The scan, after a part of the text of which no part reaches the offset. -/
theorem lineColumn_go (offset : Nat) (before rest : List Char)
    (short : ∀ other, other <+: before → other ≠ before → byteCount other < offset)
    (inside : offset ≤ byteCount (before ++ rest)) :
    ∃ first, Reaches (before ++ rest) offset first ∧
      lineColumn.go offset rest (byteCount before) (lineAfter before) (columnAfter before) =
        (lineAfter first, columnAfter first) := by
  induction rest generalizing before with
  | nil =>
    refine ⟨before, reaches_of_short [] short ?_, rfl⟩
    rwa [List.append_nil] at inside
  | cons c rest ih =>
    rw [lineColumn.go]
    by_cases far : offset ≤ byteCount before
    · rw [if_pos far]
      exact ⟨before, reaches_of_short _ short far, rfl⟩
    · rw [if_neg far]
      have short' : ∀ other, other <+: before ++ [c] → other ≠ before ++ [c] → byteCount other < offset := by
        intro other begins proper
        rcases List.prefix_concat_iff.mp begins with same | inner
        · exact absurd same proper
        · by_cases same : other = before
          · rw [same]
            omega
          · exact short other inner same
      rw [List.append_cons] at inside ⊢
      obtain ⟨first, reaches, scanned⟩ := ih (before ++ [c]) short' inside
      refine ⟨first, reaches, ?_⟩
      rw [← scanned, byteCount_concat, lineAfter_concat, columnAfter_concat]
      by_cases ended : c = '\n'
      · rw [if_pos ended, if_pos ended, if_pos ended]
      · rw [if_neg ended, if_neg ended, if_neg ended]

/-- **An offset has the line and column at which the shortest prefix ends that reaches it.** -/
theorem lineColumn_eq {text : String} {offset : Nat} (inside : offset ≤ text.utf8ByteSize) :
    ∃ first, Reaches text.toList offset first ∧
      lineColumn text.toList offset = (lineAfter first, columnAfter first) := by
  have nothing : ∀ other : List Char, other <+: [] → other ≠ [] → byteCount other < offset :=
    fun other begins proper => absurd (List.prefix_nil.mp begins) proper
  have whole : byteCount ([] ++ text.toList) = text.utf8ByteSize := by
    rw [List.nil_append, byteCount, String.ofList_toList]
  exact lineColumn_go offset [] text.toList nothing (whole ▸ inside)

/-! ### Places of diagnostics -/

/-- A span of any kind is cut to the text. -/
theorem Span.offsets_le (s : Span) (length : Nat) :
    (s.offsets length).1 ≤ (s.offsets length).2 ∧ (s.offsets length).2 ≤ length := by
  unfold Span.offsets
  dsimp only
  omega

namespace Diagnostic

/-- A diagnostic that points into a text: its offsets, and the lines and columns that belong to them. -/
structure PointsInto (d : Diagnostic) (text : String) : Prop where
  ordered : d.start ≤ d.stop
  inside : d.stop ≤ text.utf8ByteSize
  starts : (d.line, d.column) = lineColumn text.toList d.start
  stops : (d.endLine, d.endColumn) = lineColumn text.toList d.stop
  forwards : d.line < d.endLine ∨ d.line = d.endLine ∧ d.column ≤ d.endColumn

/-- **A diagnostic at any span points into the text.** -/
theorem pointsInto_at (message : String) (span : Span) (text : String) : (at_ message span text).PointsInto text := by
  obtain ⟨ordered, inside⟩ := span.offsets_le text.utf8ByteSize
  obtain ⟨first, reaches, start⟩ := lineColumn_eq (ordered.trans inside)
  obtain ⟨later, reaches', stop⟩ := lineColumn_eq inside
  refine ⟨ordered, inside, rfl, rfl, ?_⟩
  show (lineColumn text.toList (span.offsets text.utf8ByteSize).1).1 < _ ∨ _
  unfold at_
  dsimp only
  rw [start, stop]
  exact ends_later (reaches.mono reaches' ordered)

/-- A diagnostic that points into a text is known from its message and its offsets. -/
theorem PointsInto.ext {a b : Diagnostic} {text : String} (points : a.PointsInto text) (points' : b.PointsInto text)
    (messages : a.message = b.message) (starts : a.start = b.start) (stops : a.stop = b.stop) : a = b := by
  have places : (a.line, a.column) = (b.line, b.column) := by rw [points.starts, points'.starts, starts]
  have ends : (a.endLine, a.endColumn) = (b.endLine, b.endColumn) := by rw [points.stops, points'.stops, stops]
  obtain ⟨lines, columns⟩ := Prod.mk.inj places
  obtain ⟨endLines, endColumns⟩ := Prod.mk.inj ends
  cases a
  cases b
  simp only at messages lines columns endLines endColumns starts stops
  rw [messages, lines, columns, endLines, endColumns, starts, stops]

/-! ### The order of diagnostics -/

/-- Whether a diagnostic is at given offsets. -/
def isAt (start stop : Nat) (d : Diagnostic) : Bool := d.start == start && d.stop == stop

/-- A list of diagnostics in its final order: by places, without equal neighbours, and with those of one place as
in the raw list, each run of equal ones once. -/
structure Arranged (raw ds : List Diagnostic) : Prop where
  sorted : ds.Pairwise fun a b => a.start < b.start ∨ a.start = b.start ∧ a.stop ≤ b.stop
  distinct : ds.IsChain (· ≠ ·)
  same : ∀ d, d ∈ ds ↔ d ∈ raw
  stable : ∀ start stop, ds.filter (isAt start stop) = (raw.filter (isAt start stop)).destutter (· ≠ ·)

theorem precedes_iff {a b : Diagnostic} :
    a.precedes b = true ↔ a.start < b.start ∨ a.start = b.start ∧ a.stop ≤ b.stop := by
  simp [precedes]

theorem precedes_trans (a b c : Diagnostic) (first : a.precedes b = true) (second : b.precedes c = true) :
    a.precedes c = true := by
  rw [precedes_iff] at first second ⊢
  omega

theorem precedes_total (a b : Diagnostic) : (a.precedes b || b.precedes a) = true := by
  rw [Bool.or_eq_true, precedes_iff, precedes_iff]
  omega

theorem dedup_eq_destutter (ds : List Diagnostic) : dedup ds = ds.destutter (· ≠ ·) := by
  induction ds with
  | nil => rfl
  | cons a ds ih =>
    cases ds with
    | nil => rfl
    | cons b ds =>
      rw [dedup, ih]
      by_cases same : a = b
      · subst same
        rw [if_pos rfl, List.destutter_cons_cons, if_neg (by simp)]
        rfl
      · rw [if_neg same, List.destutter_cons_cons, if_pos same]
        rfl

theorem mem_dedup {d : Diagnostic} {ds : List Diagnostic} : d ∈ dedup ds ↔ d ∈ ds := by
  fun_induction dedup ds with
  | case1 => rfl
  | case2 => rfl
  | case3 a ds ih => rw [ih]; simp
  | case4 a b ds differ ih => rw [List.mem_cons, ih, ← List.mem_cons]

/-- Diagnostics of one place stand together in a sorted list, so it does not matter whether repetitions are
dropped before they are picked out or after. -/
theorem filter_dedup {start stop : Nat} {ds : List Diagnostic} (sorted : ds.Pairwise fun a b => a.precedes b = true) :
    (dedup ds).filter (isAt start stop) = dedup (ds.filter (isAt start stop)) := by
  fun_induction dedup ds with
  | case1 => rfl
  | case2 d =>
    by_cases here : isAt start stop d = true
    · rw [List.filter_cons_of_pos here]
      rfl
    · rw [List.filter_cons_of_neg here]
      rfl
  | case3 a ds ih =>
    rw [ih sorted.of_cons]
    by_cases here : isAt start stop a = true
    · rw [List.filter_cons_of_pos here, List.filter_cons_of_pos here, List.filter_cons_of_pos here, dedup,
        if_pos rfl]
    · rw [List.filter_cons_of_neg here, List.filter_cons_of_neg here, List.filter_cons_of_neg here]
  | case4 a b ds differ ih =>
    have rest := ih sorted.of_cons
    by_cases here : isAt start stop a = true
    · rw [List.filter_cons_of_pos here, List.filter_cons_of_pos here, rest]
      by_cases next : isAt start stop b = true
      · rw [List.filter_cons_of_pos next, dedup, if_neg differ]
      · -- The next one is at a later place, and so are all others.
        have later : (b :: ds).filter (isAt start stop) = [] := by
          refine List.filter_eq_nil_iff.mpr fun d member there => next ?_
          have first := precedes_iff.mp (List.rel_of_pairwise_cons sorted List.mem_cons_self)
          have second : b = d ∨ b.precedes d = true := by
            rcases List.mem_cons.mp member with same | deeper
            · exact Or.inl same.symm
            · exact Or.inr (List.rel_of_pairwise_cons sorted.of_cons deeper)
          rcases second with rfl | second
          · exact there
          · rw [precedes_iff] at second
            simp only [isAt, Bool.and_eq_true, beq_iff_eq] at here there ⊢
            omega
        rw [later]
        rfl
    · rw [List.filter_cons_of_neg here, List.filter_cons_of_neg here, rest]

/-- Sorting keeps the order of the diagnostics of one place. -/
theorem filter_mergeSort (start stop : Nat) (ds : List Diagnostic) :
    (ds.mergeSort precedes).filter (isAt start stop) = ds.filter (isAt start stop) := by
  have alike : (ds.filter (isAt start stop)).Pairwise fun a b => a.precedes b = true := by
    refine List.pairwise_of_forall_mem_list fun a member b member' => precedes_iff.mpr ?_
    have here := List.of_mem_filter member
    have there := List.of_mem_filter member'
    simp only [isAt, Bool.and_eq_true, beq_iff_eq] at here there
    omega
  have kept := (List.sublist_mergeSort precedes_trans precedes_total alike List.filter_sublist).filter
    (isAt start stop)
  simp only [List.filter_filter, Bool.and_self] at kept
  refine (kept.eq_of_length ?_).symm
  exact ((List.mergeSort_perm ds precedes).filter (isAt start stop)).length_eq.symm

/-- **Diagnostics are reported in their final order.** -/
theorem arranged_arrange (raw : List Diagnostic) : Arranged raw (arrange raw) := by
  have sorted := List.pairwise_mergeSort precedes_trans precedes_total raw
  refine ⟨?_, ?_, fun d => ?_, fun start stop => ?_⟩
  · rw [arrange, dedup_eq_destutter]
    exact (sorted.sublist (List.destutter_sublist _ _)).imp precedes_iff.mp
  · rw [arrange, dedup_eq_destutter]
    exact List.isChain_destutter _ _
  · rw [arrange, mem_dedup, List.mem_mergeSort]
  · rw [arrange, filter_dedup sorted, filter_mergeSort, dedup_eq_destutter]

end Diagnostic

/-! ### Compilations -/

theorem pointsInto_rawDiagnostics {text : String} {parsed : Parsed} {kind : ModuleKind} {d : Diagnostic}
    (member : d ∈ rawDiagnostics text parsed kind) : d.PointsInto text := by
  rcases List.mem_append.mp member with fault | await
  · obtain ⟨f, _, rfl⟩ := List.mem_map.mp fault
    exact Diagnostic.pointsInto_at ..
  · obtain ⟨s, _, rfl⟩ := List.mem_map.mp await
    exact Diagnostic.pointsInto_at ..

/-- **The diagnostics of a compilation point into the text and are in their final order**, which is about the raw list:
what the parser passed over, then the places that wait where nothing can be suspended. The error of a text that could
not be parsed is where a prefix of the text ends. All this holds whatever the parser reports. -/
theorem finish_diagnostics (text : String) (options : Options) :
    compile text options = finish text options ((Source.ofString (withoutMark text)).parse options.jsx) ∧
      (∀ parsed, ∃ output, finish text options (.ok parsed) = .ok output ∧
        (∀ d ∈ output.diagnostics, d.PointsInto text) ∧
        Diagnostic.Arranged
          (parsed.errors.map (fun f => Diagnostic.at_ f.fault.message f.span text) ++
            if parsed.program.isModule && options.module.usesRequire then
              parsed.program.topLevelAwaits.map fun s => Diagnostic.at_ Diagnostic.awaitMessage s text
            else [])
          output.diagnostics) ∧
      ∀ f, ∃ first, Reaches text.toList (f.span.offsets text.utf8ByteSize).1 first ∧
        finish text options (.error f) = .error (.parse f.fault.message (lineAfter first) (columnAfter first)) := by
  refine ⟨rfl, fun parsed => ?_, fun f => ?_⟩
  · have arranged := Diagnostic.arranged_arrange (rawDiagnostics text parsed options.module)
    refine ⟨_, rfl, fun d member => pointsInto_rawDiagnostics ((arranged.same d).mp member), ?_⟩
    have raw : rawDiagnostics text parsed options.module =
        parsed.errors.map (fun f => Diagnostic.at_ f.fault.message f.span text) ++
          if parsed.program.isModule && options.module.usesRequire then
            parsed.program.topLevelAwaits.map fun s => Diagnostic.at_ Diagnostic.awaitMessage s text
          else [] := by
      unfold rawDiagnostics
      split
      · rfl
      · rfl
    show Diagnostic.Arranged _ (diagnose text parsed options.module)
    rw [← raw]
    exact arranged
  · obtain ⟨ordered, inside⟩ := f.span.offsets_le text.utf8ByteSize
    obtain ⟨first, reaches, place⟩ := lineColumn_eq (ordered.trans inside)
    refine ⟨first, reaches, ?_⟩
    rw [finish]
    dsimp only
    rw [place]

end Detype
