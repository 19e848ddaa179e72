import Detype.Proofs.Diagnostics
import Detype.Proofs.Influence

/-
**Diagnostics of one text under several module kinds.**

The module kind has no part in reading a text. It decides only whether places that wait outside every function are
reported, and that adds diagnostics to the others without moving or merging any of them.

* `eq_of_places` — a sorted list of diagnostics is determined by what it has at each place.
* `filter_destutter_append` — entries behind others do not change which of those are repetitions.
* `arrange_filter` — the diagnostics without those of awaits are the arranged faults.
* `Fault.message_ne_awaitMessage` — no fault of the parser reads like an await.
* `compile_diagnostics_of_kinds` — what two options that read JSX alike give on one text.
-/

namespace Detype

/-! ### Lists without repetitions -/

/-- Entries behind others do not change which of those are repetitions. -/
theorem filter_destutter_append {α : Type} [DecidableEq α] {keep : α → Bool} {front back : List α}
    (kept : ∀ a ∈ front, keep a = true) (dropped : ∀ a ∈ back, keep a = false) :
    ((front ++ back).destutter (· ≠ ·)).filter keep = front.destutter (· ≠ ·) := by
  have nothing : (back.destutter (· ≠ ·)).filter keep = [] := by
    refine List.filter_eq_nil_iff.mpr fun a member => ?_
    rw [dropped a ((List.destutter_sublist _ back).subset member)]
    exact Bool.false_ne_true
  induction front with
  | nil => exact nothing
  | cons a front ih =>
    have rest := ih fun b member => kept b (List.mem_cons_of_mem a member)
    cases front with
    | nil =>
      cases back with
      | nil => simp [kept a]
      | cons b back =>
        have differ : a ≠ b := by
          rintro rfl
          have here := dropped a List.mem_cons_self
          rw [kept a List.mem_cons_self] at here
          cases here
        rw [List.singleton_append, List.destutter_cons_cons, if_pos differ,
          List.filter_cons_of_pos (kept a List.mem_cons_self), List.destutter_singleton]
        exact congrArg (a :: ·) nothing
    | cons b front =>
      rw [List.cons_append, List.cons_append, List.destutter_cons_cons, List.destutter_cons_cons]
      by_cases differ : a ≠ b
      · rw [if_pos differ, if_pos differ, List.filter_cons_of_pos (kept a List.mem_cons_self)]
        exact congrArg (a :: ·) rest
      · rw [if_neg differ, if_neg differ]
        obtain rfl := not_not.mp differ
        exact rest

namespace Diagnostic

/-! ### Sorted lists and their places -/

theorem isAt_self (d : Diagnostic) : isAt d.start d.stop d = true := by simp [isAt]

/-- The first of a sorted list is at no later place than another member. -/
theorem precedes_of_head {a d : Diagnostic} {ds : List Diagnostic}
    (sorted : (a :: ds).Pairwise fun a b => a.precedes b = true) (member : d ∈ a :: ds) : a.precedes d = true := by
  rcases List.mem_cons.mp member with rfl | later
  · exact precedes_iff.mpr (Or.inr ⟨rfl, le_rfl⟩)
  · exact List.rel_of_pairwise_cons sorted later

/-- A diagnostic is at the place of a member of another list, if both lists have the same at each place. -/
theorem exists_mem_at {ds ds' : List Diagnostic}
    (same : ∀ start stop, ds.filter (isAt start stop) = ds'.filter (isAt start stop)) {d : Diagnostic}
    (member : d ∈ ds) : d ∈ ds' := by
  have there : d ∈ ds.filter (isAt d.start d.stop) := List.mem_filter.mpr ⟨member, isAt_self d⟩
  rw [same] at there
  exact List.mem_of_mem_filter there

/-- **A sorted list is determined by what it has at each place.** -/
theorem eq_of_places {ds ds' : List Diagnostic} (sorted : ds.Pairwise fun a b => a.precedes b = true)
    (sorted' : ds'.Pairwise fun a b => a.precedes b = true)
    (same : ∀ start stop, ds.filter (isAt start stop) = ds'.filter (isAt start stop)) : ds = ds' := by
  induction ds generalizing ds' with
  | nil =>
    cases ds' with
    | nil => rfl
    | cons b ds' => cases exists_mem_at (fun start stop => (same start stop).symm) List.mem_cons_self
  | cons a ds ih =>
    cases ds' with
    | nil => cases exists_mem_at same List.mem_cons_self
    | cons b ds' =>
      -- Each head is in the other list, so both are at one place, and there they are the first.
      have forth := precedes_iff.mp
        (precedes_of_head sorted (exists_mem_at (fun start stop => (same start stop).symm) List.mem_cons_self))
      have back := precedes_iff.mp (precedes_of_head sorted' (exists_mem_at same List.mem_cons_self))
      have beside : isAt a.start a.stop b = true := by
        simp only [isAt, Bool.and_eq_true, beq_iff_eq]
        omega
      have heads := same a.start a.stop
      rw [List.filter_cons_of_pos (isAt_self a), List.filter_cons_of_pos beside] at heads
      obtain rfl := (List.cons.inj heads).1
      refine congrArg (a :: ·) (ih sorted.of_cons sorted'.of_cons fun start stop => ?_)
      have both := same start stop
      by_cases here : isAt start stop a = true
      · rw [List.filter_cons_of_pos here, List.filter_cons_of_pos here] at both
        exact (List.cons.inj both).2
      · rwa [List.filter_cons_of_neg here, List.filter_cons_of_neg here] at both

/-- **Diagnostics that come last in the raw list do not change what is reported of the others.** -/
theorem arrange_filter {keep : Diagnostic → Bool} {front back : List Diagnostic}
    (kept : ∀ d ∈ front, keep d = true) (dropped : ∀ d ∈ back, keep d = false) :
    (arrange (front ++ back)).filter keep = arrange front := by
  have whole := arranged_arrange (front ++ back)
  have part := arranged_arrange front
  refine eq_of_places ((whole.sorted.imp precedes_iff.mpr).sublist List.filter_sublist)
    (part.sorted.imp precedes_iff.mpr) fun start stop => ?_
  calc ((arrange (front ++ back)).filter keep).filter (isAt start stop)
      = ((arrange (front ++ back)).filter (isAt start stop)).filter keep := List.filter_comm ..
    _ = ((front.filter (isAt start stop) ++ back.filter (isAt start stop)).destutter (· ≠ ·)).filter keep := by
        rw [whole.stable, List.filter_append]
    _ = (front.filter (isAt start stop)).destutter (· ≠ ·) :=
        filter_destutter_append (fun d member => kept d (List.mem_of_mem_filter member))
          (fun d member => dropped d (List.mem_of_mem_filter member))
    _ = (arrange front).filter (isAt start stop) := (part.stable start stop).symm

end Diagnostic

/-! ### Faults and awaits -/

/-- **No fault of the parser reads like an await**: none begins with its first two letters. -/
theorem Fault.message_ne_awaitMessage (f : Fault) : f.message ≠ Diagnostic.awaitMessage := by
  intro same
  have starts : f.message.toList.take 2 = ['T', 'o'] := by
    rw [same, Diagnostic.awaitMessage, String.toList_ofList]
    rfl
  clear same
  unfold Fault.message at starts
  cases f
  all_goals
    dsimp only at starts
    repeat rw [String.toList_append] at starts
    repeat rw [String.toList_ofList] at starts
    simp only [List.cons_append, List.take_succ_cons, List.cons.injEq, Char.reduceEq, false_and, and_false] at starts

/-- Whether a diagnostic is not one of an await. -/
def Diagnostic.isFault (d : Diagnostic) : Bool := d.message != Diagnostic.awaitMessage

section Raw

variable (text : String) (parsed : Parsed)

/-- The diagnostics of the faults that the parser passed over. -/
def faultDiagnostics : List Diagnostic :=
  parsed.errors.map fun f => Diagnostic.at_ f.fault.message f.span text

theorem isFault_of_mem {d : Diagnostic} (member : d ∈ faultDiagnostics text parsed) : d.isFault = true := by
  obtain ⟨f, _, rfl⟩ := List.mem_map.mp member
  exact bne_iff_ne.mpr (Fault.message_ne_awaitMessage f.fault)

/-- Where modules are not loaded by `require` there are the faults only. -/
theorem rawDiagnostics_of_not_usesRequire {kind : ModuleKind} (other : kind.usesRequire = false) :
    rawDiagnostics text parsed kind = faultDiagnostics text parsed := by
  unfold rawDiagnostics faultDiagnostics
  simp [other]

/-- Where modules are loaded by `require` the awaits come behind the faults. -/
theorem rawDiagnostics_eq_append (kind : ModuleKind) :
    ∃ awaits, rawDiagnostics text parsed kind = faultDiagnostics text parsed ++ awaits ∧
      ∀ d ∈ awaits, d.isFault = false := by
  refine ⟨_, rfl, fun d member => ?_⟩
  obtain ⟨s, _, rfl⟩ := List.mem_map.mp member
  simp [Diagnostic.isFault, Diagnostic.at_]

/-- **The diagnostics without those of awaits are those of the other kinds.** -/
theorem diagnose_filter {kind other : ModuleKind} (silent : other.usesRequire = false) :
    (diagnose text parsed kind).filter Diagnostic.isFault = diagnose text parsed other := by
  obtain ⟨awaits, raw, dropped⟩ := rawDiagnostics_eq_append text parsed kind
  unfold diagnose
  rw [raw, rawDiagnostics_of_not_usesRequire text parsed silent]
  exact Diagnostic.arrange_filter (fun d => isFault_of_mem text parsed) dropped

/-- Kinds that load modules alike give the same diagnostics. -/
theorem diagnose_congr {kind kind' : ModuleKind} (alike : kind'.usesRequire = kind.usesRequire) :
    diagnose text parsed kind' = diagnose text parsed kind := by
  unfold diagnose rawDiagnostics
  rw [alike]

end Raw

/-! ### Compilations -/

/-- How a compilation goes, given what the parser made of the text. -/
theorem compile_cases {text : String} {o : Options} {parse : Except FaultAt Parsed}
    (read : (Source.ofString (withoutMark text)).parse o.jsx = parse) :
    (∃ f, parse = .error f ∧ ∃ line column, compile text o = .error (.parse f.fault.message line column) ∧
      (line, column) = lineColumn text.toList (f.span.offsets text.utf8ByteSize).1) ∨
    ∃ parsed, parse = .ok parsed ∧
      ∃ output, compile text o = .ok output ∧ output.diagnostics = diagnose text parsed o.module := by
  unfold compile
  rw [read]
  cases parse with
  | error f => exact Or.inl ⟨f, rfl, _, _, rfl, rfl⟩
  | ok parsed => exact Or.inr ⟨parsed, rfl, _, rfl, rfl⟩

/-- **What two options that read JSX alike give on one text**: the same error, if it cannot be parsed; the same
diagnostics, if their kinds are of one group; and if only the first reports awaits, then its diagnostics in order
without those of awaits for the second. -/
theorem compile_diagnostics_of_kinds {o o' : Options} (jsx : o'.jsx = o.jsx) (text : String) :
    (∀ message line column,
      compile text o = .error (.parse message line column) ↔ compile text o' = .error (.parse message line column)) ∧
    ∀ output output', compile text o = .ok output → compile text o' = .ok output' →
      (o.module ∈ [ModuleKind.commonJs, .amd, .umd] → o'.module ∈ [ModuleKind.commonJs, .amd, .umd] →
        output'.diagnostics = output.diagnostics) ∧
      (o.module ∈ [ModuleKind.system, .esModule] → o'.module ∈ [ModuleKind.system, .esModule] →
        output'.diagnostics = output.diagnostics) ∧
      (o.module ∈ [ModuleKind.commonJs, .amd, .umd] → o'.module ∈ [ModuleKind.system, .esModule] →
        output'.diagnostics = output.diagnostics.filter fun d => d.message ≠ Diagnostic.awaitMessage) := by
  have read : (Source.ofString (withoutMark text)).parse o'.jsx = (Source.ofString (withoutMark text)).parse o.jsx := by
    rw [jsx]
  rcases compile_cases (o := o) rfl with ⟨f, fails, line, column, failed, place⟩ | ⟨parsed, reads, output, done, found⟩
  · rcases compile_cases read with ⟨f', fails', line', column', failed', place'⟩ | ⟨parsed, reads, _⟩
    · obtain rfl : f = f' := Except.error.inj (fails.symm.trans fails')
      obtain ⟨rfl, rfl⟩ := Prod.mk.inj (place.trans place'.symm)
      refine ⟨fun _ _ _ => by rw [failed, failed'], fun _ _ done => ?_⟩
      rw [failed] at done
      cases done
    · cases fails.symm.trans reads
  · rcases compile_cases read with ⟨f, fails, _⟩ | ⟨parsed', reads', output', done', found'⟩
    · cases reads.symm.trans fails
    · obtain rfl : parsed = parsed' := Except.ok.inj (reads.symm.trans reads')
      refine ⟨fun _ _ _ => by simp [done, done'], ?_⟩
      rintro _ _ given given'
      obtain rfl := Except.ok.inj (done.symm.trans given)
      obtain rfl := Except.ok.inj (done'.symm.trans given')
      rw [found, found']
      refine ⟨fun kind kind' => ?_, fun kind kind' => ?_, fun _ kind' => ?_⟩
      · exact diagnose_congr text parsed
          ((ModuleKind.usesRequire_iff.mpr kind').trans (ModuleKind.usesRequire_iff.mpr kind).symm)
      · exact diagnose_congr text parsed
          ((ModuleKind.not_usesRequire_iff.mpr kind').trans (ModuleKind.not_usesRequire_iff.mpr kind).symm)
      · have filtered := @diagnose_filter text parsed o.module _ (ModuleKind.not_usesRequire_iff.mpr kind')
        refine filtered.symm.trans (List.filter_congr fun d _ => ?_)
        simp [Diagnostic.isFault, bne]
        rfl

theorem exists_output_of_isOk {text : String} {o : Options} (fine : (compile text o).isOk = true) :
    ∃ output, compile text o = .ok output := by
  cases result : compile text o with
  | ok output => exact ⟨output, rfl⟩
  | error e =>
    rw [result] at fine
    cases fine

/-- A module with a fault and an await: as a module of the language it has the fault only. -/
theorem awaitBesideFault_diagnostics :
    ∃ output output', compile "export {}; const a; await a;" {} = .ok output ∧
      compile "export {}; const a; await a;" { module := .esModule } = .ok output' ∧
      output'.diagnostics = output.diagnostics.filter fun d => d.message ≠ Diagnostic.awaitMessage := by
  obtain ⟨output, done⟩ := @exists_output_of_isOk "export {}; const a; await a;" {} (by decide +kernel)
  obtain ⟨output', done'⟩ :=
    @exists_output_of_isOk "export {}; const a; await a;" { module := .esModule } (by decide +kernel)
  have kinds := (@compile_diagnostics_of_kinds {} { module := .esModule } rfl "export {}; const a; await a;").2
  exact ⟨output, output', done, done', (kinds output output' done done').2.2 (by decide) (by decide)⟩

end Detype
