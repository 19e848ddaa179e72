import Detype.Proofs.KindDiagnostics

/-
**Diagnostics that are reported twice.**

Diagnostics are listed by places, and of equal neighbours one is dropped. Those of one place keep their raw order, so
that two equal ones are both reported if something else about the same place was said in between.

* `sublist_destutter_iff` — what is left of a list contains all its subsequences without equal neighbours.
* `Diagnostic.Interrupts` — a diagnostic between two equal ones, at their place.
* `Diagnostic.twice_arrange_iff` — what is reported twice is what is interrupted.
* `interrupts_rawDiagnostics_iff` — awaits have no part in it.
* `nodup_arrange_iff` — which lists, and which texts, are reported without repetitions.
* `unclosedTry_repeats` — a text of which one thing is said twice.
-/

namespace Detype

/-! ### Lists without equal neighbours -/

variable {α : Type}

/-- Between two equal members of a list without equal neighbours there is another one. -/
theorem exists_between {l : List α} (distinct : l.IsChain (· ≠ ·)) {a : α} (twice : [a, a].Sublist l) :
    ∃ b, b ≠ a ∧ [a, b, a].Sublist l := by
  induction l with
  | nil => cases twice
  | cons c l ih =>
    cases twice with
    | cons _ later =>
      obtain ⟨b, other, between⟩ := ih distinct.tail later
      exact ⟨b, other, between.cons c⟩
    | cons_cons _ later =>
      cases l with
      | nil => cases later
      | cons b l =>
        have other : b ≠ a := (List.isChain_cons_cons.mp distinct).1.symm
        cases later with
        | cons _ later => exact ⟨b, other, (later.cons_cons b).cons_cons a⟩
        | cons_cons => exact absurd rfl other

variable [DecidableEq α]

/-- Dropping repetitions keeps every subsequence that has no equal neighbours itself. -/
theorem sublist_destutter_iff {part l : List α} (distinct : part.IsChain (· ≠ ·)) :
    part.Sublist (l.destutter (· ≠ ·)) ↔ part.Sublist l := by
  refine ⟨fun sub => sub.trans (List.destutter_sublist _ l), fun sub => ?_⟩
  induction l generalizing part with
  | nil => exact sub
  | cons a l ih =>
    cases l with
    | nil => exact sub
    | cons b l =>
      rw [List.destutter_cons_cons]
      by_cases differ : a ≠ b
      · rw [if_pos differ]
        cases sub with
        | cons _ later => exact (ih distinct later).cons a
        | cons_cons _ later => exact (ih distinct.tail later).cons_cons a
      · rw [if_neg differ]
        obtain rfl := not_not.mp differ
        refine ih distinct ?_
        cases sub with
        | cons _ later => exact later
        | cons_cons _ later =>
          -- The part goes on with something else, which is behind the second of the two.
          cases later with
          | cons _ later => exact later.cons_cons a
          | cons_cons _ later => exact absurd rfl (List.isChain_cons_cons.mp distinct).1

/-- **What is left twice of a list** is what has something else between two of its occurrences. -/
theorem twice_destutter_iff {l : List α} {a : α} :
    [a, a].Sublist (l.destutter (· ≠ ·)) ↔ ∃ b, b ≠ a ∧ [a, b, a].Sublist l := by
  constructor
  · intro twice
    obtain ⟨b, other, between⟩ := exists_between (List.isChain_destutter _ l) twice
    exact ⟨b, other, between.trans (List.destutter_sublist _ l)⟩
  · rintro ⟨b, other, between⟩
    have distinct : [a, b, a].IsChain (· ≠ ·) := by simp [other, other.symm]
    have ends : [a, a].Sublist [a, b, a] := ((List.Sublist.refl [a]).cons b).cons_cons a
    exact ends.trans ((sublist_destutter_iff distinct).mpr between)

/-! ### Arranged diagnostics -/

namespace Diagnostic

/-- Another diagnostic that stands between two equal ones and is about the same place. -/
structure Interrupts (b d : Diagnostic) (raw : List Diagnostic) : Prop where
  other : b ≠ d
  starts : b.start = d.start
  stops : b.stop = d.stop
  between : [d, b, d].Sublist raw

/-- A subsequence about one place is one of what the list has at this place. -/
theorem sublist_filter_iff {start stop : Nat} {part ds : List Diagnostic}
    (here : ∀ d ∈ part, isAt start stop d = true) : part.Sublist (ds.filter (isAt start stop)) ↔ part.Sublist ds := by
  refine ⟨fun sub => sub.trans List.filter_sublist, fun sub => ?_⟩
  have filtered := sub.filter (isAt start stop)
  rwa [List.filter_eq_self.mpr here] at filtered

/-- **What is reported twice** is what is interrupted in the raw list. -/
theorem twice_arrange_iff {raw : List Diagnostic} {d : Diagnostic} :
    [d, d].Sublist (arrange raw) ↔ ∃ b : Diagnostic, b.Interrupts d raw := by
  have here : ∀ x ∈ [d, d], isAt d.start d.stop x = true := by simp [isAt_self]
  rw [← sublist_filter_iff here, (arranged_arrange raw).stable, twice_destutter_iff]
  refine exists_congr fun b => ⟨fun ⟨other, between⟩ => ?_, fun interrupts => ⟨interrupts.other, ?_⟩⟩
  · have beside : isAt d.start d.stop b = true := List.of_mem_filter (between.subset (by simp))
    rw [isAt, Bool.and_eq_true, beq_iff_eq, beq_iff_eq] at beside
    exact ⟨other, beside.1, beside.2, between.trans List.filter_sublist⟩
  · refine (sublist_filter_iff ?_).mpr interrupts.between
    simp [isAt, interrupts.starts, interrupts.stops]

theorem nodup_arrange {raw : List Diagnostic} :
    (arrange raw).Nodup ↔ ∀ b d : Diagnostic, ¬ b.Interrupts d raw := by
  rw [List.nodup_iff_sublist, forall_comm]
  refine forall_congr' fun d => ?_
  rw [twice_arrange_iff, not_exists]

end Diagnostic

/-! ### Texts -/

/-- **Only faults are interrupted, and only by faults**: those of awaits come last and are the same at one place. -/
theorem interrupts_rawDiagnostics_iff {text : String} {parsed : Parsed} {kind : ModuleKind} {b d : Diagnostic} :
    b.Interrupts d (rawDiagnostics text parsed kind) ↔ b.Interrupts d (faultDiagnostics text parsed) := by
  obtain ⟨awaits, raw, dropped⟩ := rawDiagnostics_eq_append text parsed kind
  have unlike : ∀ x ∈ faultDiagnostics text parsed, x ∉ awaits := by
    intro x fault await
    have other := dropped x await
    rw [isFault_of_mem text parsed fault] at other
    cases other
  constructor
  · rintro ⟨other, starts, stops, between⟩
    refine ⟨other, starts, stops, ?_⟩
    rw [raw] at between
    obtain ⟨front, back, split, faults, waits⟩ := List.sublist_append_iff.mp between
    rcases List.eq_nil_or_concat back with rfl | ⟨before, last, rfl⟩
    · rw [split, List.append_nil]
      exact faults
    · -- The last of the three is an await, so the first is, and all three are.
      have ends := congrArg List.getLast? split
      simp only [List.getLast?_cons_cons, List.getLast?_singleton, List.concat_eq_append, List.getLast?_append,
        Option.some_or, Option.some.injEq] at ends
      obtain rfl := ends
      have await : d ∈ awaits := waits.subset (by simp)
      cases front with
      | cons x front =>
        obtain ⟨rfl, _⟩ := List.cons.inj split
        exact absurd await (unlike d (faults.subset List.mem_cons_self))
      | nil =>
        rw [List.nil_append] at split
        have await' : b ∈ awaits := waits.subset (by rw [← split]; simp)
        have points : ∀ x ∈ awaits, x.PointsInto text := by
          intro x member
          have listed : x ∈ rawDiagnostics text parsed kind := by
            rw [raw]
            exact List.mem_append_right _ member
          exact pointsInto_rawDiagnostics listed
        have messages : b.message = d.message := by
          have first := dropped b await'
          have second := dropped d await
          simp only [Diagnostic.isFault, bne_eq_false_iff_eq] at first second
          rw [first, second]
        exact absurd ((points b await').ext (points d await) messages starts stops) other
  · rintro ⟨other, starts, stops, between⟩
    rw [raw]
    exact ⟨other, starts, stops, between.trans (List.sublist_append_left _ _)⟩

/-- **Which diagnostics are reported twice.** Of any raw list, those are reported twice that another one about their
place interrupts, and nothing is if none is interrupted; of a text, only faults can be reported twice. -/
theorem nodup_arrange_iff (raw : List Diagnostic) (text : String) (parsed : Parsed) (kind : ModuleKind) :
    (∀ d : Diagnostic, [d, d].Sublist (Diagnostic.arrange raw) ↔ ∃ b : Diagnostic, b.Interrupts d raw) ∧
      ((Diagnostic.arrange raw).Nodup ↔ ∀ b d : Diagnostic, ¬ b.Interrupts d raw) ∧
      ((diagnose text parsed kind).Nodup ↔ ∀ b d : Diagnostic, ¬ b.Interrupts d (faultDiagnostics text parsed)) := by
  refine ⟨fun d => Diagnostic.twice_arrange_iff, Diagnostic.nodup_arrange, ?_⟩
  unfold diagnose
  rw [Diagnostic.nodup_arrange]
  exact forall₂_congr fun b d => not_congr interrupts_rawDiagnostics_iff

/-- A text that ends inside two blocks, the inner one without a handler. -/
def unclosedTry : String := "function f() \x7b try \x7b"

/-- A fault of that text at its end. -/
def faultAtEnd (fault : Fault) : Diagnostic := .at_ fault.message ⟨21, 21⟩ unclosedTry

/-- **Not every text is reported without repetitions**: that this one ends without a brace is said of both blocks, and
between the two that the inner one is not handled. -/
theorem unclosedTry_repeats : ∃ output, compile unclosedTry {} = .ok output ∧ ¬ output.diagnostics.Nodup := by
  have read : ((Source.ofString (withoutMark unclosedTry)).parse false).toOption.map
      (fun parsed => parsed.errors.map fun f => (f.fault.message, f.span)) =
        some ([.expected "\x7d" "<eof>", .semicolonExpected, .expected "\x7d" "<eof>"].map fun f : Fault =>
          (f.message, ⟨21, 21⟩)) := by decide +kernel
  obtain ⟨parsed, reads, errors⟩ := Option.map_eq_some_iff.mp read
  rcases @compile_cases unclosedTry {} _ rfl with ⟨f, fails, _⟩ | ⟨parsed', reads', output, done, found⟩
  · rw [fails] at reads
    cases reads
  · rw [reads'] at reads
    obtain rfl := Option.some.inj reads
    have said : faultDiagnostics unclosedTry parsed' =
        [faultAtEnd (.expected "\x7d" "<eof>"), faultAtEnd .semicolonExpected, faultAtEnd (.expected "\x7d" "<eof>")] := by
      have mapped := congrArg (List.map fun x : String × Span => Diagnostic.at_ x.1 x.2 unclosedTry) errors
      rwa [List.map_map] at mapped
    have interrupts : (faultAtEnd .semicolonExpected).Interrupts (faultAtEnd (.expected "\x7d" "<eof>"))
        (faultDiagnostics unclosedTry parsed') := by
      refine ⟨fun same => ?_, rfl, rfl, by rw [said]⟩
      exact absurd (congrArg Diagnostic.message same) (by decide +kernel)
    refine ⟨output, done, fun single => ?_⟩
    rw [found] at single
    exact Diagnostic.nodup_arrange.mp single _ _ (interrupts_rawDiagnostics_iff.mpr interrupts)

end Detype
