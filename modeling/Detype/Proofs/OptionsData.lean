import Detype.Options
import Detype.Proofs.Json.Compact

/-
**Options as data.**

Options are written as an object of six fields. They are read back from an object that has any of these fields, in any
order and among any others, and a field that is left out has its default.

* `Options.fields` — the fields that options are written as.
* `Options.onto` — options with some fields taken from others; `Options.keeping` — the rest being defaults.
* `Options.setField_own`, `Options.setField_unknown` — what one entry sets; `Options.foldlM_setField` — what many set.
* `Options.ofJson_of_arranged` — what an object gives; `Options.GivenBy` — options that a text gives.
* `Options.readBack` — objects with fields of some options give these fields, and what options are written as gives
  them.
-/

namespace Detype

theorem ModuleKind.ofJson_name (kind : ModuleKind) : ofJson (.str kind.name) = .ok kind := by
  cases kind <;> rfl

theorem Interop.ofJson_name (interop : Interop) : ofJson (.str interop.name) = .ok interop := by
  cases interop <;> rfl

namespace Options

/-! ### Fields -/

/-- The fields that options are written as. -/
def fields (o : Options) : List (String × Json) :=
  match o.toJson with
  | .obj entries => entries
  | _ => []

theorem toJson_eq (o : Options) : o.toJson = .obj o.fields := rfl

theorem map_fst_fields (o : Options) : o.fields.map Prod.fst = fieldNames := rfl

/-- Options with the fields of some names taken from others. -/
def onto (o base : Options) (kept : String → Bool) : Options where
  module := if kept "module" then o.module else base.module
  fileName := if kept "fileName" then o.fileName else base.fileName
  jsx := if kept "jsx" then o.jsx else base.jsx
  sourceMap := if kept "sourceMap" then o.sourceMap else base.sourceMap
  importInterop := if kept "importInterop" then o.importInterop else base.importInterop
  experimentalDecorators :=
    if kept "experimentalDecorators" then o.experimentalDecorators else base.experimentalDecorators

/-- Options with the defaults in all fields but those of some names. -/
def keeping (o : Options) (kept : String → Bool) : Options := o.onto {} kept

/-- Only the names of fields matter. -/
theorem onto_congr (o base : Options) {kept kept' : String → Bool}
    (same : ∀ name ∈ fieldNames, kept name = kept' name) : o.onto base kept = o.onto base kept' := by
  simp only [fieldNames, List.forall_mem_cons, List.not_mem_nil, false_implies, implies_true, and_true] at same
  simp only [onto, same]

theorem onto_none (o base : Options) : o.onto base (fun _ => false) = base := rfl

theorem onto_all (o base : Options) : o.onto base (fun _ => true) = o := rfl

/-- Taking some fields and then some more. -/
theorem onto_onto (o base : Options) (kept more : String → Bool) :
    o.onto (o.onto base kept) more = o.onto base fun name => kept name || more name := by
  have step : ∀ {α : Type} (a b : α) (p q : Bool),
      (if q = true then a else if p = true then a else b) = if (p || q) = true then a else b := by
    intro α a b p q
    cases p <;> cases q <;> rfl
  simp only [onto, step]

/-! ### Entries -/

/-- **A field sets what it was written for.** -/
theorem setField_own {o : Options} {name : String} {v : Json} (own : (name, v) ∈ o.fields) (base : Options) :
    base.setField name v = .ok (o.onto base (name == ·)) := by
  simp only [fields, toJson, List.mem_cons, Prod.mk.injEq, List.not_mem_nil, or_false] at own
  rcases own with ⟨rfl, rfl⟩ | ⟨rfl, rfl⟩ | ⟨rfl, rfl⟩ | ⟨rfl, rfl⟩ | ⟨rfl, rfl⟩ | ⟨rfl, rfl⟩
  · rw [setField, ModuleKind.ofJson_name]
    rfl
  · rw [setField, onto]
    cases o.fileName <;> rfl
  · rfl
  · rfl
  · rw [setField, Interop.ofJson_name]
    rfl
  · rfl

theorem setField_unknown {name : String} (unknown : name ∉ fieldNames) (base : Options) (v : Json) :
    base.setField name v = .ok base := by
  unfold setField
  split <;> first | rfl | exact absurd (by decide) unknown

/-- The entries of an object have a name. -/
def named (entries : List (String × Json)) (name : String) : Bool := entries.any (·.1 == name)

/-- **Entries whose known fields are those of some options set just these.** By induction on the entries: each sets its
own field, and an unknown one sets none. -/
theorem foldlM_setField {o : Options} {entries : List (String × Json)}
    (own : ∀ e ∈ entries, e.1 ∈ fieldNames → e ∈ o.fields) (base : Options) :
    entries.foldlM (fun o (e : String × Json) => o.setField e.1 e.2) base = .ok (o.onto base (named entries)) := by
  induction entries generalizing base with
  | nil => rfl
  | cons e entries ih =>
    have rest := fun base => ih (fun f member => own f (List.mem_cons_of_mem e member)) base
    have step : base.setField e.1 e.2 = .ok (o.onto base (e.1 == ·)) := by
      by_cases known : e.1 ∈ fieldNames
      · exact setField_own (own e List.mem_cons_self known) base
      · have other : o.onto base (e.1 == ·) = o.onto base fun _ => false :=
          onto_congr o base fun name member => beq_eq_false_iff_ne.mpr fun same => known (same ▸ member)
        rw [setField_unknown known, other, onto_none]
    rw [List.foldlM_cons, step]
    show entries.foldlM _ (o.onto base _) = _
    rw [rest, onto_onto]
    rfl

/-! ### Objects -/

section Arranged

variable {o : Options} {kept : String → Bool} {others entries : List (String × Json)}
  (unknown : ∀ e ∈ others, e.1 ∉ fieldNames) (arranged : entries.Perm (o.fields.filter (kept ·.1) ++ others))

include unknown arranged

/-- The known entries of an object of some fields of options and others are these fields. -/
theorem mem_fields_of_arranged : ∀ e ∈ entries, e.1 ∈ fieldNames → e ∈ o.fields := by
  intro e member known
  rcases List.mem_append.mp (arranged.mem_iff.mp member) with field | other
  · exact List.mem_of_mem_filter field
  · exact absurd known (unknown e other)

/-- The names of fields that such an object has. -/
theorem named_of_arranged : ∀ name ∈ fieldNames, named entries name = kept name := by
  intro name known
  have absent : others.any (·.1 == name) = false := by
    rw [List.any_eq_false]
    exact fun e member same => unknown e member (beq_iff_eq.mp same ▸ known)
  have field : (o.fields.any fun e => kept e.1 && e.1 == name) = fieldNames.any fun n => kept n && n == name := by
    rw [← map_fst_fields o, List.any_map]
    rfl
  rw [named, arranged.any_eq, List.any_append, absent, Bool.or_false, List.any_filter, field, Bool.eq_iff_iff,
    List.any_eq_true]
  simp only [Bool.and_eq_true, beq_iff_eq]
  exact ⟨fun ⟨_, _, holds, same⟩ => same ▸ holds, fun holds => ⟨name, known, holds, rfl⟩⟩

/-- **An object of some fields of options and others gives these fields.** Its entries are sorted before they are read,
but the order plays no part. -/
theorem ofJson_of_arranged : ofJson (.obj entries) = .ok (o.keeping kept) := by
  have sorted := (List.mergeSort_perm entries fun a b => decide (a.1 ≤ b.1)).trans arranged
  rw [ofJson]
  exact (foldlM_setField (mem_fields_of_arranged unknown sorted) {}).trans
    (congrArg Except.ok (onto_congr o {} (named_of_arranged unknown sorted)))

end Arranged

/-- What options are written as gives them. -/
theorem ofJson_toJson (o : Options) : ofJson o.toJson = .ok o := by
  have whole : o.fields.Perm (o.fields.filter (fun _ => true) ++ []) := by
    rw [List.filter_true, List.append_nil]
  rw [toJson_eq]
  exact (ofJson_of_arranged (by simp) whole).trans (congrArg Except.ok (onto_all o {}))

theorem proper_toJson (o : Options) : o.toJson.Proper := by
  refine .obj fun e member => ?_
  simp only [List.mem_cons, List.not_mem_nil, or_false] at member
  rcases member with rfl | rfl | rfl | rfl | rfl | rfl
  · exact .str _
  · cases o.fileName with
    | none => exact .null
    | some name => exact .str name
  · exact .bool _
  · exact .bool _
  · exact .str _
  · exact .bool _

/-! ### Texts -/

/-- A text gives options: it is JSON text of a value, and this value gives them. -/
def GivenBy (text : String) (o : Options) : Prop := ∃ j, Json.Tells text j ∧ ofJson j = .ok o

/-- A text of a value gives the options that the value gives, and no others. -/
theorem givenBy_iff {text : String} {j : Json} {o : Options} (tells : Json.Tells text j) (given : ofJson j = .ok o)
    (o' : Options) : GivenBy text o' ↔ o' = o := by
  constructor
  · rintro ⟨j', tells', given'⟩
    rw [tells'.unique tells, given] at given'
    exact (Except.ok.inj given').symm
  · rintro rfl
    exact ⟨j, tells, given⟩

/-- **Options are read back.** An object that has some fields of options, in any order and among entries with other
names, gives these fields and the defaults in the others, as every JSON text of it does. And options are given by what
they are written as, on one line or on several. -/
theorem readBack :
    (∀ (o : Options) (kept : String → Bool) (others entries : List (String × Json)),
      (∀ e ∈ others, e.1 ∉ fieldNames) → entries.Perm (o.fields.filter (kept ·.1) ++ others) →
        ofJson (.obj entries) = .ok (o.keeping kept) ∧
        ∀ text, Json.Tells text (.obj entries) → ∀ given, GivenBy text given ↔ given = o.keeping kept) ∧
    ∀ o : Options,
      ofJson o.toJson = .ok o ∧ GivenBy (Json.compact o.toJson) o ∧ GivenBy (Json.pretty 0 o.toJson) o := by
  refine ⟨fun o kept others entries unknown arranged => ?_, fun o => ?_⟩
  · have given := ofJson_of_arranged unknown arranged
    exact ⟨given, fun text tells => givenBy_iff tells given⟩
  · have proper := proper_toJson o
    exact ⟨ofJson_toJson o, ⟨_, proper.tells_compact, ofJson_toJson o⟩, _, proper.tells_pretty 0, ofJson_toJson o⟩

/-- Of an object with two fields of options, in the other order and around one that is unknown, the two are read. A file
name with a quote and a line feed is read back from its text. -/
theorem twoFields_given :
    ofJson (.obj [("sourceMap", .bool true), ("strict", .arr [.null]), ("module", .str "amd")]) =
        .ok { module := .amd, sourceMap := true } ∧
      GivenBy (Json.compact (toJson { fileName := some "a\"\n.tsx" })) { fileName := some "a\"\n.tsx" } := by
  have arranged : [("sourceMap", Json.bool true), ("strict", .arr [.null]), ("module", .str "amd")].Perm
      ((fields { module := .amd, fileName := some "a.tsx", jsx := true, sourceMap := true }).filter
        (["module", "sourceMap"].contains ·.1) ++ [("strict", .arr [.null])]) :=
    @List.perm_append_comm (String × Json) [("sourceMap", .bool true), ("strict", .arr [.null])]
      [("module", .str "amd")]
  exact ⟨(readBack.1 _ (["module", "sourceMap"].contains ·) _ _ (by decide) arranged).1, (readBack.2 _).2.1⟩

end Options

end Detype
