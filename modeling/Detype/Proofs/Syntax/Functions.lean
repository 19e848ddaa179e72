import Mathlib.Data.List.Infix
import Detype.Proofs.KindDiagnostics
import Detype.Proofs.Syntax.Waits

/-
**Awaits in functions.**

Of a function its parameters and its body run when it is called; its key and its decorators, and those of its
parameters, run where it stands. Types never run. The search for top-level `await` draws the line elsewhere: it does
not count constructors and accessors of objects as functions, and it counts functions with their decorators.

* `Subtree.parts?` — the parts of a function of any form.
* `Subtree.Passes` — what a way passes through; `InBody`, `Deferred` and the others are cases of it.
* `Subtree.waits_iff` — what is found are the waiting nodes to which no way through a counted function leads.
* `topLevelAwaits_inBody` — which of the places found lie in the body of a function.
* `topLevelAwaits_evaluated` — which places that are evaluated with the module are found.
* `constructorAwait_found`, `decoratorAwait_not_found` — texts on which the two lines differ.
-/

namespace Detype

/-! ### Parts of functions -/

/-- What a part of a function is to it. -/
inductive FunctionPart where
  | key | param | decorator | body | type
deriving DecidableEq

namespace Subtree

/-- The parts of a function in their order. Declarations, function expressions and methods have a node for their
function; arrows, constructors and accessors of objects are functions themselves. -/
def parts? : Subtree → Option (List (FunctionPart × Subtree))
  | func f decorators => some (f.params.map (.param, .pat ·) ++ decorators.map (.decorator, .expr ·) ++
      f.body.toList.map (.body, .block ·) ++ f.types.map (.type, .type ·))
  | expr (.arrow _ _ params body types) =>
    some (params.map (.param, .pat ·) ++ [(.body, body.subtree)] ++ types.map (.type, .type ·))
  | expr (.propMethod _ .getter k f) | expr (.propMethod _ .setter k f) =>
    some ((.key, .expr k) :: (f.types.map (.type, .type ·) ++ f.params.map (.param, .pat ·) ++
      f.body.toList.map (.body, .block ·)))
  | member (.ctor _ k params body) =>
    some ((.key, .expr k) :: (params.map (.param, .pat ·) ++ body.toList.map (.body, .block ·)))
  | _ => none

/-- A function that the search does not count: a constructor or an accessor of an object. -/
def isUncounted : Subtree → Bool
  | member (.ctor _ _ _ _) | expr (.propMethod _ .getter _ _) | expr (.propMethod _ .setter _ _) => true
  | _ => false

theorem children_of_parts? {n : Subtree} {parts : List (FunctionPart × Subtree)} (has : n.parts? = some parts) :
    n.children = parts.map Prod.snd := by
  unfold parts? at has
  split at has <;> cases has <;>
    simp [children, Func.children, Expr.children, Member.children, Function.comp_def]

theorem exists_parts_of_isFunction {n : Subtree} (kind : n.isFunction = true) : ∃ parts, n.parts? = some parts := by
  unfold isFunction at kind
  split at kind
  · exact ⟨_, rfl⟩
  · exact ⟨_, rfl⟩
  · cases kind

/-- **A function is counted or it is a constructor or an accessor of an object.** -/
theorem isUncounted_of_parts? {n : Subtree} {parts : List (FunctionPart × Subtree)} (has : n.parts? = some parts) :
    n.isUncounted = !n.isFunction := by
  unfold parts? at has
  split at has <;> cases has <;> rfl

/-- The key of a function that is counted stands outside. -/
theorem ne_key_of_mem_parts {n : Subtree} (kind : n.isFunction = true) {parts : List (FunctionPart × Subtree)}
    (has : n.parts? = some parts) {x : FunctionPart × Subtree} (member : x ∈ parts) : x.1 ≠ .key := by
  unfold isFunction at kind
  split at kind
  · cases has
    grind
  · cases has
    grind
  · cases kind

/-- The types of a function are types. -/
theorem exists_type_of_mem_parts {n : Subtree} {parts : List (FunctionPart × Subtree)} (has : n.parts? = some parts)
    {c : Subtree} (member : (FunctionPart.type, c) ∈ parts) : ∃ t, c = type t := by
  unfold parts? at has
  split at has <;> cases has <;> grind

/-- Whether a way goes on into a decorator of a parameter. -/
def decoratorBelow : Subtree → List Nat → Bool
  | pat (.param _ decorators _ _), i :: _ => i < decorators.length
  | _, _ => false

/-- Into which part of a function a way goes on. A decorator of a parameter is a decorator of the function. -/
def part? (n : Subtree) : List Nat → Option FunctionPart
  | [] => none
  | i :: rest =>
    (n.parts?.bind (·[i]?)).map fun (part, child) => if child.decoratorBelow rest then .decorator else part

theorem exists_parts_of_part? {n : Subtree} {way : List Nat} {part : FunctionPart} (goes : n.part? way = some part) :
    ∃ parts, n.parts? = some parts := by
  cases way with
  | nil => cases goes
  | cons i rest =>
    obtain ⟨_, chosen, -⟩ := Option.map_eq_some_iff.mp goes
    obtain ⟨parts, has, -⟩ := Option.bind_eq_some_iff.mp chosen
    exact ⟨parts, has⟩

/-- A way into a function that is counted goes on into some part of it. -/
theorem exists_part {n : Subtree} (kind : n.isFunction = true) {i : Nat} {rest : List Nat} {c : Subtree}
    (listed : n.children[i]? = some c) : ∃ part, n.part? (i :: rest) = some part := by
  obtain ⟨parts, has⟩ := exists_parts_of_isFunction kind
  rw [children_of_parts? has, List.getElem?_map] at listed
  obtain ⟨x, chosen, -⟩ := Option.map_eq_some_iff.mp listed
  exact ⟨if x.2.decoratorBelow rest then .decorator else x.1, by simp [part?, has, chosen]⟩

theorem part_ne_key {n : Subtree} (kind : n.isFunction = true) {way : List Nat} {part : FunctionPart}
    (goes : n.part? way = some part) : part ≠ .key := by
  cases way with
  | nil => cases goes
  | cons i rest =>
    obtain ⟨⟨label, child⟩, chosen, rfl⟩ := Option.map_eq_some_iff.mp goes
    obtain ⟨parts, has, listed⟩ := Option.bind_eq_some_iff.mp chosen
    show (if child.decoratorBelow rest then .decorator else label) ≠ _
    split
    · exact fun same => FunctionPart.noConfusion same
    · exact ne_key_of_mem_parts kind has (List.mem_of_getElem? listed)

/-- A way into the types of a function goes on into a type. -/
theorem exists_type_of_part? {n : Subtree} {i : Nat} {rest : List Nat} (goes : n.part? (i :: rest) = some .type) :
    ∃ t, n.children[i]? = some (type t) := by
  obtain ⟨⟨label, child⟩, chosen, kind⟩ := Option.map_eq_some_iff.mp goes
  obtain ⟨parts, has, listed⟩ := Option.bind_eq_some_iff.mp chosen
  have label_eq : label = .type := by grind
  obtain ⟨t, rfl⟩ := exists_type_of_mem_parts has (label_eq ▸ List.mem_of_getElem? listed)
  exact ⟨t, by simp [children_of_parts? has, listed]⟩

/-! ### What a way passes through -/

theorem at?_append (root : Subtree) (above rest : List Nat) :
    root.at? (above ++ rest) = (root.at? above).bind (·.at? rest) := by
  induction above generalizing root with
  | nil => rfl
  | cons i above ih =>
    rw [List.cons_append, at?, at?]
    cases root.children[i]? with
    | none => rfl
    | some child => exact ih child

/-- A way passes through a function into a part of it, both as `test` says. -/
def Passes (root : Subtree) (way : List Nat) (test : Subtree → FunctionPart → Bool) : Prop :=
  ∃ above rest node part, way = above ++ rest ∧ root.at? above = some node ∧ node.part? rest = some part ∧
    test node part = true

section Passes

variable {root : Subtree} {way : List Nat} {test : Subtree → FunctionPart → Bool}

theorem Passes.mono {test' : Subtree → FunctionPart → Bool} (passes : root.Passes way test)
    (weaker : ∀ above rest node part, way = above ++ rest → root.at? above = some node → node.part? rest = some part →
      test node part = true → test' node part = true) : root.Passes way test' := by
  obtain ⟨above, rest, node, part, split, there, goes, holds⟩ := passes
  exact ⟨above, rest, node, part, split, there, goes, weaker above rest node part split there goes holds⟩

theorem passes_nil : ¬ root.Passes [] test := by
  rintro ⟨above, rest, node, part, split, there, goes, -⟩
  obtain ⟨rfl, rfl⟩ := List.append_eq_nil_iff.mp split.symm
  cases goes

theorem passes_cons {i : Nat} {rest : List Nat} :
    root.Passes (i :: rest) test ↔
      (∃ part, root.part? (i :: rest) = some part ∧ test root part = true) ∨
        ∃ child, root.children[i]? = some child ∧ child.Passes rest test := by
  constructor
  · rintro ⟨above, below, node, part, split, there, goes, holds⟩
    cases above with
    | nil =>
      cases there
      rw [List.nil_append] at split
      exact .inl ⟨part, split ▸ goes, holds⟩
    | cons j above =>
      rw [List.cons_append] at split
      obtain ⟨rfl, deeper⟩ := List.cons.inj split
      obtain ⟨child, listed, there⟩ := Option.bind_eq_some_iff.mp there
      exact .inr ⟨child, listed, above, below, node, part, deeper, there, goes, holds⟩
  · rintro (⟨part, goes, holds⟩ | ⟨child, listed, above, below, node, part, rfl, there, goes, holds⟩)
    · exact ⟨[], _, root, part, rfl, rfl, goes, holds⟩
    · exact ⟨i :: above, below, node, part, rfl, by rw [at?, listed]; exact there, goes, holds⟩

/-- `Passes` as it is computed. -/
def passes (test : Subtree → FunctionPart → Bool) (root : Subtree) : List Nat → Bool
  | [] => false
  | i :: rest => (root.part? (i :: rest)).any (test root) || (root.children[i]?).any (passes test · rest)

theorem passes_eq_true : passes test root way = true ↔ root.Passes way test := by
  induction way generalizing root with
  | nil => exact iff_of_false Bool.false_ne_true passes_nil
  | cons i rest ih => simp [passes, passes_cons, Option.any_eq_true, ih]

instance : Decidable (root.Passes way test) := decidable_of_iff _ passes_eq_true

end Passes

/-! ### Waiting nodes -/

section Awaits

variable (root : Subtree) (way : List Nat)

/-- A way leads to a node that waits. -/
def HasWait (span : Span) : Prop := (root.at? way).bind waits? = some span

instance (span : Span) : Decidable (root.HasWait way span) := inferInstanceAs (Decidable (_ = _))

/-- A way into the body of a function, of any form. -/
def InBody : Prop := root.Passes way fun _ part => part = .body

/-- A way into the body of a constructor or of an accessor of an object. -/
def InUncountedBody : Prop := root.Passes way fun n part => n.isUncounted && part = .body

/-- Whether a node is a type. -/
def isType : Subtree → Bool
  | type _ => true
  | _ => false

/-- A way into a type. -/
def InType : Prop := ∃ above ∈ way.inits, (root.at? above).any isType

/-- A way into what is not evaluated where it stands: the body of a function, a parameter with its initialisers and the
computed names in it, or a type. -/
def Deferred : Prop := (root.Passes way fun _ part => part = .body || part = .param) ∨ root.InType way

/-- A way through a function that the search counts. -/
def InCounted : Prop := root.Passes way fun n _ => n.isFunction

/-- A way into a decorator of a function that the search counts, or of one of its parameters. -/
def InCountedDecorator : Prop := root.Passes way fun n part => n.isFunction && part = .decorator

instance : Decidable (root.InBody way) := inferInstanceAs (Decidable (root.Passes way _))

instance : Decidable (root.InType way) := inferInstanceAs (Decidable (∃ above ∈ way.inits, _ = true))

instance : Decidable (root.Deferred way) := inferInstanceAs (Decidable (_ ∨ _))

end Awaits

variable {root : Subtree} {way : List Nat} {span : Span}

/-- A function that is counted, on a way that leads on to a node, is passed through. -/
theorem exists_part_of_at? {above rest : List Nat} {node target : Subtree} (there : root.at? above = some node)
    (kind : node.isFunction = true) (proper : rest ≠ []) (leads : root.at? (above ++ rest) = some target) :
    ∃ part, node.part? rest = some part := by
  cases rest with
  | nil => exact absurd rfl proper
  | cons i rest =>
    rw [at?_append, there, Option.bind_some] at leads
    obtain ⟨child, listed, -⟩ := Option.bind_eq_some_iff.mp leads
    exact exists_part kind listed

/-- **What is found** are the waiting nodes to which no way through a counted function leads. -/
theorem waits_iff : root.Waits way span ↔ root.HasWait way span ∧ ¬ root.InCounted way := by
  constructor
  · refine fun waits => ⟨Option.bind_eq_some_iff.mpr waits.stands, ?_⟩
    rintro ⟨above, rest, node, part, rfl, there, goes, kind⟩
    have proper : above ≠ above ++ rest := by
      intro same
      rw [List.self_eq_append_right.mp same] at goes
      cases goes
    exact Bool.false_ne_true ((waits.free above (List.prefix_append ..) proper node there).symm.trans kind)
  · rintro ⟨here, outside⟩
    refine ⟨Option.bind_eq_some_iff.mp here, fun above begins proper node there => ?_⟩
    obtain ⟨rest, rfl⟩ := begins
    obtain ⟨target, leads, -⟩ := Option.bind_eq_some_iff.mp here
    by_contra kind
    rw [Bool.not_eq_false] at kind
    obtain ⟨part, goes⟩ := exists_part_of_at? there kind (by rintro rfl; simp at proper) leads
    exact outside ⟨above, rest, node, part, rfl, there, goes, kind⟩

/-- Outside every counted function, what is passed through is a constructor or an accessor of an object. -/
theorem isUncounted_of_not_inCounted (outside : ¬ root.InCounted way) {above rest : List Nat} {node : Subtree}
    {part : FunctionPart} (split : way = above ++ rest) (there : root.at? above = some node)
    (goes : node.part? rest = some part) : node.isUncounted = true := by
  obtain ⟨parts, has⟩ := exists_parts_of_part? goes
  rw [isUncounted_of_parts? has, Bool.not_eq_true']
  by_contra kind
  exact outside ⟨above, rest, node, part, split, there, goes, Bool.not_eq_false _ ▸ kind⟩

theorem inBody_iff_of_not_inCounted (outside : ¬ root.InCounted way) : root.InBody way ↔ root.InUncountedBody way := by
  constructor
  · refine fun inside => Passes.mono inside fun above rest node part split there goes body => ?_
    rw [isUncounted_of_not_inCounted outside split there goes]
    exact body
  · exact fun inside => Passes.mono inside fun _ _ _ _ _ _ _ both => (Bool.and_eq_true_iff.mp both).2

theorem inType_of_part? {above rest : List Nat} {node : Subtree} (split : way = above ++ rest)
    (there : root.at? above = some node) (goes : node.part? rest = some .type) : root.InType way := by
  cases rest with
  | nil => cases goes
  | cons i rest =>
    obtain ⟨t, listed⟩ := exists_type_of_part? goes
    refine ⟨above ++ [i], (List.mem_inits _ _).mpr ⟨rest, by simp [split]⟩, ?_⟩
    rw [at?_append, there]
    simp [at?, listed, isType]

/-- A node that waits and is not deferred is inside no counted function, or in a decorator of one. -/
theorem inCounted_iff_of_not_deferred (prompt : ¬ root.Deferred way) :
    root.InCounted way ↔ root.InCountedDecorator way := by
  constructor
  · refine fun inside => Passes.mono inside fun above rest node part split there goes kind => ?_
    -- Of the parts of a counted function only decorators are neither outside nor deferred.
    cases part with
    | key => exact absurd rfl (part_ne_key kind goes)
    | decorator => exact Bool.and_eq_true_iff.mpr ⟨kind, rfl⟩
    | param | body => exact absurd (.inl ⟨above, rest, node, _, split, there, goes, rfl⟩) prompt
    | type => exact absurd (.inr (inType_of_part? split there goes)) prompt
  · exact fun inside => Passes.mono inside fun _ _ _ _ _ _ _ both => (Bool.and_eq_true_iff.mp both).1

end Subtree

/-! ### Programs -/

/-- The places that are found in a program, in order, each with the way to its node. -/
structure Program.Located (p : Program) (found : List (List Nat × Span)) : Prop where
  ordered : (found.map Prod.fst).Pairwise (· < ·)
  mem : ∀ way span,
    (way, span) ∈ found ↔ (Subtree.program p).HasWait way span ∧ ¬ (Subtree.program p).InCounted way
  listed : p.topLevelAwaits = found.map Prod.snd

theorem Program.exists_located (p : Program) : ∃ found, p.Located found := by
  obtain ⟨found, finds⟩ := (Subtree.program p).exists_finds
  have recorded := congrArg AwaitFinder.spans (finds.recorded {} rfl)
  exact ⟨found, finds.ordered, fun way span => (finds.mem way span).trans Subtree.waits_iff, recorded⟩

/-- **Which of the places found lie in the body of a function**: those in the body of a constructor or of an accessor of
an object. There is none exactly if all that waits in such a body is inside another function besides. -/
theorem topLevelAwaits_inBody (p : Program) :
    ∃ found, p.Located found ∧
      (∀ x ∈ found, (Subtree.program p).InBody x.1 ↔ (Subtree.program p).InUncountedBody x.1) ∧
      ((∀ x ∈ found, ¬ (Subtree.program p).InBody x.1) ↔
        ∀ way span, (Subtree.program p).HasWait way span → (Subtree.program p).InUncountedBody way →
          (Subtree.program p).InCounted way) := by
  obtain ⟨found, located⟩ := p.exists_located
  have same : ∀ x ∈ found, (Subtree.program p).InBody x.1 ↔ (Subtree.program p).InUncountedBody x.1 :=
    fun x member => Subtree.inBody_iff_of_not_inCounted ((located.mem x.1 x.2).mp member).2
  refine ⟨found, located, same, fun none way span here inside => ?_, fun all x member inside => ?_⟩
  · by_contra outside
    have member := (located.mem way span).mpr ⟨here, outside⟩
    exact none _ member ((same _ member).mpr inside)
  · obtain ⟨here, outside⟩ := (located.mem x.1 x.2).mp member
    exact outside (all x.1 x.2 here ((same x member).mp inside))

/-- **Which places that are evaluated with the module are found**: all that are in no decorator of a function that is
counted, nor of one of its parameters. All are found exactly if all that waits in such a decorator is deferred. -/
theorem topLevelAwaits_evaluated (p : Program) :
    ∃ found, p.Located found ∧
      (∀ way span, (Subtree.program p).HasWait way span → ¬ (Subtree.program p).Deferred way →
        ((way, span) ∈ found ↔ ¬ (Subtree.program p).InCountedDecorator way)) ∧
      ((∀ way span, (Subtree.program p).HasWait way span → ¬ (Subtree.program p).Deferred way → (way, span) ∈ found) ↔
        ∀ way span, (Subtree.program p).HasWait way span → (Subtree.program p).InCountedDecorator way →
          (Subtree.program p).Deferred way) := by
  obtain ⟨found, located⟩ := p.exists_located
  have each : ∀ way span, (Subtree.program p).HasWait way span → ¬ (Subtree.program p).Deferred way →
      ((way, span) ∈ found ↔ ¬ (Subtree.program p).InCountedDecorator way) := by
    intro way span here prompt
    rw [located.mem, Subtree.inCounted_iff_of_not_deferred prompt]
    exact and_iff_right here
  refine ⟨found, located, each, fun all way span here decorates => ?_, fun deferred way span here prompt => ?_⟩
  · by_contra prompt
    exact (each way span here prompt).mp (all way span here prompt) decorates
  · exact (each way span here prompt).mpr fun decorates => prompt (deferred way span here decorates)

/-- A module that waits in a constructor. -/
def constructorAwait : String := "export class C \x7b constructor() \x7b for await (const a of b) \x7b\x7d \x7d \x7d"

/-- **Not everything found is outside the body of a function.** -/
theorem constructorAwait_found :
    ∃ parsed, (Source.ofString constructorAwait).parse false = .ok parsed ∧ parsed.program.isModule = true ∧
      ∃ way span, (Subtree.program parsed.program).HasWait way span ∧ (Subtree.program parsed.program).InBody way ∧
        span ∈ parsed.program.topLevelAwaits := by
  have run : ((Source.ofString constructorAwait).parse false).toOption.any (fun parsed =>
      parsed.program.isModule && decide ((Subtree.program parsed.program).HasWait [0, 0, 0, 0, 1, 0] ⟨34, 61⟩ ∧
        (Subtree.program parsed.program).InBody [0, 0, 0, 0, 1, 0] ∧ ⟨34, 61⟩ ∈ parsed.program.topLevelAwaits)) =
        true := by
    decide +kernel
  obtain ⟨parsed, read, all⟩ := exists_of_any run
  obtain ⟨isModule, facts⟩ := Bool.and_eq_true_iff.mp all
  exact ⟨parsed, read, isModule, _, _, of_decide_eq_true facts⟩

/-- A module that waits in a decorator of a method. -/
def decoratorAwait : String := "export class C \x7b @(await x) m() \x7b\x7d \x7d"

/-- **Not everything that is evaluated with a module is found.** -/
theorem decoratorAwait_not_found :
    ∃ parsed, (Source.ofString decoratorAwait).parse false = .ok parsed ∧ parsed.program.isModule = true ∧
      ∃ way span, (Subtree.program parsed.program).HasWait way span ∧ ¬ (Subtree.program parsed.program).Deferred way ∧
        span ∉ parsed.program.topLevelAwaits := by
  have run : ((Source.ofString decoratorAwait).parse false).toOption.any (fun parsed =>
      parsed.program.isModule && decide ((Subtree.program parsed.program).HasWait [0, 0, 0, 0, 1, 0] ⟨20, 27⟩ ∧
        ¬ (Subtree.program parsed.program).Deferred [0, 0, 0, 0, 1, 0] ∧ ⟨20, 27⟩ ∉ parsed.program.topLevelAwaits)) =
        true := by
    decide +kernel
  obtain ⟨parsed, read, all⟩ := exists_of_any run
  obtain ⟨isModule, facts⟩ := Bool.and_eq_true_iff.mp all
  exact ⟨parsed, read, isModule, _, _, of_decide_eq_true facts⟩

end Detype
