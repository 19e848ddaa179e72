import Detype.Proofs.Files.Overlay
import Detype.Proofs.Run.Outputs

/-
**Runs in different orders.**

Two inputs commute if processing them in one order or the other makes no difference. A run does not show the
order of its steps if and only if any two of its inputs commute, each pair taken alone on the tree at the start.

* `Errand.Spares` — an errand ends as it does alone after another, which makes no directory for a file of it.
* `Merged` — a tree with the changes of several errands, each as it makes them alone.
* `merged_step` — an errand adds its changes to those of others that it spares and that spare it.
* `Input.Commute`, `World.OrderFree` — both orders of two inputs, all orders of a run.
* `orderFree_iff_commute` — the second holds just if the first does for all pairs.
-/

namespace Detype

open FileTree

/-! ### Changes put together -/

/-- A tree with the changes of several others to one: where one of them differs, so does it and alike. -/
structure Merged (o : FileTree) (tree : Nat → FileTree) (done : List Nat) (t : FileTree) : Prop where
  changed : ∀ k ∈ done, ∀ p, (tree k).get? p ≠ o.get? p → t.get? p = (tree k).get? p
  unchanged : ∀ p, (∀ k ∈ done, (tree k).get? p = o.get? p) → t.get? p = o.get? p

namespace Merged

variable {o t t' : FileTree} {tree : Nat → FileTree} {done done' : List Nat}

theorem nil (o : FileTree) (tree : Nat → FileTree) : Merged o tree [] o := by
  refine ⟨fun k member => ?_, fun _ _ => rfl⟩
  cases member

/-- A place is as it was, or as one of the others has it. -/
theorem get?_cases (merged : Merged o tree done t) (p : Location) :
    t.get? p = o.get? p ∨ ∃ k ∈ done, (tree k).get? p ≠ o.get? p ∧ t.get? p = (tree k).get? p := by
  by_cases some : ∃ k ∈ done, (tree k).get? p ≠ o.get? p
  · obtain ⟨k, member, differs⟩ := some
    exact Or.inr ⟨k, member, differs, merged.changed k member p differs⟩
  · refine Or.inl (merged.unchanged p fun k member => ?_)
    exact Decidable.byContradiction fun differs => some ⟨k, member, differs⟩

/-- **The changes determine the tree**, whatever their order. -/
theorem get?_eq (merged : Merged o tree done t) (merged' : Merged o tree done' t')
    (same : ∀ k, k ∈ done ↔ k ∈ done') (p : Location) : t.get? p = t'.get? p := by
  rcases merged.get?_cases p with unchanged | ⟨k, member, differs, changed⟩
  · rcases merged'.get?_cases p with unchanged' | ⟨k, member, differs, changed⟩
    · rw [unchanged, unchanged']
    · rw [changed, merged.changed k ((same k).mpr member) p differs]
  · rw [changed, merged'.changed k ((same k).mp member) p differs]

theorem congr (merged : Merged o tree done t) (same : ∀ k, k ∈ done ↔ k ∈ done') : Merged o tree done' t :=
  ⟨fun k member => merged.changed k ((same k).mpr member),
    fun p unchanged => merged.unchanged p fun k member => unchanged k ((same k).mp member)⟩

/-- One more tree with changes that agree with the others. -/
theorem cons (merged : Merged o tree done t) {i : Nat} (laid : Overlay o t (tree i) t')
    (agree : ∀ k ∈ done, ∀ p, (tree k).get? p ≠ o.get? p → (tree i).get? p ≠ o.get? p →
      (tree i).get? p = (tree k).get? p) : Merged o tree (i :: done) t' := by
  refine ⟨fun k member p differs => ?_, fun p unchanged => ?_⟩
  · rw [laid p]
    rcases List.mem_cons.mp member with rfl | member
    · rw [if_neg differs]
    · split
      · exact merged.changed k member p differs
      · next differs' => exact agree k member p differs differs'
  · rw [laid p, if_pos (unchanged i List.mem_cons_self)]
    exact merged.unchanged p fun k member => unchanged k (List.mem_cons_of_mem i member)

end Merged

/-! ### Errands that spare each other -/

/-- An errand ends as it does alone after another, which makes no directory where it puts a file. -/
structure Errand.Spares (o : FileTree) (e f : Errand) : Prop where
  ends : (e.run (f.run o).1).2 = (e.run o).2
  clear : ∀ p content, o.get? p = none → (e.run o).1.get? p = some (.file content) →
    (f.run o).1.get? p ≠ some .directory

/-- Errands with files of their own that go one way at first. -/
structure Errand.Family (o : FileTree) (errand : Nat → Errand) : Prop where
  files_apart : ∀ i j, i ≠ j → ∀ place content content',
    (.ok place, content) ∈ (errand i).files → (.ok place, content') ∉ (errand j).files
  abreast : ∃ base trunk, ∀ i, errand i = .idle ∨
    (errand i).base = base ∧ ∃ branch, dotDot ∉ branch ∧ (errand i).way = trunk ++ branch

section Family

variable {o t : FileTree} {errand : Nat → Errand} {done : List Nat}

/-- The tree after an errand alone. -/
def Errand.alone (o : FileTree) (errand : Nat → Errand) (k : Nat) : FileTree := ((errand k).run o).1

theorem Merged.linkless (merged : Merged o (Errand.alone o errand) done t) (linkless : o.Linkless) : t.Linkless := by
  intro place target
  rcases merged.get?_cases place with unchanged | ⟨k, _, _, changed⟩
  · rw [unchanged]
    exact linkless place target
  · rw [changed]
    exact (errand k).linkless_run linkless place target

theorem Merged.preserves (merged : Merged o (Errand.alone o errand) done t) (linkless : o.Linkless) :
    o.Preserves t := by
  refine ⟨fun p directory => ?_, fun p content stands => ?_⟩
  · rcases merged.get?_cases p with unchanged | ⟨k, _, _, changed⟩
    · rw [unchanged, directory]
    · rw [changed]
      exact ((errand k).preserves_run linkless).directories p directory
  · rcases merged.get?_cases p with unchanged | ⟨k, _, _, changed⟩
    · exact ⟨content, by rw [unchanged, stands]⟩
    · rw [changed]
      exact ((errand k).preserves_run linkless).files p content stands

/-- Two errands that spare each other change a place alike, if both do. -/
theorem Errand.Family.agree (family : Errand.Family o errand) (linkless : o.Linkless) {i k : Nat} (differ : i ≠ k)
    (spares : (errand i).Spares o (errand k)) (spares' : (errand k).Spares o (errand i)) {p : Location}
    (changed : (Errand.alone o errand k).get? p ≠ o.get? p)
    (changed' : (Errand.alone o errand i).get? p ≠ o.get? p) :
    (Errand.alone o errand i).get? p = (Errand.alone o errand k).get? p := by
  rcases (errand i).run_get? linkless p with same | ⟨free, new⟩ | ⟨other, content, member, new⟩
  · exact absurd same changed'
  · rcases (errand k).run_get? linkless p with same | ⟨_, new'⟩ | ⟨_, content, _, new'⟩
    · exact absurd same changed
    · exact new.trans new'.symm
    · exact absurd new (spares'.clear p content free new')
  · rcases (errand k).run_get? linkless p with same | ⟨free, new'⟩ | ⟨_, content', member', _⟩
    · exact absurd same changed
    · exact absurd new' (spares.clear p content free new)
    · exact absurd member' (family.files_apart i k differ p content content' member)

/-- **An errand is not blocked alone if it spares another that changes something.** That one begins its way, so after it
the errand would end otherwise. -/
theorem Errand.Family.not_blocked (family : Errand.Family o errand) (sound : o.Sound) (linkless : o.Linkless)
    {i k : Nat} (spares : (errand i).Spares o (errand k)) {q : Location}
    (changed : (Errand.alone o errand k).get? q ≠ o.get? q) : ¬ (errand i).Blocked o := by
  intro blocked
  have alone := Errand.run_of_blocked blocked
  have after := spares.ends
  obtain ⟨base, trunk, abreast⟩ := family.abreast
  have nameable : (errand k).fault = none := by
    cases fault : (errand k).fault with
    | none => rfl
    | some e =>
      refine absurd ?_ changed
      rw [Errand.alone, Errand.run_fault fault]
  rcases abreast i with idle | ⟨here, branch, down, way⟩
  · rw [idle] at alone
    cases alone
  · rcases abreast k with idle | ⟨here', branch', _, way'⟩
    · refine absurd ?_ changed
      rw [Errand.alone, idle, Errand.run_idle]
    · rw [alone, Errand.run_after_of_blocked sound linkless blocked down way way' (here'.trans here.symm)
        nameable] at after
      cases after

/-- **An errand adds its changes to those of others that it spares and that spare it**, and ends as it does
alone. -/
theorem merged_step (sound : o.Sound) (linkless : o.Linkless) (family : Errand.Family o errand) {i : Nat}
    (fresh : i ∉ done)
    (spares : ∀ k ∈ done, (errand i).Spares o (errand k) ∧ (errand k).Spares o (errand i))
    (merged : Merged o (Errand.alone o errand) done t) :
    Merged o (Errand.alone o errand) (i :: done) ((errand i).run t).1 ∧
      ((errand i).run t).2 = ((errand i).run o).2 := by
  have apart : ∀ k ∈ done, i ≠ k := fun k member same => fresh (same ▸ member)
  have own : ∀ p content, (.ok p, content) ∈ (errand i).files →
      t.get? p = o.get? p ∨ o.get? p = none ∧ t.get? p = some .directory := by
    intro p content mine
    rcases merged.get?_cases p with unchanged | ⟨k, member, differs, changed⟩
    · exact Or.inl unchanged
    · rcases (errand k).run_get? linkless p with same | ⟨free, new⟩ | ⟨_, content', theirs, _⟩
      · exact absurd same differs
      · exact Or.inr ⟨free, changed.trans new⟩
      · exact absurd theirs (family.files_apart i k (apart k member) p content content' mine)
  have noFile : ∀ p, o.get? p = none → ((errand i).run o).1.get? p = some .directory →
      ∀ content, t.get? p ≠ some (.file content) := by
    intro p free new content stands
    rcases merged.get?_cases p with unchanged | ⟨k, member, _, changed⟩
    · rw [unchanged, free] at stands
      cases stands
    · exact (spares k member).2.clear p content free (changed.symm.trans stands) new
  have noDirectory : ∀ p content, o.get? p = none → ((errand i).run o).1.get? p = some (.file content) →
      t.get? p ≠ some .directory := by
    intro p content free new stands
    rcases merged.get?_cases p with unchanged | ⟨k, member, _, changed⟩
    · rw [unchanged, free] at stands
      cases stands
    · exact (spares k member).1.clear p content free new (changed.symm.trans stands)
  rcases (errand i).run_follows linkless (merged.linkless linkless) (merged.preserves linkless) own noFile
    noDirectory with ⟨laid, ends⟩ | ⟨⟨q, differs⟩, blocked⟩
  · refine ⟨merged.cons laid fun k member p changed changed' => ?_, ends.symm⟩
    exact family.agree linkless (apart k member) (spares k member).1 (spares k member).2 changed changed'
  · -- Some other errand changed the tree, so this one is not blocked.
    rcases merged.get?_cases q with unchanged | ⟨k, member, changed, _⟩
    · exact absurd unchanged differs
    · exact absurd blocked (family.not_blocked sound linkless (spares k member).1 changed)

end Family

/-! ### The errands of a run -/

/-- What processing the input at a number does to the tree. -/
def errandAt (settings : Settings) (cwd : Location) (t : FileTree) (inputs : List Input) (i : Nat) : Errand :=
  match inputs[i]? with
  | some input => errandOf settings cwd t input
  | none => .idle

section Orders

variable {t : FileTree} {settings : Settings} {cwd : Location} {inputs : List Input}

theorem errandAt_eq {i : Nat} {input : Input} (given : inputs[i]? = some input) :
    errandAt settings cwd t inputs i = errandOf settings cwd t input := by rw [errandAt, given]

theorem errandAt_idle {i : Nat} (missing : inputs[i]? = none) : errandAt settings cwd t inputs i = .idle := by
  rw [errandAt, missing]

/-- **The errands of a run are a family**: their ways begin with that to the output directory. -/
theorem Gathered.family (gathered : Gathered t cwd settings inputs) :
    Errand.Family t (errandAt settings cwd t inputs) := by
  refine ⟨fun i j differ place content content' member => ?_, ?_⟩
  · cases given : inputs[i]? with
    | none =>
      rw [errandAt_idle given] at member
      cases member
    | some a =>
      rw [errandAt_eq given] at member
      cases given' : inputs[j]? with
      | none =>
        rw [errandAt_idle given']
        exact List.not_mem_nil
      | some b =>
        rw [errandAt_eq given']
        exact gathered.files_apart given given' differ member
  · cases out : settings.outDir with
    | none =>
      refine ⟨[], [], fun i => Or.inl ?_⟩
      unfold errandAt errandOf
      rw [out]
      split <;> rfl
    | some outDir =>
      refine ⟨start cwd outDir, route outDir, fun i => ?_⟩
      cases given : inputs[i]? with
      | none => exact Or.inl (errandAt_idle given)
      | some input =>
        rw [errandAt_eq given]
        obtain ⟨_, _, front, _, collected⟩ := gathered.collected given
        obtain ⟨code, codeAt⟩ := collected.codeAt
        rcases collected.processFile_cases gathered.sound gathered.linkless settings with
          ⟨idle, _⟩ | ⟨outDir', source, output, writes⟩
        · exact Or.inl idle
        · have same : outDir = outDir' := Option.some.inj (out.symm.trans writes.outDir_eq)
          subst same
          rw [writes.errand_eq, Errand.base_ofOutput, codeAt.start_eq, codeAt.way_eq]
          refine Or.inr ⟨rfl, front.map nameOf, ?_, rfl⟩
          exact dotDot_not_mem_map fun p member => codeAt.proper p (List.mem_append_left _ member)

/-- The changes of steps, put together. -/
theorem Gathered.merged_after (gathered : Gathered t cwd settings inputs) {order done : List Nat}
    (once : (order ++ done).Nodup) (counted : ∀ i ∈ order, i < inputs.length)
    (spares : ∀ i ∈ order ++ done, ∀ j ∈ order ++ done, i ≠ j →
      (errandAt settings cwd t inputs i).Spares t (errandAt settings cwd t inputs j)) {t' : FileTree}
    (grown : t.Grown t') (merged : Merged t (Errand.alone t (errandAt settings cwd t inputs)) done t') :
    Merged t (Errand.alone t (errandAt settings cwd t inputs)) (order ++ done)
      (processSteps settings cwd inputs order t').1 := by
  induction order generalizing done t' with
  | nil => exact merged
  | cons i order ih =>
    have inside := counted i List.mem_cons_self
    have given : inputs[i]? = some inputs[i] := List.getElem?_eq_getElem inside
    have moved : ∀ k, k ∈ order ++ i :: done ↔ k ∈ i :: order ++ done := fun k => List.perm_middle.mem_iff
    have fresh : i ∉ done := fun member => by simp [member] at once
    obtain ⟨merged', _⟩ := merged_step gathered.sound gathered.linkless gathered.family fresh
      (fun k member => by
        have differ : i ≠ k := fun same => fresh (same ▸ member)
        exact ⟨spares i (by simp) k (by simp [member]) differ,
          spares k (by simp [member]) i (by simp) differ.symm⟩) merged
    obtain ⟨tree_eq, grown'⟩ := gathered.step given grown
    rw [errandAt_eq given] at merged'
    rw [processSteps_cons given]
    dsimp only
    rw [tree_eq]
    refine (ih (List.perm_middle.nodup_iff.mpr once) (fun k member => counted k (List.mem_cons_of_mem i member))
      (fun k member l member' => spares k ((moved k).mp member) l ((moved l).mp member')) grown' merged').congr moved

theorem Gathered.merged (gathered : Gathered t cwd settings inputs) {order : List Nat} (once : order.Nodup)
    (counted : ∀ i ∈ order, i < inputs.length)
    (spares : ∀ i ∈ order, ∀ j ∈ order, i ≠ j →
      (errandAt settings cwd t inputs i).Spares t (errandAt settings cwd t inputs j)) :
    Merged t (Errand.alone t (errandAt settings cwd t inputs)) order (processSteps settings cwd inputs order t).1 := by
  rw [← List.append_nil order] at once spares
  have merged := gathered.merged_after once counted spares (.refl gathered.linkless) (.nil t _)
  rwa [List.append_nil] at merged

/-- After steps that spare each other, an input has the outcome that it has alone. -/
theorem Gathered.outcome_eq (gathered : Gathered t cwd settings inputs) {first later : List Nat} {i : Nat}
    (once : (first ++ i :: later).Nodup) (counted : ∀ k ∈ first ++ i :: later, k < inputs.length)
    (spares : ∀ k ∈ first ++ i :: later, ∀ l ∈ first ++ i :: later, k ≠ l →
      (errandAt settings cwd t inputs k).Spares t (errandAt settings cwd t inputs l)) {input : Input}
    (given : inputs[i]? = some input) :
    (processFile settings cwd input (processSteps settings cwd inputs first t).1).2 =
      (processFile settings cwd input t).2 := by
  have early : ∀ k ∈ first, k ∈ first ++ i :: later := fun k member => List.mem_append_left _ member
  have here : i ∈ first ++ i :: later := by simp
  have fresh : i ∉ first := fun member => by
    rw [List.nodup_append] at once
    exact once.2.2 i member i List.mem_cons_self rfl
  have merged := gathered.merged (List.Nodup.sublist (List.sublist_append_left ..) once)
    (fun k member => counted k (early k member)) fun k member l member' => spares k (early k member) l (early l member')
  obtain ⟨_, ends⟩ := merged_step gathered.sound gathered.linkless gathered.family fresh
    (fun k member => by
      have differ : i ≠ k := fun same => fresh (same ▸ member)
      exact ⟨spares i here k (early k member) differ, spares k (early k member) i here differ.symm⟩) merged
  rw [errandAt_eq given] at ends
  obtain ⟨_, _, _, _, collected⟩ := gathered.collected given
  have grown := gathered.grown_processSteps (.refl gathered.linkless) first
  exact (collected.processFile_outcome_iff gathered.sound gathered.linkless settings grown
    (.refl gathered.linkless)).mpr ends

/-! ### Outcomes in the order of the inputs -/

theorem filterMap_eq_map_of_some {α β : Type} {f : α → Option β} {g : α → β} {l : List α}
    (each : ∀ a ∈ l, f a = some (g a)) : l.filterMap f = l.map g := by
  induction l with
  | nil => rfl
  | cons a l ih =>
    rw [List.filterMap_cons_some (each a List.mem_cons_self), List.map_cons,
      ih fun b member => each b (List.mem_cons_of_mem a member)]

/-- The outcomes of a run are those of the steps. -/
theorem getElem?_processAll {order : List Nat} (perm : order.Perm (List.range inputs.length)) (t : FileTree) {i : Nat}
    (counted : i < inputs.length) :
    (processAll settings cwd inputs order t).2[i]? = (processSteps settings cwd inputs order t).2.lookup i := by
  have each : ∀ k < inputs.length, (processSteps settings cwd inputs order t).2.lookup k =
      some (((processSteps settings cwd inputs order t).2.lookup k).getD default) := by
    intro k inside
    obtain ⟨first, later, split, early, _⟩ := turn_of_perm perm inside
    rw [split, lookup_processSteps (List.getElem?_eq_getElem inside) early]
    rfl
  have mapped : (processAll settings cwd inputs order t).2 = (List.range inputs.length).map
      fun k => ((processSteps settings cwd inputs order t).2.lookup k).getD default :=
    filterMap_eq_map_of_some fun k member => each k (List.mem_range.mp member)
  rw [mapped, List.getElem?_map, List.getElem?_range counted]
  exact (each i counted).symm

theorem length_processAll (order : List Nat) (t : FileTree) :
    (processAll settings cwd inputs order t).2.length ≤ inputs.length := by
  refine Nat.le_trans (List.length_filterMap_le _ _) ?_
  exact Nat.le_of_eq List.length_range

/-- **Where all steps spare each other, every input has the outcome that it has alone.** -/
theorem Gathered.processAll_outcomes (gathered : Gathered t cwd settings inputs) {order : List Nat}
    (perm : order.Perm (List.range inputs.length))
    (spares : ∀ i < inputs.length, ∀ j < inputs.length, i ≠ j →
      (errandAt settings cwd t inputs i).Spares t (errandAt settings cwd t inputs j)) :
    (processAll settings cwd inputs order t).2 = inputs.map fun input => (processFile settings cwd input t).2 := by
  have counted : ∀ k ∈ order, k < inputs.length := fun k member => List.mem_range.mp (perm.mem_iff.mp member)
  refine List.ext_getElem? fun i => ?_
  by_cases inside : i < inputs.length
  · have given : inputs[i]? = some inputs[i] := List.getElem?_eq_getElem inside
    obtain ⟨first, later, split, early, _⟩ := turn_of_perm perm inside
    have once : order.Nodup := perm.nodup_iff.mpr List.nodup_range
    rw [getElem?_processAll perm t inside, List.getElem?_map, given, split, lookup_processSteps given early]
    rw [split] at once counted
    rw [gathered.outcome_eq once counted (fun k member l member' => spares k (counted k member) l (counted l member'))
      given]
    rfl
  · have outside : inputs.length ≤ i := Nat.le_of_not_lt inside
    rw [List.getElem?_eq_none (Nat.le_trans (length_processAll order t) outside),
      List.getElem?_eq_none (by rwa [List.length_map])]

/-! ### Pairs of inputs -/

/-- Processing two inputs in one order or the other makes no difference. -/
def Input.Commute (settings : Settings) (cwd : Location) (t : FileTree) (a b : Input) : Prop :=
  (processAll settings cwd [a, b] [0, 1] t).2 = (processAll settings cwd [a, b] [1, 0] t).2 ∧
    ∀ p, (processAll settings cwd [a, b] [0, 1] t).1.get? p = (processAll settings cwd [a, b] [1, 0] t).1.get? p

theorem Input.commute_iff {a b : Input} :
    Input.Commute settings cwd t a b ↔
      (processFile settings cwd a t).2 = (processFile settings cwd a (processFile settings cwd b t).1).2 ∧
      (processFile settings cwd b (processFile settings cwd a t).1).2 = (processFile settings cwd b t).2 ∧
      ∀ p, (processFile settings cwd b (processFile settings cwd a t).1).1.get? p =
        (processFile settings cwd a (processFile settings cwd b t).1).1.get? p := by
  have first : [a, b][0]? = some a := rfl
  have second : [a, b][1]? = some b := rfl
  have forth : processAll settings cwd [a, b] [0, 1] t =
      ((processFile settings cwd b (processFile settings cwd a t).1).1,
        [(processFile settings cwd a t).2, (processFile settings cwd b (processFile settings cwd a t).1).2]) := by
    unfold processAll
    rw [processSteps_cons first, processSteps_cons second]
    simp [processSteps, List.range_succ, List.lookup_cons]
  have back : processAll settings cwd [a, b] [1, 0] t =
      ((processFile settings cwd a (processFile settings cwd b t).1).1,
        [(processFile settings cwd a (processFile settings cwd b t).1).2, (processFile settings cwd b t).2]) := by
    unfold processAll
    rw [processSteps_cons second, processSteps_cons first]
    simp [processSteps, List.range_succ, List.lookup_cons]
  rw [Input.Commute, forth, back]
  simp only [List.cons.injEq, and_true, and_assoc]

/-- A file or a directory that a step makes is there after all that follow. -/
theorem Gathered.keeps (gathered : Gathered t cwd settings inputs) {t' : FileTree} (grown : t.Grown t')
    (order : List Nat) : t'.Preserves (processSteps settings cwd inputs order t').1 := by
  have kept : t.Grown (processSteps settings cwd inputs order t').1 ∧
      t'.Preserves (processSteps settings cwd inputs order t').1 := by
    refine processSteps_keeps (P := fun t'' => t.Grown t'' ∧ t'.Preserves t'')
      (fun i _ input given t'' keeps => ?_) ⟨grown, fun _ stands => stands, fun _ content stands => ⟨content, stands⟩⟩
    obtain ⟨tree_eq, grown'⟩ := gathered.step given keeps.1
    have preserves := (errandOf settings cwd t input).preserves_run keeps.1.linkless
    rw [tree_eq]
    refine ⟨grown', fun p directory => ?_, fun p content stands => ?_⟩
    · exact preserves.directories p (keeps.2.directories p directory)
    · obtain ⟨content', stands'⟩ := keeps.2.files p content stands
      exact preserves.files p content' stands'
  exact kept.2

/-- **An input spares another** if the other makes no difference to its outcome, and the two orders leave one
tree. The steps that follow are the same in both orders. -/
theorem Gathered.spares (gathered : Gathered t cwd settings inputs) {i j : Nat} {a b : Input}
    (given : inputs[i]? = some a) (given' : inputs[j]? = some b) (later : List Nat)
    (outcome : (processFile settings cwd a (processFile settings cwd b t).1).2 = (processFile settings cwd a t).2)
    (tree : ∀ p, (processSteps settings cwd inputs (i :: j :: later) t).1.get? p =
      (processSteps settings cwd inputs (j :: i :: later) t).1.get? p) :
    (errandAt settings cwd t inputs i).Spares t (errandAt settings cwd t inputs j) := by
  have start : t.Grown t := .refl gathered.linkless
  obtain ⟨tree_eq, grown⟩ := gathered.step given start
  obtain ⟨tree_eq', grown'⟩ := gathered.step given' start
  rw [errandAt_eq given, errandAt_eq given']
  refine ⟨?_, fun p content _ file directory => ?_⟩
  · obtain ⟨_, _, _, _, collected⟩ := gathered.collected given
    rw [tree_eq'] at outcome
    exact (collected.processFile_outcome_iff gathered.sound gathered.linkless settings grown' start).mp outcome
  · have alike := tree p
    rw [processSteps_tree given, processSteps_tree given' (i :: later), tree_eq, tree_eq'] at alike
    obtain ⟨content', stands⟩ := (gathered.keeps grown (j :: later)).files p content file
    rw [stands, (gathered.keeps grown' (i :: later)).directories p directory] at alike
    cases alike

/-- Inputs that commute spare each other. -/
theorem Gathered.spares_of_commute (gathered : Gathered t cwd settings inputs) {i j : Nat} {a b : Input}
    (given : inputs[i]? = some a) (given' : inputs[j]? = some b) (commute : Input.Commute settings cwd t a b) :
    (errandAt settings cwd t inputs i).Spares t (errandAt settings cwd t inputs j) := by
  obtain ⟨outcome, _, trees⟩ := Input.commute_iff.mp commute
  refine gathered.spares given given' [] outcome.symm fun p => ?_
  rw [processSteps_tree given, processSteps_tree given', processSteps_tree given', processSteps_tree given]
  exact trees p

/-- **Inputs that spare each other commute.** -/
theorem Gathered.commute_of_spares (gathered : Gathered t cwd settings inputs) {i j : Nat} {a b : Input}
    (given : inputs[i]? = some a) (given' : inputs[j]? = some b) (differ : i ≠ j)
    (spares : ∀ k ∈ [i, j], ∀ l ∈ [i, j], k ≠ l →
      (errandAt settings cwd t inputs k).Spares t (errandAt settings cwd t inputs l)) :
    Input.Commute settings cwd t a b := by
  have swapped : ∀ k, k ∈ [j, i] ↔ k ∈ [i, j] := fun k => (List.Perm.swap i j []).mem_iff
  have spares' : ∀ k ∈ [j, i], ∀ l ∈ [j, i], k ≠ l →
      (errandAt settings cwd t inputs k).Spares t (errandAt settings cwd t inputs l) :=
    fun k member l member' => spares k ((swapped k).mp member) l ((swapped l).mp member')
  have once : [i, j].Nodup := by simpa using differ
  have once' : [j, i].Nodup := by simpa using differ.symm
  have counted : ∀ k ∈ [i, j], k < inputs.length := by
    intro k member
    simp only [List.mem_cons, List.not_mem_nil, or_false] at member
    rcases member with rfl | rfl
    · exact (List.getElem?_eq_some_iff.mp given).1
    · exact (List.getElem?_eq_some_iff.mp given').1
  have counted' : ∀ k ∈ [j, i], k < inputs.length := fun k member => counted k ((swapped k).mp member)
  refine Input.commute_iff.mpr ⟨?_, ?_, fun p => ?_⟩
  · have alone := @Gathered.outcome_eq t settings cwd inputs gathered [j] [] i once' counted' spares' a given
    rw [processSteps_tree given'] at alone
    exact alone.symm
  · have alone := @Gathered.outcome_eq t settings cwd inputs gathered [i] [] j once counted spares b given'
    rwa [processSteps_tree given] at alone
  · have alike := (gathered.merged once counted spares).get?_eq (gathered.merged once' counted' spares')
      (fun k => (swapped k).symm) p
    rwa [processSteps_tree given, processSteps_tree given', processSteps_tree given', processSteps_tree given] at alike

theorem lookup_first {i : Nat} {a : Input} (given : inputs[i]? = some a) (later : List Nat) (t : FileTree) :
    (processSteps settings cwd inputs (i :: later) t).2.lookup i = some (processFile settings cwd a t).2 := by
  rw [processSteps_cons given, List.lookup_cons_self]

theorem lookup_second {i j : Nat} {a b : Input} (given : inputs[i]? = some a) (given' : inputs[j]? = some b)
    (differ : i ≠ j) (later : List Nat) (t : FileTree) :
    (processSteps settings cwd inputs (i :: j :: later) t).2.lookup j =
      some (processFile settings cwd b (processFile settings cwd a t).1).2 := by
  have apart : (j == i) = false := beq_eq_false_iff_ne.mpr differ.symm
  rw [processSteps_cons given, List.lookup_cons, apart]
  exact lookup_first given' later _

/-- An order of a run that begins with two inputs. -/
theorem perm_of_pair {n i j : Nat} (first : i < n) (second : j < n) (differ : i ≠ j) :
    ∃ later, (i :: j :: later).Perm (List.range n) ∧ (j :: i :: later).Perm (List.range n) := by
  have member : i ∈ List.range n := List.mem_range.mpr first
  have member' : j ∈ (List.range n).erase i := (List.mem_erase_of_ne differ.symm).mpr (List.mem_range.mpr second)
  have perm : (i :: j :: ((List.range n).erase i).erase j).Perm (List.range n) :=
    ((List.perm_cons_erase member).trans ((List.perm_cons_erase member').cons i)).symm
  exact ⟨_, perm, (List.Perm.swap i j _).trans perm⟩

end Orders

/-! ### Reports -/

/-- Two reports say the same and leave the same files. -/
structure RunReport.Agrees (r r' : RunReport) : Prop where
  result : r.result = r'.result
  stdout : r.stdout = r'.stdout
  stderr : r.stderr = r'.stderr
  log : r.log = r'.log
  tree : ∀ p, r.tree.get? p = r'.tree.get? p

/-- The files have no part in what is printed. -/
theorem World.report_agrees {w : World} {args : Arguments} {tree tree' : FileTree}
    (alike : ∀ p, tree.get? p = tree'.get? p) (outcomes : List FileOutcome) (log : List LogEvent) :
    (w.report args tree outcomes log).Agrees (w.report args tree' outcomes log) := by
  unfold report
  dsimp only
  split <;> exact ⟨rfl, rfl, rfl, rfl, alike⟩

/-- A run does not show the order of its steps: in all orders the inputs have the same outcomes, and the reports
agree. -/
def World.OrderFree (w : World) (args : Arguments) (settings : Settings) (inputs : List Input) : Prop :=
  ∀ schedule schedule' : Nat → List Nat,
    (schedule inputs.length).Perm (List.range inputs.length) →
    (schedule' inputs.length).Perm (List.range inputs.length) →
      (processAll settings w.cwd inputs (schedule inputs.length) w.tree).2 =
        (processAll settings w.cwd inputs (schedule' inputs.length) w.tree).2 ∧
      (w.runInOrder args schedule).Agrees (w.runInOrder args schedule')

/-- **A run on directories does not show the order of its steps just if any two inputs commute**, each pair taken
alone on the tree at the start. -/
theorem orderFree_iff_commute {w : World} {args : Arguments} {settings : Settings} {inputs : List Input}
    (sound : w.tree.Sound) (linkless : w.tree.Linkless)
    (directories : ∀ path ∈ args.inputs, w.tree.isDirectory w.cwd path = true)
    (collects : w.Collects args settings inputs) :
    w.OrderFree args settings inputs ↔
      ∀ (i j : Nat) (a b : Input), i ≠ j → inputs[i]? = some a → inputs[j]? = some b →
        Input.Commute settings w.cwd w.tree a b := by
  have gathered := collects.gathered sound linkless directories
  obtain ⟨log, report_eq⟩ := collects.runInOrder_eq
  refine ⟨fun free i j a b differ given given' => ?_, fun commute schedule schedule' perm perm' => ?_⟩
  · -- Two orders that begin with the pair and go on alike tell that the two inputs spare each other.
    have inside := (List.getElem?_eq_some_iff.mp given).1
    have inside' := (List.getElem?_eq_some_iff.mp given').1
    obtain ⟨later, perm, perm'⟩ := perm_of_pair inside inside' differ
    obtain ⟨outcomes, agrees⟩ := free (fun _ => i :: j :: later) (fun _ => j :: i :: later) perm perm'
    have trees := agrees.tree
    rw [report_eq, report_eq, World.report_tree, World.report_tree] at trees
    have lookups : ∀ k < inputs.length, (processSteps settings w.cwd inputs (i :: j :: later) w.tree).2.lookup k =
        (processSteps settings w.cwd inputs (j :: i :: later) w.tree).2.lookup k := by
      intro k counted
      rw [← getElem?_processAll perm w.tree counted, ← getElem?_processAll perm' w.tree counted, outcomes]
    have outcome := lookups i inside
    have outcome' := lookups j inside'
    rw [lookup_first given, lookup_second given' given differ.symm] at outcome
    rw [lookup_first given', lookup_second given given' differ] at outcome'
    have spares := gathered.spares given given' later (Option.some.inj outcome).symm trees
    have spares' := gathered.spares given' given later (Option.some.inj outcome') fun p => (trees p).symm
    refine gathered.commute_of_spares given given' differ fun k member l member' apart => ?_
    simp only [List.mem_cons, List.not_mem_nil, or_false] at member member'
    rcases member with rfl | rfl <;> rcases member' with rfl | rfl
    · exact absurd rfl apart
    · exact spares
    · exact spares'
    · exact absurd rfl apart
  · have spares : ∀ i < inputs.length, ∀ j < inputs.length, i ≠ j →
        (errandAt settings w.cwd w.tree inputs i).Spares w.tree (errandAt settings w.cwd w.tree inputs j) := by
      intro i inside j inside' differ
      have given : inputs[i]? = some inputs[i] := List.getElem?_eq_getElem inside
      have given' : inputs[j]? = some inputs[j] := List.getElem?_eq_getElem inside'
      exact gathered.spares_of_commute given given' (commute i j _ _ differ given given')
    have outcomes : (processAll settings w.cwd inputs (schedule inputs.length) w.tree).2 =
        (processAll settings w.cwd inputs (schedule' inputs.length) w.tree).2 := by
      rw [gathered.processAll_outcomes perm spares, gathered.processAll_outcomes perm' spares]
    refine ⟨outcomes, ?_⟩
    rw [report_eq, report_eq, outcomes]
    refine World.report_agrees (fun p => ?_) _ _
    have merged : ∀ order : List Nat, order.Perm (List.range inputs.length) →
        Merged w.tree (Errand.alone w.tree (errandAt settings w.cwd w.tree inputs)) order
          (processSteps settings w.cwd inputs order w.tree).1 := by
      intro order perm
      have counted : ∀ k ∈ order, k < inputs.length := fun k member => List.mem_range.mp (perm.mem_iff.mp member)
      exact gathered.merged (perm.nodup_iff.mpr List.nodup_range) counted
        fun k member l member' => spares k (counted k member) l (counted l member')
    exact (merged _ perm).get?_eq (merged _ perm') (fun k => (perm.trans perm'.symm).mem_iff) p

/-! ### A file and a directory of one name -/

/-- A working directory with the sources `r/a.js/b.ts` and `s/a.ts`. -/
def crossing : World where
  tree := ⟨[(["w"].map Text.bytesOf, .directory), (["w", "r"].map Text.bytesOf, .directory),
    (["w", "r", "a.js"].map Text.bytesOf, .directory), (["w", "r", "a.js", "b.ts"].map Text.bytesOf, .file .empty),
    (["w", "s"].map Text.bytesOf, .directory), (["w", "s", "a.ts"].map Text.bytesOf, .file .empty)]⟩
  cwd := ["w"].map Text.bytesOf

/-- Compile `r` and `s` into `o`. -/
def crossingArguments : Arguments := { inputs := ["r", "s"], outDir := some "o" }

/-- The inputs: the code of the second goes to `o/a.js`, a directory on the way to that of the first. -/
def crossingInputs : List Input := [⟨"r/a.js/b.ts", "a.js/b.ts"⟩, ⟨"s/a.ts", "a.ts"⟩]

theorem crossing_collects : crossing.Collects crossingArguments { outDir := some "o" } crossingInputs :=
  .of_plan rfl (by decide +kernel) rfl rfl (by decide +kernel)

/-- The first input to be processed succeeds, and the other fails. -/
theorem crossing_failures :
    (processAll { outDir := some "o" } crossing.cwd crossingInputs [0, 1] crossing.tree).2.map (·.failed) = [false, true] ∧
      (processAll { outDir := some "o" } crossing.cwd crossingInputs [1, 0] crossing.tree).2.map (·.failed) =
        [true, false] := by decide +kernel

theorem crossing_orders (free : crossing.OrderFree crossingArguments { outDir := some "o" } crossingInputs) :
    False := by
  have perm : [1, 0].Perm (List.range 2) := by decide
  have outcomes := (free List.range (fun _ => [1, 0]) (.refl _) perm).1
  have failures := congrArg (List.map FileOutcome.failed) outcomes
  have forth : (processAll { outDir := some "o" } crossing.cwd crossingInputs (List.range crossingInputs.length)
      crossing.tree).2.map FileOutcome.failed = [false, true] := crossing_failures.1
  rw [forth, crossing_failures.2] at failures
  cases failures

/-- Not all runs on directories hide the order of their steps. -/
theorem crossing_not_orderFree :
    crossing.tree.Sound ∧ crossing.tree.Linkless ∧
      (∀ path ∈ crossingArguments.inputs, crossing.tree.isDirectory crossing.cwd path = true) ∧
      crossing.Collects crossingArguments { outDir := some "o" } crossingInputs ∧
      ¬ crossing.OrderFree crossingArguments { outDir := some "o" } crossingInputs :=
  ⟨sound_of_entries (by decide +kernel), linkless_of_entries (by decide +kernel), by decide +kernel, crossing_collects,
    crossing_orders⟩

theorem crossing_not_commute :
    ¬ ∀ (i j : Nat) (a b : Input), i ≠ j → crossingInputs[i]? = some a → crossingInputs[j]? = some b →
      Input.Commute { outDir := some "o" } crossing.cwd crossing.tree a b := fun commute =>
  crossing_orders ((orderFree_iff_commute (sound_of_entries (by decide +kernel)) (linkless_of_entries (by decide +kernel))
    (by decide +kernel) crossing_collects).mpr commute)

end Detype
