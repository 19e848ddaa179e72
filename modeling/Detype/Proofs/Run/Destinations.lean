import Detype.Proofs.Run.Accounts

/-
**The check for collisions.**

Two destinations collide if they are one path, however it is spelled: they start from the same and have the same names.
The check compares destinations of code with each other only. For inputs that a search gave this is enough, since no
source map has the name of any code, and source maps stand beside their code.

* `Input.Apart` — the code of two inputs goes to different paths.
* `FirstClash` — the first input whose code would go where that of an earlier one goes, and that earlier one.
* `checkCollisions_go_cases` — the check accepts inputs that are apart, or it refuses the first clash.
* `checkCollisions_spec` — what the check says, and what it ensures for the files of the inputs of a search.
-/

namespace Detype

/-! ### Refusals -/

/-- The code of two inputs goes to different paths. -/
def Input.Apart (outDir : String) (a b : Input) : Prop :=
  Path.components (a.destination outDir) ≠ Path.components (b.destination outDir)

/-- The first clash: inputs before it are apart from each other, and one of them has the destination of the input
at which the check stops. -/
def FirstClash (outDir : String) (inputs : List Input) (first second : Input) : Prop :=
  ∃ earlier later, inputs = earlier ++ second :: later ∧ earlier.Pairwise (Input.Apart outDir) ∧
    earlier.filter (fun e => Path.components (e.destination outDir) == Path.components (second.destination outDir)) =
      [first]

/-- The first element with a property is the only one if no two have it. -/
theorem filter_eq_singleton {α : Type} {p : α → Bool} {l : List α} {a : α} (found : l.find? p = some a)
    (once : l.Pairwise fun x y => p x = true → p y = false) : l.filter p = [a] := by
  obtain ⟨holds, before, after, split, none⟩ := List.find?_eq_some_iff_append.mp found
  rw [split, List.pairwise_append, List.pairwise_cons] at once
  have early : before.filter p = [] := by
    rw [List.filter_eq_nil_iff]
    intro x member
    simpa using none x member
  have late : after.filter p = [] := by
    rw [List.filter_eq_nil_iff]
    intro x member
    rw [once.2.1.1 x member holds]
    exact Bool.false_ne_true
  rw [split, List.filter_append, early, List.filter_cons_of_pos holds, late, List.nil_append]

/-- Of inputs that are apart one at most has a given destination. -/
theorem Input.Apart.once {outDir : String} {inputs : List Input} (apart : inputs.Pairwise (Input.Apart outDir))
    (path : String) :
    inputs.Pairwise fun a b =>
      (Path.components (a.destination outDir) == Path.components path) = true →
        (Path.components (b.destination outDir) == Path.components path) = false := by
  refine apart.imp fun differ same => ?_
  rw [beq_iff_eq] at same
  rw [beq_eq_false_iff_ne, ← same]
  exact differ.symm

/-- **The check accepts inputs that are apart, or it refuses the first clash.** The induction is on the inputs that
are left; those before are apart. -/
theorem checkCollisions_go_cases {outDir : String} {earlier inputs : List Input}
    (apart : earlier.Pairwise (Input.Apart outDir)) :
    checkCollisions.go outDir earlier inputs = .ok () ∧ (earlier ++ inputs).Pairwise (Input.Apart outDir) ∨
      ∃ first second, FirstClash outDir (earlier ++ inputs) first second ∧
        checkCollisions.go outDir earlier inputs =
          .error (.duplicateOutput (second.destination outDir) first.path second.path) := by
  induction inputs generalizing earlier with
  | nil => exact Or.inl ⟨rfl, by rwa [List.append_nil]⟩
  | cons input rest ih =>
    rw [checkCollisions.go]
    split
    · next first found =>
      exact Or.inr ⟨first, input, ⟨earlier, rest, rfl, apart, filter_eq_singleton found (Input.Apart.once apart _)⟩, rfl⟩
    · next fresh =>
      rw [List.append_cons earlier input rest]
      refine ih (List.pairwise_append.mpr ⟨apart, List.pairwise_singleton .., fun a member b last same => ?_⟩)
      rw [List.mem_singleton.mp last] at same
      exact List.find?_eq_none.mp fresh a member (beq_iff_eq.mpr same)

/-- Inputs with a clash are not apart. -/
theorem FirstClash.not_apart {outDir : String} {inputs : List Input} {first second : Input}
    (clash : FirstClash outDir inputs first second) : ¬ inputs.Pairwise (Input.Apart outDir) := by
  obtain ⟨earlier, later, split, _, found⟩ := clash
  intro apart
  rw [split, List.pairwise_append] at apart
  have member : first ∈ earlier.filter fun e =>
      Path.components (e.destination outDir) == Path.components (second.destination outDir) := by
    rw [found]
    exact List.mem_singleton_self first
  obtain ⟨listed, same⟩ := List.mem_filter.mp member
  exact apart.2.2 first listed second List.mem_cons_self (beq_iff_eq.mp same)

/-! ### The files of inputs that are accepted -/

/-- The paths to which the output of an input may be written: those of its code and of its source map. -/
def Input.targets (input : Input) (outDir : String) : List String :=
  [input.destination outDir, mapPath (input.destination outDir)]

theorem Path.names_of_components {p q : String} (same : components p = components q) : names p = names q := by
  rw [← (split_spec p).2.1, ← (split_spec q).2.1]
  exact congrArg Prod.snd same

/-- The names of a target are those of the output directory, and then those of the code or of the source map. -/
theorem CodeAt.names_target {input : Input} {front : List (List Char)} {code : List Char}
    (codeAt : CodeAt input front code) {outDir path : String} (target : path ∈ input.targets outDir) :
    ∃ name, (name = code ∨ name = code ++ ".map".toList) ∧ Path.names path = Path.names outDir ++ (front ++ [name]) := by
  have ending := codeAt.ending outDir
  rw [Input.targets, List.mem_cons, List.mem_singleton] at target
  rcases target with rfl | rfl
  · exact ⟨code, .inl rfl, by rw [ending.names_eq, List.append_assoc]⟩
  · exact ⟨_, .inr rfl, by rw [(ending_mapPath ending).1.names_eq, List.append_assoc]⟩

/-- **Inputs that are apart have all their targets apart**, code and source maps together. -/
theorem pairwise_targets {outDir : String} {inputs : List Input} (apart : inputs.Pairwise (Input.Apart outDir))
    (placed : ∀ input ∈ inputs, ∃ front code, CodeAt input front code) :
    (inputs.flatMap (·.targets outDir)).Pairwise fun p q => Path.components p ≠ Path.components q := by
  rw [List.pairwise_flatMap]
  refine ⟨fun input member => ?_, apart.imp_of_mem fun {a b} memberA memberB differ p target q target' same => ?_⟩
  · -- No code has the name of a source map.
    obtain ⟨front, code, codeAt⟩ := placed input member
    refine List.pairwise_pair.mpr fun same => ?_
    have alike := Path.names_of_components same
    rw [(codeAt.ending outDir).names_eq, (ending_mapPath (codeAt.ending outDir)).1.names_eq] at alike
    exact codeAt.ne_map code (List.cons.inj (List.append_cancel_left alike)).1
  · obtain ⟨front, code, codeAt⟩ := placed a memberA
    obtain ⟨front', code', codeAt'⟩ := placed b memberB
    obtain ⟨name, kind, named⟩ := codeAt.names_target target
    obtain ⟨name', kind', named'⟩ := codeAt'.names_target target'
    have alike := Path.names_of_components same
    rw [named, named'] at alike
    exact codeAt.names_ne codeAt' (fun equal => differ (congrArg Path.components equal)) kind kind'
      (List.append_cancel_left alike)

theorem inputs_of_result {h : Harvest} {inputs : List Input} (found : h.result = .ok inputs) : h.inputs = inputs := by
  unfold Harvest.result at found
  split at found
  · cases found
  · exact Except.ok.inj found

/-- **The check accepts inputs just if their destinations are different paths**, and else it names the first clash.
Inputs of a search that it accepts have all their files apart, source maps included. -/
theorem checkCollisions_spec {t : FileTree} (sound : t.Sound) (outDir : String) (inputs : List Input) :
    (checkCollisions outDir inputs = .ok () ↔ inputs.Pairwise (Input.Apart outDir)) ∧
      (∀ e, checkCollisions outDir inputs = .error e → ∃ first second, FirstClash outDir inputs first second ∧
        e = .duplicateOutput (second.destination outDir) first.path second.path) ∧
      ∀ cwd ignore paths, (collect t cwd ignore paths).result = .ok inputs → checkCollisions outDir inputs = .ok () →
        (inputs.flatMap (·.targets outDir)).Pairwise fun p q => Path.components p ≠ Path.components q := by
  have cases_ : checkCollisions outDir inputs = .ok () ∧ inputs.Pairwise (Input.Apart outDir) ∨
      ∃ first second, FirstClash outDir inputs first second ∧ checkCollisions outDir inputs =
        .error (.duplicateOutput (second.destination outDir) first.path second.path) :=
    checkCollisions_go_cases List.Pairwise.nil
  have accepts : checkCollisions outDir inputs = .ok () ↔ inputs.Pairwise (Input.Apart outDir) := by
    rcases cases_ with ⟨accepted, apart⟩ | ⟨first, second, clash, refused⟩
    · exact ⟨fun _ => apart, fun _ => accepted⟩
    · rw [refused]
      exact ⟨fun impossible => (by cases impossible), fun apart => absurd apart clash.not_apart⟩
  refine ⟨accepts, fun e failed => ?_, fun cwd ignore paths found accepted => ?_⟩
  · rcases cases_ with ⟨accepted, _⟩ | ⟨first, second, clash, refused⟩
    · rw [accepted] at failed
      cases failed
    · rw [refused] at failed
      exact ⟨first, second, clash, (Except.error.inj failed).symm⟩
  · refine pairwise_targets (accepts.mp accepted) fun input member => ?_
    rw [← inputs_of_result found] at member
    exact codeAt_of_collect sound member

/-- A source file in the directory `s` and one beside it, with names that begin alike. -/
def alikeNames : FileTree :=
  ⟨[(["s"].map Text.bytesOf, .directory), (["s", "a.js.ts"].map Text.bytesOf, .file .empty),
    (["a.ts"].map Text.bytesOf, .file .empty)]⟩

theorem alikeNames_apart :
    (([⟨"s/a.js.ts", "a.js.ts"⟩, ⟨"a.ts", "a.ts"⟩] : List Input).flatMap (·.targets "o")).Pairwise
      fun p q => Path.components p ≠ Path.components q :=
  (checkCollisions_spec (FileTree.sound_of_entries (t := alikeNames) (by decide +kernel)) "o" _).2.2 [] [] ["s", "a.ts"]
    (ok_of_toOption (by decide +kernel)) (ok_of_toOption (by decide +kernel))

end Detype
