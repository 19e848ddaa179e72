import Detype.Proofs.Printer.Recording

/-
**Which options have a part in the code.**

The name of a file has a part in the code only of a universal wrapper, the bridging of imports only where modules are
loaded by `require`, and source maps have none.

* `Options.AgreeOnCode` — options that differ only where it does not matter for the code.
* `transform_congr` — they give one tree.
* `compile_congr` — they give one code with the same diagnostics, or the same error.
* `code_of_agreeing_options` — which options have to agree for one code.
-/

namespace Detype

theorem ModuleKind.usesRequire_iff {kind : ModuleKind} :
    kind.usesRequire = true ↔ kind ∈ [ModuleKind.commonJs, .amd, .umd] := by cases kind <;> simp [usesRequire]

theorem ModuleKind.not_usesRequire_iff {kind : ModuleKind} :
    kind.usesRequire = false ↔ kind ∈ [ModuleKind.system, .esModule] := by cases kind <;> simp [usesRequire]

/-- A result of which a test can be evaluated. -/
theorem exists_of_any {ε α : Type} {result : Except ε α} {test : α → Bool}
    (found : result.toOption.any test = true) : ∃ a, result = .ok a ∧ test a = true := by
  cases result with
  | error e => cases found
  | ok a => exact ⟨a, rfl, found⟩

/-- Options that differ only where it does not matter for the code. -/
structure Options.AgreeOnCode (o o' : Options) : Prop where
  module : o'.module = o.module
  jsx : o'.jsx = o.jsx
  decorators : o'.experimentalDecorators = o.experimentalDecorators
  fileName : o'.fileName = o.fileName ∨ o.module ≠ .umd
  interop : o'.importInterop = o.importInterop ∨ o.module.usesRequire = false

section Trees

variable {o o' : Options}

theorem linkNeeds_congr (agree : o.AgreeOnCode o') (body : List Stmt) (depth : Nat) :
    Compilation.linkNeeds body o' depth = Compilation.linkNeeds body o depth := by
  unfold Compilation.linkNeeds
  rw [agree.module]
  rcases agree.interop with same | unused
  · rw [same]
  · rw [unused]
    rfl

theorem link_congr (agree : o.AgreeOnCode o') (isModule : Bool) (body : List Stmt) (depth : Nat) :
    Compilation.link isModule body o' depth = Compilation.link isModule body o depth := by
  unfold Compilation.link
  rw [agree.module]
  -- Only where modules are loaded by `require` are the two other options looked at.
  cases kind : o.module with
  | esModule => rfl
  | system => rfl
  | commonJs | amd =>
    rcases agree.interop with same | unused
    · rw [same]
    · rw [kind] at unused
      cases unused
  | umd =>
    rcases agree.interop with same | unused
    · rcases agree.fileName with named | other
      · rw [same, named]
      · exact absurd kind other
    · rw [kind] at unused
      cases unused

/-- **Such options give one tree.** -/
theorem transform_congr (agree : o.AgreeOnCode o') (p : Program) (depth : Nat) :
    Compilation.transform p o' depth = Compilation.transform p o depth := by
  unfold Compilation.transform
  simp only [agree.module, agree.decorators, linkNeeds_congr agree, link_congr agree]

end Trees

/-- What a compilation gives apart from the source map. -/
def Output.visible (output : Output) : String × List Diagnostic := (output.code, output.diagnostics)

theorem Output.map_visible_fst (result : Except CompileError Output) :
    (result.map visible).map Prod.fst = result.map (·.code) := by
  cases result with
  | ok output => rfl
  | error e => rfl

/-- **Such options give one code with the same diagnostics**, or the same error. -/
theorem compile_congr {o o' : Options} (agree : o.AgreeOnCode o') (text : String) :
    (compile text o').map Output.visible = (compile text o).map Output.visible := by
  unfold compile
  rw [agree.jsx]
  cases (Source.ofString (withoutMark text)).parse o.jsx with
  | error f => rfl
  | ok parsed =>
    unfold finish
    dsimp only [Except.map, Output.visible]
    rw [transform_congr agree, agree.module, write_code _ _ _ o'.sourceMap, write_code _ _ _ o.sourceMap]

/-- **The code depends on three options, and on two more under some kinds only**: the name of the file under a
universal wrapper, and the bridging of imports where modules are loaded by `require`. Source maps have no part in it. -/
theorem code_of_agreeing_options {o o' : Options} (kind : o'.module = o.module) (jsx : o'.jsx = o.jsx)
    (decorators : o'.experimentalDecorators = o.experimentalDecorators)
    (fileName : o'.fileName = o.fileName ∨ o.module ≠ .umd)
    (interop : o'.importInterop = o.importInterop ∨ o.module ∈ [ModuleKind.system, .esModule]) (text : String) :
    (compile text o').map (·.code) = (compile text o).map (·.code) := by
  have agree : o.AgreeOnCode o' :=
    ⟨kind, jsx, decorators, fileName, interop.imp_right ModuleKind.not_usesRequire_iff.mpr⟩
  have code := congrArg (Except.map Prod.fst) (compile_congr agree text)
  rwa [Output.map_visible_fst, Output.map_visible_fst] at code

/-- A module for a loader that links, with and without a name, a source map and the bridging of imports. -/
theorem namedSystemModule_code :
    (compile "import a from 'a'; export default import('b');" { module := .system }).isOk = true ∧
      (compile "import a from 'a'; export default import('b');"
          { module := .system, fileName := some "c.ts", sourceMap := true, importInterop := .none }).map (·.code) =
        (compile "import a from 'a'; export default import('b');" { module := .system }).map (·.code) := by
  refine ⟨by decide +kernel, ?_⟩
  exact @code_of_agreeing_options { module := .system }
    { module := .system, fileName := some "c.ts", sourceMap := true, importInterop := .none } rfl rfl rfl
    (Or.inr (by decide)) (Or.inr (by decide)) "import a from 'a'; export default import('b');"

end Detype
