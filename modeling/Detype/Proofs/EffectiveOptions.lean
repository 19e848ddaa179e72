import Detype.Proofs.Run.Collected
import Detype.Settings

/-
**The options in force for a file.**

Every option has its layers: what the arguments say goes before what the project file says, and that before the
default. A name of a module convention in the project file has to be known even if the arguments name another one.

* `ModuleKind.vocabulary` — the names of module conventions in a project file; `ModuleKind.ofConfigName?_eq` — a name
  is looked up in small letters.
* `configured` — what a project file says about an option; `MisnamesModule` — it names a convention that there is not.
* `Settings.layered` — the settings, layer by layer; `Settings.resolve_cases` — they are those of the run, unless the
  project file misnames a convention.
* `Path.suffix_fileName_iff` — the name under which a file is compiled ends as the last name of its path does.
* `Settings.InForce` — what is in force for a file; `Settings.resolve_inForce` — it is so for every run and path.
-/

namespace Detype

/-! ### Names of module conventions -/

/-- The names that module conventions have in project files, in small letters. -/
def ModuleKind.vocabulary : List (String × ModuleKind) :=
  [("commonjs", .commonJs), ("cjs", .commonJs), ("none", .commonJs), ("node16", .commonJs), ("node18", .commonJs),
   ("nodenext", .commonJs), ("amd", .amd), ("umd", .umd), ("system", .system), ("es6", .esModule),
   ("es2015", .esModule), ("es2020", .esModule), ("es2022", .esModule), ("esnext", .esModule),
   ("preserve", .esModule), ("esmodule", .esModule), ("esm", .esModule)]

theorem ModuleKind.lookup_eq_none {word : String} :
    vocabulary.lookup word = none ↔ word ∉ vocabulary.map Prod.fst := by
  rw [List.lookup_eq_none_iff, List.mem_map]
  simp only [bne_iff_ne, ne_eq]
  constructor
  · rintro others ⟨p, member, same⟩
    exact others p member same.symm
  · exact fun none p member same => none ⟨p, member, same.symm⟩

/-- **A name is looked up in small letters.** -/
theorem ModuleKind.ofConfigName?_eq (name : String) : ofConfigName? name = vocabulary.lookup name.toLower := by
  unfold ofConfigName?
  generalize name.toLower = word
  split
  case h_18 =>
    symm
    rw [lookup_eq_none]
    simp_all [vocabulary]
  all_goals rfl

/-! ### Layers -/

/-- What a project file says about an option, if there is one and it does. -/
def configured {α : Type} (project : Option (String × Project)) (option : ProjectOptions → Option α) : Option α :=
  project.bind fun (_, p) => option p.compilerOptions

/-- The output directory of a project file, which is relative to the directory of that file. -/
def configuredOutDir (project : Option (String × Project)) : Option String :=
  project.bind fun (path, p) => p.compilerOptions.outDir.map (Path.join ((Path.parent? path).getD ""))

/-- A project file names a module convention by a name that none has. -/
def MisnamesModule (project : Option (String × Project)) (name : String) : Prop :=
  configured project (·.module) = some name ∧ name.toLower ∉ ModuleKind.vocabulary.map Prod.fst

/-- The module convention that a project file names. -/
def configuredKind (project : Option (String × Project)) : Option ModuleKind :=
  (configured project (·.module)).bind fun name => ModuleKind.vocabulary.lookup name.toLower

/-- The module convention of a project file is known, or it is misnamed. -/
theorem moduleKind_cases (path : String) (p : Project) :
    (∃ name, MisnamesModule (some (path, p)) name ∧ p.moduleKind = .error ⟨name⟩) ∨
      (∀ name, ¬ MisnamesModule (some (path, p)) name) ∧ p.moduleKind = .ok (configuredKind (some (path, p))) := by
  cases named : p.compilerOptions.module with
  | none =>
    have silent : configured (some (path, p)) (·.module) = none := named
    refine Or.inr ⟨fun name misnames => ?_, ?_⟩
    · rw [MisnamesModule, silent] at misnames
      cases misnames.1
    · rw [configuredKind, silent, Project.moduleKind, named]
      rfl
  | some name =>
    have told : configured (some (path, p)) (·.module) = some name := named
    cases found : ModuleKind.vocabulary.lookup name.toLower with
    | none =>
      refine Or.inl ⟨name, ⟨told, ModuleKind.lookup_eq_none.mp found⟩, ?_⟩
      rw [Project.moduleKind, named]
      dsimp only
      rw [ModuleKind.ofConfigName?_eq, found]
    | some kind =>
      refine Or.inr ⟨fun other misnames => ?_, ?_⟩
      · rw [MisnamesModule, told] at misnames
        obtain ⟨same, unknown⟩ := misnames
        rw [← Option.some.inj same, ← ModuleKind.lookup_eq_none, found] at unknown
        cases unknown
      · rw [configuredKind, told, Project.moduleKind, named]
        dsimp only [Option.bind_some]
        rw [ModuleKind.ofConfigName?_eq, found]

namespace Settings

/-- The settings of a run: for each, what the arguments say, or else what the project file says, or else the default. -/
def layered (args : Arguments) (project : Option (String × Project)) : Settings where
  options :=
    { module := args.module.getD ((configuredKind project).getD .commonJs)
      sourceMap := args.sourceMap || (configured project (·.sourceMap)).getD false
      importInterop := if configured project (·.esModuleInterop) = some false then .none else .wrapped
      experimentalDecorators := (configured project (·.experimentalDecorators)).getD false }
  outDir := args.outDir.or (configuredOutDir project)

/-- **The settings of a run** are those of the layers, unless the project file names a module convention that there is
not. -/
theorem resolve_cases (args : Arguments) (project : Option (String × Project)) :
    (∃ name, MisnamesModule project name ∧ resolve args project = .error ⟨name⟩) ∨
      (∀ name, ¬ MisnamesModule project name) ∧ resolve args project = .ok (layered args project) := by
  cases project with
  | none => exact Or.inr ⟨fun name misnames => Option.some_ne_none name misnames.1.symm, rfl⟩
  | some found =>
    obtain ⟨path, p⟩ := found
    have interop : (if (p.compilerOptions.esModuleInterop == some false) = true then Interop.none else .wrapped) =
        if p.compilerOptions.esModuleInterop = some false then .none else .wrapped := by
      simp only [beq_iff_eq]
    rcases moduleKind_cases path p with ⟨name, misnames, fails⟩ | ⟨named, known⟩
    · refine Or.inl ⟨name, misnames, ?_⟩
      rw [resolve]
      dsimp only
      rw [ofProject, fails]
      rfl
    · refine Or.inr ⟨named, ?_⟩
      rw [resolve]
      dsimp only
      rw [ofProject, known, interop]
      rfl

/-- The options for a file, one by one. -/
theorem optionsFor_eq (settings : Settings) (path : String) :
    settings.optionsFor path =
      { settings.options with
        fileName := some ((Path.fileName? path).getD path)
        jsx := settings.options.jsx || ((Path.fileName? path).getD path).endsWith ".tsx"
        sourceMap := settings.outDir.isSome && settings.options.sourceMap } := by
  unfold optionsFor Options.withFileName
  cases settings.outDir <;> rfl

end Settings

/-! ### The name of a file -/

namespace Path

/-- An ending of a path that has no slash, and is more than dots, is one of its last name. -/
theorem getLast?_names_of_suffix {path : String} {ending : List Char} (slashless : '/' ∉ ending)
    (undotted : ¬ ending <:+ ['.', '.']) (ends : ending <:+ path.toList) :
    ∃ last, (names path).getLast? = some last ∧ ending <:+ last := by
  obtain ⟨front, last, split⟩ := List.eq_nil_or_concat (pieces path.toList) |>.resolve_left (pieces_ne_nil _)
  rw [List.concat_eq_append] at split
  obtain ⟨before, spelled⟩ := ends
  rw [← joinPieces_pieces path.toList, split] at spelled
  have lastEnds : ending <:+ last := suffix_of_joinPieces spelled.symm slashless
  -- A last piece that names nothing is empty or a dot, and so its endings are dots.
  have named : isTrivial last = false := by
    refine Bool.eq_false_iff.mpr fun trivial => undotted ?_
    rw [isTrivial, Bool.or_eq_true, List.isEmpty_iff, beq_iff_eq] at trivial
    rcases trivial with rfl | rfl
    · exact lastEnds.trans List.nil_suffix
    · exact lastEnds.trans ⟨['.'], rfl⟩
  refine ⟨last, ?_, lastEnds⟩
  rw [names, split, List.filter_append]
  simp [named]

/-- **The name under which a file is compiled** ends as the last name of its path does. It is the whole path if that has
no file name, but then the path ends in dots or in a slash. -/
theorem suffix_fileName_iff {path : String} {ending : List Char} (slashless : '/' ∉ ending)
    (undotted : ¬ ending <:+ ['.', '.']) :
    ending <:+ ((fileName? path).getD path).toList ↔ ∃ last, (names path).getLast? = some last ∧ ending <:+ last := by
  rw [fileName?_eq]
  split
  · next dots =>
    rw [Option.getD_none]
    refine ⟨getLast?_names_of_suffix slashless undotted, ?_⟩
    rintro ⟨last, named, ends⟩
    rw [dots] at named
    exact absurd (Option.some.inj named ▸ ends) undotted
  · next last _ named =>
    rw [Option.getD_some, String.toList_ofList, named]
    exact ⟨fun ends => ⟨last, rfl, ends⟩, fun ⟨_, same, ends⟩ => Option.some.inj same ▸ ends⟩
  · next nameless =>
    rw [Option.getD_none]
    refine ⟨getLast?_names_of_suffix slashless undotted, ?_⟩
    rintro ⟨last, named, _⟩
    rw [nameless] at named
    cases named

end Path

theorem endsWith_iff (text ending : String) : text.endsWith ending = true ↔ ending.toList <:+ text.toList := by
  rw [String.endsWith_eq_endsWith_toSlice, String.Slice.endsWith_string_iff, String.copy_toSlice]

/-! ### What is in force -/

namespace Settings

/-- What is in force for an input under the settings of a run. -/
structure InForce (settings : Settings) (args : Arguments) (project : Option (String × Project)) (input : String) :
    Prop where
  /-- The arguments go before the project file, and that before the default. -/
  module : (settings.optionsFor input).module = args.module.getD ((configuredKind project).getD .commonJs)
  /-- The name is the file name, or the whole path if that has none. -/
  fileName : (settings.optionsFor input).fileName = some ((Path.fileName? input).getD input)
  /-- JSX is read in files whose last name says so. -/
  jsx : (settings.optionsFor input).jsx = true ↔
    ∃ last, (Path.names input).getLast? = some last ∧ ['.', 't', 's', 'x'] <:+ last
  /-- There are source maps if they are asked for, but only beside output files. -/
  sourceMap : (settings.optionsFor input).sourceMap = true ↔
    settings.outDir ≠ none ∧ (args.sourceMap = true ∨ configured project (·.sourceMap) = some true)
  importInterop : (settings.optionsFor input).importInterop =
    if configured project (·.esModuleInterop) = some false then .none else .wrapped
  experimentalDecorators : (settings.optionsFor input).experimentalDecorators =
    (configured project (·.experimentalDecorators)).getD false
  /-- The directory of the arguments is taken as it is, and that of the project file is below that file's directory. -/
  outDir : settings.outDir = args.outDir.or (configuredOutDir project)

theorem inForce_layered (args : Arguments) (project : Option (String × Project)) (input : String) :
    (layered args project).InForce args project input where
  module := by rw [optionsFor_eq]; rfl
  fileName := by rw [optionsFor_eq]
  jsx := by
    have spelled : ".tsx".toList = ['.', 't', 's', 'x'] := by decide
    have plain : (layered args project).options.jsx = false := rfl
    rw [optionsFor_eq, plain, Bool.false_or, endsWith_iff, spelled]
    exact Path.suffix_fileName_iff (by decide) (by decide)
  sourceMap := by
    have asked : (layered args project).options.sourceMap =
        (args.sourceMap || (configured project (·.sourceMap)).getD false) := rfl
    have said : ∀ b : Option Bool, b.getD false = true ↔ b = some true := by
      rintro (_ | b) <;> simp
    rw [optionsFor_eq, asked, Bool.and_eq_true, Option.isSome_iff_ne_none, Bool.or_eq_true, said]
  importInterop := by rw [optionsFor_eq]; rfl
  experimentalDecorators := by rw [optionsFor_eq]; rfl
  outDir := rfl

/-- **The options in force for a file.** Settings fail just if the project file names a module convention that there is
not, whatever the arguments say, and then for that name. Otherwise what is in force for every input are the arguments
before the project file before the defaults. -/
theorem resolve_inForce (args : Arguments) (project : Option (String × Project)) :
    (∀ e, resolve args project = .error e ↔ MisnamesModule project e.name) ∧
      ((∀ name, ¬ MisnamesModule project name) →
        ∃ settings, resolve args project = .ok settings ∧ ∀ input, settings.InForce args project input) := by
  rcases resolve_cases args project with ⟨name, misnames, fails⟩ | ⟨named, resolved⟩
  · refine ⟨fun e => ?_, fun none => absurd misnames (none name)⟩
    rw [fails]
    constructor
    · intro same
      cases same
      exact misnames
    · intro also
      have same : name = e.name := Option.some.inj (misnames.1.symm.trans also.1)
      rw [same]
  · refine ⟨fun e => ?_, fun _ => ⟨_, resolved, inForce_layered args project⟩⟩
    rw [resolved]
    exact ⟨fun fails => (by cases fails), fun misnames => absurd misnames (named e.name)⟩

/-- A project file that misnames its convention stops also a run that names one. With a known one, the arguments have
their way, and the rest of what the file says stays in force. -/
theorem amd_inForce :
    resolve { module := some .amd } (some ("a/tsconfig.json", ⟨{ module := some "JSONP" }⟩)) = .error ⟨"JSONP"⟩ ∧
      ∃ settings,
        resolve { module := some .amd, sourceMap := true }
            (some ("a/tsconfig.json", ⟨{ module := some "ESNext", outDir := some "o" }⟩)) = .ok settings ∧
          (settings.optionsFor "s/v.tsx/.").module = .amd ∧ (settings.optionsFor "s/v.tsx/.").jsx = true ∧
          (settings.optionsFor "s/v.tsx/.").sourceMap = true ∧ settings.outDir = some "a/o" := by
  have misnamed : MisnamesModule (some ("a/tsconfig.json", ⟨{ module := some "JSONP" }⟩)) "JSONP" :=
    ⟨rfl, by decide +kernel⟩
  have known : ∀ name, ¬ MisnamesModule
      (some ("a/tsconfig.json", ⟨{ module := some "ESNext", outDir := some "o" }⟩)) name := by
    rintro name ⟨told, unknown⟩
    rw [← Option.some.inj told] at unknown
    exact unknown (by decide +kernel)
  obtain ⟨settings, resolved, inForce⟩ := (resolve_inForce { module := some .amd, sourceMap := true } _).2 known
  have below : settings.outDir = some "a/o" := (inForce "").outDir.trans (by decide)
  have holds := inForce "s/v.tsx/."
  exact ⟨((resolve_inForce _ _).1 ⟨"JSONP"⟩).mpr misnamed, settings, resolved, holds.module,
    holds.jsx.mpr ⟨"v.tsx".toList, by decide, by decide⟩,
    holds.sourceMap.mpr ⟨by rw [below]; exact Option.some_ne_none _, Or.inl rfl⟩, below⟩

end Settings

end Detype
