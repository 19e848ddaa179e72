import Detype.CommandLine.Parse
import Mathlib.Data.List.Basic

/-
**Command lines of given arguments.**

All arguments of a run can be written on a command line, whatever their texts are: each option with its value after an
equals sign, and the inputs after `--`. They are read back from it, in whatever order the options stand.

* `CommandLine.Setting` — one option of a command line; `Arguments.settings` — the options that say arguments.
* `CommandLine.ofFlag`, `CommandLine.collect` — the options of one flag, and what a list of options says.
* `CommandLine.setValue_collect`, `CommandLine.setFlag_collect` — what one more option does.
* `CommandLine.Told` — how far a command line is read; `CommandLine.step_setting` — reading an option,
  `CommandLine.read_settings` — and reading them all.
* `CommandLine.ofFlag_of_perm` — the order of options is that of each flag by itself.
* `Arguments.parse_commandLine` — arguments are read back from a command line.
-/

namespace Detype

namespace CommandLine

/-! ### Options of a command line -/

/-- An option of a command line. -/
inductive Setting where
  | value (flag : Flag) (text : String)
  /-- An option that takes no value. -/
  | switch (flag : Flag)
deriving DecidableEq

namespace Setting

def flag : Setting → Flag
  | value f _ => f
  | switch f => f

/-- The value of an option, empty if it takes none. -/
def text : Setting → String
  | value _ v => v
  | switch _ => ""

/-- An option as one argument. -/
def argument : Setting → String
  | value f v => "--" ++ f.long ++ "=" ++ v
  | switch f => "--" ++ f.long

end Setting

/-- An option that is given or not. -/
def onlyIf (given : Bool) (t : Setting) : List Setting := if given then [t] else []

theorem mem_onlyIf {given : Bool} {t u : Setting} : t ∈ onlyIf given u ↔ given = true ∧ t = u := by
  cases given <;> simp [onlyIf]

theorem length_onlyIf (given : Bool) (t : Setting) : (onlyIf given t).length ≤ 1 := by
  cases given <;> simp [onlyIf]

theorem isEmpty_onlyIf (given : Bool) (t : Setting) : (onlyIf given t).isEmpty = !given := by
  cases given <;> rfl

/-- A name for each kind of modules, by which it is read. -/
structure KindNames where
  name : ModuleKind → String
  read : ∀ kind, ModuleKind.ofConfigName? (name kind) = some kind

/-- Each kind is read by its own name. -/
def KindNames.own : KindNames where
  name := ModuleKind.name
  read := fun kind => by cases kind <;> decide +kernel

end CommandLine

open CommandLine

/-- The options that say arguments, for one flag. A kind of modules has one of its names, and the format of reports is
left out if it is that for readers, unless all is to be told. -/
def Arguments.settingsOf (a : Arguments) (names : KindNames) (full : Bool) : Flag → List Setting
  | .outDir => a.outDir.toList.map (.value .outDir)
  | .module => a.module.toList.map fun kind => .value .module (names.name kind)
  | .project => a.project.toList.map (.value .project)
  | .output => onlyIf (full || a.output != .human) (.value .output a.output.name)
  | .ignore => a.ignore.map (.value .ignore)
  | .sourceMap => onlyIf a.sourceMap (.switch .sourceMap)
  | .diagnostics => onlyIf a.diagnostics (.switch .diagnostics)
  | .failOnDiagnostics => onlyIf a.failOnDiagnostics (.switch .failOnDiagnostics)
  | .verbose => onlyIf a.verbose (.switch .verbose)
  | .help | .version => []

/-- The options that say arguments, flag by flag. -/
def Arguments.settings (a : Arguments) (names : KindNames) (full : Bool) : List Setting :=
  Flag.all.flatMap (a.settingsOf names full)

namespace CommandLine

/-- The options of one flag in a list, in their order. -/
def ofFlag (ss : List Setting) (f : Flag) : List Setting := ss.filter (·.flag == f)

theorem ofFlag_append (ss : List Setting) (s : Setting) (f : Flag) :
    ofFlag (ss ++ [s]) f = ofFlag ss f ++ if s.flag = f then [s] else [] := by
  by_cases same : s.flag = f <;> simp [ofFlag, same]

theorem mem_ofFlag {ss : List Setting} {s : Setting} (member : s ∈ ss) : s ∈ ofFlag ss s.flag :=
  List.mem_filter.mpr ⟨member, beq_self_eq_true s.flag⟩

/-! ### What options say -/

/-- An option whose value can be read, or that takes none and is not about the program itself. -/
def Setting.Readable : Setting → Prop
  | value .module v => ∃ kind, ModuleKind.ofConfigName? v = some kind
  | value .output v => ∃ format, ReportFormat.ofName? v = some format
  | value f _ => f.takesValue = true
  | switch f => f.takesValue = false ∧ f ≠ .help ∧ f ≠ .version

/-- What options say, given those of each flag. -/
def collect (given : Flag → List Setting) : Arguments where
  outDir := (given .outDir).getLast?.map Setting.text
  module := (given .module).getLast?.bind fun s => ModuleKind.ofConfigName? s.text
  project := (given .project).getLast?.map Setting.text
  sourceMap := !(given .sourceMap).isEmpty
  diagnostics := !(given .diagnostics).isEmpty
  output := ((given .output).getLast?.bind fun s => ReportFormat.ofName? s.text).getD .human
  failOnDiagnostics := !(given .failOnDiagnostics).isEmpty
  ignore := (given .ignore).map Setting.text
  verbose := !(given .verbose).isEmpty

theorem collect_nil : collect (ofFlag []) = {} := rfl

/-- **One more option with a value** sets it. -/
theorem setValue_collect {f : Flag} {v : String} (readable : (Setting.value f v).Readable) (ss : List Setting) :
    setValue (collect (ofFlag ss)) f v = .ok (collect (ofFlag (ss ++ [.value f v]))) := by
  cases f with
  | module =>
    obtain ⟨kind, named⟩ := readable
    simp [setValue, collect, ofFlag_append, Setting.flag, Setting.text, named]
  | output =>
    obtain ⟨format, named⟩ := readable
    simp [setValue, collect, ofFlag_append, Setting.flag, Setting.text, named]
  | outDir | project | ignore => simp [setValue, collect, ofFlag_append, Setting.flag, Setting.text]
  | _ => cases readable

/-- **One more option without a value** is set. -/
theorem setFlag_collect {f : Flag} (readable : (Setting.switch f).Readable) (ss : List Setting) :
    setFlag (collect (ofFlag ss)) f = collect (ofFlag (ss ++ [.switch f])) := by
  cases f with
  | sourceMap | diagnostics | failOnDiagnostics | verbose =>
    simp [setFlag, collect, ofFlag_append, Setting.flag]
  | help => exact absurd rfl readable.2.1
  | version => exact absurd rfl readable.2.2
  | _ => cases readable.1

/-! ### Reading one option -/

/-- Where no value is left aside, reading just goes on. -/
theorem State.settled_eq {s : State} (nothing : s.pending = none) (next : State → Except ArgumentError State) :
    s.settled next = next s := by
  rw [settled, settle, nothing]

/-- How far a command line is read when some options of it are. -/
structure Told (s : State) (ss : List Setting) : Prop where
  pending : s.pending = none
  arguments : s.arguments = collect (ofFlag ss)
  used : ∀ f ∈ s.used, ∃ t ∈ ss, t.flag = f

theorem told_nil : Told {} [] := ⟨rfl, collect_nil.symm, by simp⟩

theorem ofLong?_long (f : Flag) : Flag.ofLong? f.long = some f := by cases f <;> rfl

theorem equals_not_mem_long (f : Flag) : '=' ∉ f.long.toList := by cases f <;> decide

theorem splitEquals_of_not_mem {cs : List Char} (none : '=' ∉ cs) : splitEquals cs = (cs, .none) := by
  induction cs with
  | nil => rfl
  | cons c cs ih =>
    obtain ⟨first, later⟩ := List.ne_and_not_mem_of_not_mem_cons none
    rw [splitEquals, if_neg (Ne.symm first), ih later]

/-- A name ends at the first equals sign; the value after it is any text. -/
theorem splitEquals_append {name : List Char} (none : '=' ∉ name) (value : List Char) :
    splitEquals (name ++ '=' :: value) = (name, some value) := by
  induction name with
  | nil => rfl
  | cons c name ih =>
    obtain ⟨first, later⟩ := List.ne_and_not_mem_of_not_mem_cons none
    rw [List.cons_append, splitEquals, if_neg (Ne.symm first), ih later]

namespace Told

variable {s : State} {ss : List Setting}

theorem settled (told : Told s ss) (next : State → Except ArgumentError State) : s.settled next = next s :=
  State.settled_eq told.pending next

theorem not_mem_used (told : Told s ss) {f : Flag} (fresh : ∀ t ∈ ss, t.flag ≠ f) : f ∉ s.used := by
  intro used
  obtain ⟨t, member, same⟩ := told.used f used
  exact fresh t member same

/-- An option that was read is marked. -/
theorem used_mark (told : Told s ss) (t : Setting) : ∀ f ∈ (s.mark t.flag).used, ∃ u ∈ ss ++ [t], u.flag = f := by
  have before : ∀ f ∈ s.used, ∃ u ∈ ss ++ [t], u.flag = f := by
    intro f member
    obtain ⟨u, given, same⟩ := told.used f member
    exact ⟨u, List.mem_append_left [t] given, same⟩
  unfold State.mark
  split
  · exact before
  · intro f member
    rcases List.mem_append.mp member with member | last
    · exact before f member
    · exact ⟨t, List.mem_append_right ss List.mem_cons_self, (List.mem_singleton.mp last).symm⟩

end Told

theorem arguments_mark (s : State) (f : Flag) : (s.mark f).arguments = s.arguments := by
  unfold State.mark
  split <;> rfl

theorem pending_mark (s : State) (f : Flag) : (s.mark f).pending = s.pending := by
  unfold State.mark
  split <;> rfl

theorem Setting.Readable.takesValue {f : Flag} {v : String} (readable : (Setting.value f v).Readable) :
    f.takesValue = true := by
  cases f with
  | outDir | module | project | output | ignore => rfl
  | _ => cases readable

/-- An option may come next: it was not given, or it may be repeated. -/
def Fresh (f : Flag) (ss : List Setting) : Prop := f = .ignore ∨ ∀ t ∈ ss, t.flag ≠ f

/-- Only patterns that are ignored may be repeated, and they take a value. -/
theorem Fresh.not_given {f : Flag} {ss : List Setting} (fresh : Fresh f ss) (single : f.isRepeatable = false) :
    ∀ t ∈ ss, t.flag ≠ f := by
  refine fresh.resolve_left ?_
  rintro rfl
  cases single

namespace Told

variable {s : State} {ss : List Setting} {f : Flag}

theorem contains_used (told : Told s ss) (fresh : Fresh f ss) : (s.used.contains f && !f.isRepeatable) = false := by
  cases repeatable : f.isRepeatable with
  | true => exact Bool.and_false _
  | false =>
    have unused := told.not_mem_used (fresh.not_given repeatable)
    rw [List.contains_eq_mem, decide_eq_false unused, Bool.false_and]

/-- An option with its value is put into the arguments. -/
theorem enter (told : Told s ss) {v : String} (readable : (Setting.value f v).Readable) (fresh : Fresh f ss) :
    ∃ s', s.enter f v = (s', .ok ()) ∧ Told s' (ss ++ [.value f v]) := by
  have set := setValue_collect readable ss
  rw [← told.arguments, ← arguments_mark s f] at set
  rw [State.enter, told.contains_used fresh, if_neg Bool.false_ne_true]
  dsimp only
  rw [set]
  exact ⟨_, rfl, rfl, rfl, told.used_mark (.value f v)⟩

/-- An option that takes no value is put into the arguments. -/
theorem flag (told : Told s ss) (readable : (Setting.switch f).Readable) (fresh : Fresh f ss) :
    ∃ s', s.flag f true = .ok s' ∧ Told s' (ss ++ [.switch f]) := by
  have single : f.isRepeatable = false := by
    cases f with
    | ignore => cases readable.1
    | _ => rfl
  have unused := told.contains_used fresh
  rw [single, Bool.not_false, Bool.and_true] at unused
  have set := setFlag_collect readable ss
  rw [← told.arguments] at set
  rw [State.flag, told.settled]
  split
  · exact absurd rfl readable.2.1
  · exact absurd rfl readable.2.2
  · rw [unused, if_neg Bool.false_ne_true]
    exact ⟨_, rfl, (pending_mark s f).trans told.pending, set, told.used_mark (.switch f)⟩

end Told

/-- **An option is read**, with its value if it takes one, whatever text that is. -/
theorem step_setting {s : State} {ss : List Setting} (told : Told s ss) {t : Setting} (readable : t.Readable)
    (fresh : Fresh t.flag ss) : ∃ s', s.step t.argument = .ok s' ∧ Told s' (ss ++ [t]) := by
  cases t with
  | value f v =>
    obtain ⟨s', entered, told'⟩ := told.enter readable fresh
    have text : (Setting.value f v).argument.toList = '-' :: '-' :: (f.long.toList ++ '=' :: v.toList) := by
      simp [Setting.argument]
    refine ⟨s', ?_, told'⟩
    rw [State.step, text]
    show s.long (f.long.toList ++ '=' :: v.toList) = _
    rw [State.long, splitEquals_append (equals_not_mem_long f)]
    simp only [String.ofList_toList, ofLong?_long, readable.takesValue, if_true, State.attached, told.settled, entered]
  | switch f =>
    obtain ⟨s', flagged, told'⟩ := told.flag readable fresh
    have text : (Setting.switch f).argument.toList = '-' :: '-' :: f.long.toList := by simp [Setting.argument]
    refine ⟨s', ?_, told'⟩
    rw [State.step, text]
    show s.long f.long.toList = _
    rw [State.long, splitEquals_of_not_mem (equals_not_mem_long f)]
    simp only [String.ofList_toList, ofLong?_long, readable.1, Bool.false_eq_true, if_false, flagged]

/-! ### Reading a command line -/

theorem argument_ne_dashes (t : Setting) : t.argument ≠ "--" := by
  intro dashes
  have named : ∀ f : Flag, f.long.toList ≠ [] := fun f => by cases f <;> decide
  have same := congrArg String.toList dashes
  cases t with
  | value f v => simp [Setting.argument] at same
  | switch f => exact named f (by simpa [Setting.argument] using same)

/-- Some more inputs. -/
def State.withInputs (s : State) (inputs : List String) : State :=
  { s with arguments := { s.arguments with inputs := s.arguments.inputs ++ inputs } }

theorem State.withInputs_nil (s : State) : s.withInputs [] = s := by simp [withInputs]

theorem State.withInputs_withInputs (s : State) (inputs more : List String) :
    (s.withInputs inputs).withInputs more = s.withInputs (inputs ++ more) := by
  simp [withInputs]

/-- Inputs are taken as they are, whatever they begin with. -/
theorem foldlM_input {s : State} (nothing : s.pending = none) (inputs : List String) :
    inputs.foldlM State.input s = .ok (s.withInputs inputs) := by
  induction inputs generalizing s with
  | nil => exact congrArg Except.ok s.withInputs_nil.symm
  | cons input inputs ih =>
    have first : s.input input = .ok (s.withInputs [input]) := State.settled_eq nothing _
    have later : (s.withInputs [input]).pending = none := nothing
    rw [List.foldlM_cons, first]
    show inputs.foldlM State.input (s.withInputs [input]) = _
    rw [ih later, State.withInputs_withInputs, List.singleton_append]

/-- **A command line is read option by option**, and then its inputs are taken. By induction on the options that are
still to come. -/
theorem read_settings {s : State} {ss ts : List Setting} (told : Told s ss) (readable : ∀ t ∈ ts, t.Readable)
    (fresh : ∀ before t after, ts = before ++ t :: after → Fresh t.flag (ss ++ before)) (inputs : List String) :
    (s.read (ts.map Setting.argument ++ "--" :: inputs)).map (·.arguments) =
      .ok { collect (ofFlag (ss ++ ts)) with inputs } := by
  induction ts generalizing s ss with
  | nil =>
    have nothing : (s.withInputs inputs).pending = none := told.pending
    have first : s.arguments.inputs = [] := by
      rw [told.arguments]
      rfl
    rw [List.map_nil, List.nil_append, State.read, foldlM_input told.pending]
    dsimp only
    rw [State.settled_eq nothing, List.append_nil, ← told.arguments]
    simp [State.withInputs, first, Except.map]
  | cons t ts ih =>
    obtain ⟨s', step, told'⟩ := step_setting told (readable t List.mem_cons_self) (by simpa using fresh [] t ts rfl)
    rw [List.map_cons, List.cons_append, State.read, step]
    · have rest := ih told' (fun u member => readable u (List.mem_cons_of_mem t member)) fun before u after split => by
        simpa using fresh (t :: before) u after (by rw [split]; rfl)
      simpa using rest
    · exact argument_ne_dashes t

/-! ### The options of arguments -/

theorem ofName?_name (format : ReportFormat) : ReportFormat.ofName? format.name = some format := by
  cases format <;> rfl

section Settings

variable {a : Arguments} {names : KindNames} {full : Bool}

/-- The options of one flag have this flag. -/
theorem flag_of_settingsOf {f : Flag} {t : Setting} (member : t ∈ a.settingsOf names full f) : t.flag = f := by
  cases f with
  | outDir | module | project | ignore =>
    obtain ⟨_, _, rfl⟩ := List.mem_map.mp member
    rfl
  | output | sourceMap | diagnostics | failOnDiagnostics | verbose =>
    obtain ⟨_, rfl⟩ := mem_onlyIf.mp member
    rfl
  | help | version => cases member

/-- Options are given once, patterns that are ignored aside. -/
theorem length_settingsOf {f : Flag} (single : f ≠ .ignore) : (a.settingsOf names full f).length ≤ 1 := by
  have optional : ∀ {α : Type} (o : Option α) (g : α → Setting), (o.toList.map g).length ≤ 1 := by
    intro α o g
    cases o <;> simp
  cases f with
  | outDir | module | project => exact optional _ _
  | output | sourceMap | diagnostics | failOnDiagnostics | verbose => exact length_onlyIf _ _
  | ignore => exact absurd rfl single
  | help | version => exact Nat.zero_le 1

theorem readable_of_settingsOf {f : Flag} {t : Setting} (member : t ∈ a.settingsOf names full f) : t.Readable := by
  cases f with
  | outDir | project | ignore =>
    obtain ⟨_, _, rfl⟩ := List.mem_map.mp member
    rfl
  | module =>
    obtain ⟨kind, _, rfl⟩ := List.mem_map.mp member
    exact ⟨kind, names.read kind⟩
  | output =>
    obtain ⟨_, rfl⟩ := mem_onlyIf.mp member
    exact ⟨a.output, ofName?_name a.output⟩
  | sourceMap | diagnostics | failOnDiagnostics | verbose =>
    obtain ⟨_, rfl⟩ := mem_onlyIf.mp member
    exact ⟨rfl, nofun, nofun⟩
  | help | version => cases member

/-- **The options of arguments say them**, inputs aside. -/
theorem collect_settingsOf : { collect (a.settingsOf names full) with inputs := a.inputs } = a := by
  have texts : ∀ (f : Flag) (o : Option String), (o.toList.map (Setting.value f)).getLast?.map Setting.text = o := by
    intro f o
    cases o <;> rfl
  have patterns : (a.ignore.map (Setting.value .ignore)).map Setting.text = a.ignore := by
    rw [List.map_map]
    exact List.map_id a.ignore
  have kinds : ((a.module.toList.map fun kind => Setting.value .module (names.name kind)).getLast?.bind
      fun t => ModuleKind.ofConfigName? t.text) = a.module := by
    cases a.module with
    | none => rfl
    | some kind => exact names.read kind
  have formats : ((onlyIf (full || a.output != .human) (.value .output a.output.name)).getLast?.bind
      fun t => ReportFormat.ofName? t.text).getD .human = a.output := by
    cases given : full || a.output != .human with
    | true => exact congrArg (Option.getD · ReportFormat.human) (ofName?_name a.output)
    | false =>
      have human : a.output = .human := by simpa using (Bool.or_eq_false_iff.mp given).2
      rw [human]
      rfl
  simp only [collect, Arguments.settingsOf, texts, patterns, kinds, formats, isEmpty_onlyIf, Bool.not_not]

end Settings

/-! ### The order of options -/

section Order

variable {a : Arguments} {names : KindNames} {full : Bool} {order : List Setting}

theorem ofFlag_settings (f : Flag) : ofFlag (a.settings names full) f = a.settingsOf names full f := by
  have own : ∀ g, ofFlag (a.settingsOf names full g) f = if g = f then a.settingsOf names full f else [] := by
    intro g
    split
    · next same =>
      subst same
      exact List.filter_eq_self.mpr fun t member => beq_iff_eq.mpr (flag_of_settingsOf member)
    · next other =>
      exact List.filter_eq_nil_iff.mpr fun t member same =>
        other ((flag_of_settingsOf member).symm.trans (beq_iff_eq.mp same))
  have each : ofFlag (a.settings names full) f =
      Flag.all.flatMap fun g => if g = f then a.settingsOf names full f else [] :=
    List.filter_flatMap.trans (List.flatMap_congr fun g _ => own g)
  rw [each]
  cases f <;> simp [Flag.all]

/-- **The order of options is that of each flag by itself.** Only patterns that are ignored can be in another order. -/
theorem ofFlag_of_perm (perm : order.Perm (a.settings names full))
    (ordered : ofFlag order .ignore = a.ignore.map (.value .ignore)) : ofFlag order = a.settingsOf names full := by
  funext f
  by_cases ignore : f = .ignore
  · rw [ignore, ordered]
    rfl
  · have same : (ofFlag order f).Perm (a.settingsOf names full f) := by
      rw [← ofFlag_settings]
      exact perm.filter _
    rcases Nat.le_one_iff_eq_zero_or_eq_one.mp (length_settingsOf ignore) with none | one
    · rw [List.length_eq_zero_iff.mp none] at same ⊢
      exact same.eq_nil
    · obtain ⟨t, single⟩ := List.length_eq_one_iff.mp one
      rw [single] at same ⊢
      exact List.perm_singleton.mp same

/-- No option is given before itself, patterns that are ignored aside. -/
theorem fresh_of_split (lists : ofFlag order = a.settingsOf names full) {before after : List Setting} {t : Setting}
    (split : order = before ++ t :: after) : Fresh t.flag before := by
  refine or_iff_not_imp_left.mpr fun single u earlier same => ?_
  have atMost : (a.settingsOf names full t.flag).length ≤ 1 := length_settingsOf single
  have first : u ∈ ofFlag before t.flag := same ▸ mem_ofFlag earlier
  have second : t ∈ ofFlag (t :: after) t.flag := mem_ofFlag List.mem_cons_self
  rw [← lists, split, ofFlag, List.filter_append, List.length_append] at atMost
  have some : 0 < (ofFlag before t.flag).length := List.length_pos_of_mem first
  have more : 0 < (ofFlag (t :: after) t.flag).length := List.length_pos_of_mem second
  unfold ofFlag at some more
  omega

end Order

end CommandLine

/-- **Arguments are read back from a command line** of their options, in any order that keeps that of the patterns that
are ignored, and of their inputs after two dashes. The texts may be any. Standard input is read just if there are no
inputs. -/
theorem Arguments.parse_commandLine {a : Arguments} {names : KindNames} {full : Bool}
    {order : List Setting} (perm : order.Perm (a.settings names full))
    (ordered : ofFlag order .ignore = a.ignore.map (.value .ignore)) :
    Arguments.parse (order.map Setting.argument ++ "--" :: a.inputs) = .ok a ∧
      (a.readsStdin = true ↔ a.inputs = []) := by
  have lists := ofFlag_of_perm perm ordered
  have readable : ∀ t ∈ order, t.Readable := fun t member =>
    readable_of_settingsOf (lists ▸ mem_ofFlag member)
  have fresh : ∀ before t after, order = before ++ t :: after → Fresh t.flag ([] ++ before) :=
    fun before t after split => fresh_of_split lists split
  have told := read_settings told_nil readable fresh a.inputs
  rw [List.nil_append, lists, collect_settingsOf] at told
  exact ⟨told, List.isEmpty_iff⟩

/-- Arguments whose texts begin with dashes, have equals signs or are empty. -/
def dashed : Arguments where
  inputs := ["--verbose", "", "--", "a=b"]
  outDir := some "=-o="
  module := some .esModule
  sourceMap := true
  output := .json
  ignore := ["-b", "", "--ignore=a"]
  verbose := true

theorem dashed_readBack :
    Arguments.parse ["--ignore=-b", "--verbose", "--output=json", "--ignore=", "--module=esmodule", "--out-dir==-o=",
        "--ignore=--ignore=a", "--source-map", "--", "--verbose", "", "--", "a=b"] = .ok dashed ∧
      (dashed.readsStdin = true ↔ dashed.inputs = []) :=
  @Arguments.parse_commandLine dashed .own true
    [.value .ignore "-b", .switch .verbose, .value .output "json", .value .ignore "", .value .module "esmodule",
      .value .outDir "=-o=", .value .ignore "--ignore=a", .switch .sourceMap]
    (by decide) (by decide)

end Detype
