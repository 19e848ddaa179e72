import Detype.Proofs.Json.Printed
import Detype.Run.Run
import Mathlib.Algebra.GroupWithZero.Nat

/-
**Findings as lines.**

A finding is reported on a line of its own, which can be read back: severity, places and message are in it. The path and
the message are put there as they are, so a line feed in one of them ends the line.

* `Report.machineLine` — the report of a finding without its line feed; `Report.toList_machineEntry` — its parts.
* `Report.ConsistsOf` — a text consists of lines.
* `Report.count_machine` — how many lines a report has; `Report.format_machine_lines` — when there is one a finding.
* `Report.Alike` — findings that are reported alike; `Report.entryChars_unique` — a report says what it reports, and
  where it ends.
* `Report.format_machine_eq_iff` — two lists of findings have one text just if they are reported alike.
-/

namespace Detype.Report

open Json Json.Reader

/-! ### The parts of a report -/

/-- Line and column of a position, zero if there is none. -/
def place (p : Option Position) : Nat × Nat := (p.map fun p => (p.line, p.column)).getD (0, 0)

theorem startPlace_eq (f : Finding) : startPlace f = place f.start := by
  unfold startPlace place
  cases f.start <;> rfl

theorem stopPlace_eq (f : Finding) : stopPlace f = place (f.stop.or f.start) := by
  unfold stopPlace
  cases f.stop with
  | none => exact startPlace_eq f
  | some p => rfl

/-- The report of a finding, without its line feed. -/
def machineLine (path : String) (f : Finding) : String :=
  let (line, column) := place f.start
  let (endLine, endColumn) := place (f.stop.or f.start)
  severityCode f.severity ++ " " ++ path ++ s!":{line}:{column}:{endLine}:{endColumn} " ++ f.message

theorem machineEntry_eq (path : String) (f : Finding) : machineEntry path f = machineLine path f ++ "\n" := by
  unfold machineEntry
  rw [startPlace_eq, stopPlace_eq]
  rfl

/-- The characters of a report, what follows it included. -/
def entryChars (path : String) (f : Finding) (rest : List Char) : List Char :=
  (severityCode f.severity).toList ++ ' ' :: (path.toList ++ ':' ::
    (Nat.toDigits 10 (place f.start).1 ++ ':' :: (Nat.toDigits 10 (place f.start).2 ++ ':' ::
      (Nat.toDigits 10 (place (f.stop.or f.start)).1 ++ ':' :: (Nat.toDigits 10 (place (f.stop.or f.start)).2 ++ ' ' ::
        (f.message.toList ++ '\n' :: rest))))))

theorem toList_machineEntry (path : String) (f : Finding) (rest : List Char) :
    (machineEntry path f).toList ++ rest = entryChars path f rest := by
  have colon : toString ":" = ":" := rfl
  have blank : toString " " = " " := rfl
  simp [machineEntry_eq, machineLine, entryChars, colon, blank]

theorem machine_cons (path : String) (f : Finding) (findings : List Finding) :
    (machine (f :: findings) path).toList = entryChars path f (machine findings path).toList := by
  rw [machine, List.map_cons, String.join_cons, String.toList_append, toList_machineEntry]
  rfl

/-! ### Lines -/

/-- A text consists of lines, each ended by a line feed. -/
def ConsistsOf (text : String) (lines : List String) : Prop :=
  text = String.join (lines.map (· ++ "\n")) ∧ ∀ line ∈ lines, '\n' ∉ line.toList

/-- A text of lines has a line feed for each of them. -/
theorem ConsistsOf.count {text : String} {lines : List String} (consists : ConsistsOf text lines) :
    text.toList.count '\n' = lines.length := by
  obtain ⟨rfl, plain⟩ := consists
  induction lines with
  | nil => rfl
  | cons line lines ih =>
    have here : line.toList.count '\n' = 0 := List.count_eq_zero.mpr (plain line List.mem_cons_self)
    rw [List.map_cons, String.join_cons, String.toList_append, String.toList_append, List.count_append,
      List.count_append, here, ih fun other member => plain other (List.mem_cons_of_mem line member), List.length_cons]
    have feed : "\n".toList.count '\n' = 1 := by decide
    omega

/-- The line feeds that a finding puts into its report besides the one at its end. -/
def feeds (path : String) (f : Finding) : Nat := path.toList.count '\n' + f.message.toList.count '\n'

theorem feeds_eq_zero {path : String} {f : Finding} :
    feeds path f = 0 ↔ '\n' ∉ path.toList ∧ '\n' ∉ f.message.toList := by
  rw [feeds, Nat.add_eq_zero_iff, List.count_eq_zero, List.count_eq_zero]

theorem count_decimal (n : Nat) : (Nat.toDigits 10 n).count '\n' = 0 :=
  List.count_eq_zero.mpr fun member => absurd (isDigit_of_decimal _ member) (by decide)

theorem count_severityCode (severity : Severity) : (severityCode severity).toList.count '\n' = 0 := by
  cases severity <;> decide

theorem count_entryChars (path : String) (f : Finding) (rest : List Char) :
    (entryChars path f rest).count '\n' = 1 + feeds path f + rest.count '\n' := by
  simp [entryChars, feeds, count_decimal, count_severityCode]
  omega

/-- **A report has a line for each finding**, and one more for every line feed in a path or message. -/
theorem count_machine (findings : List Finding) (path : String) :
    (machine findings path).toList.count '\n' = findings.length + (findings.map (feeds path)).sum := by
  induction findings with
  | nil => rfl
  | cons f findings ih =>
    rw [machine_cons, count_entryChars, ih, List.length_cons, List.map_cons, List.sum_cons]
    omega

theorem machineLine_plain {path : String} {f : Finding} (none : feeds path f = 0) :
    '\n' ∉ (machineLine path f).toList := by
  have whole := count_entryChars path f []
  rw [← toList_machineEntry, machineEntry_eq, List.append_nil, String.toList_append, List.count_append, none] at whole
  have feed : "\n".toList.count '\n' = 1 := by decide
  rw [feed] at whole
  exact List.count_eq_zero.mp (by simpa using whole)

theorem machine_eq (findings : List Finding) (path : String) :
    machine findings path = String.join ((findings.map (machineLine path)).map (· ++ "\n")) := by
  rw [machine, List.map_map]
  exact congrArg String.join (List.map_congr_left fun f _ => machineEntry_eq path f)

/-- Findings without line feeds of their own are reported line by line. -/
theorem machine_consistsOf {findings : List Finding} {path : String} (plain : ∀ f ∈ findings, feeds path f = 0) :
    ConsistsOf (machine findings path) (findings.map (machineLine path)) := by
  refine ⟨machine_eq findings path, fun line member => ?_⟩
  obtain ⟨f, reported, rfl⟩ := List.mem_map.mp member
  exact machineLine_plain (plain f reported)

/-- If a report has as many lines as findings, no finding has line feeds of its own. -/
theorem feeds_of_consistsOf {findings : List Finding} {path : String} {lines : List String}
    (consists : ConsistsOf (machine findings path) lines) (many : lines.length = findings.length) :
    ∀ f ∈ findings, feeds path f = 0 := by
  have total := consists.count
  rw [count_machine, many] at total
  have noMore : (findings.map (feeds path)).sum = 0 := by omega
  exact fun f member => List.sum_eq_zero_iff_forall_eq_nat.mp noMore _ (List.mem_map_of_mem member)

/-- **A report is its findings line by line** just if neither the path, if there are findings at all, nor a message has a
line feed, and just then it has as many lines as there are findings. -/
theorem format_machine_lines (findings : List Finding) (path : String) :
    (ConsistsOf (format .machine findings path) (findings.map (machineLine path)) ↔
      ∀ f ∈ findings, '\n' ∉ path.toList ∧ '\n' ∉ f.message.toList) ∧
    ((∃ lines, ConsistsOf (format .machine findings path) lines ∧ lines.length = findings.length) ↔
      ∀ f ∈ findings, '\n' ∉ path.toList ∧ '\n' ∉ f.message.toList) := by
  simp only [format, ← feeds_eq_zero]
  constructor
  · exact ⟨fun consists => feeds_of_consistsOf consists (List.length_map ..), machine_consistsOf⟩
  · constructor
    · rintro ⟨lines, consists, many⟩
      exact feeds_of_consistsOf consists many
    · exact fun plain => ⟨_, machine_consistsOf plain, List.length_map ..⟩

/-- A working directory with a file whose name has a line feed and whose text has an expression missing. -/
def splitName : World where
  tree := ⟨[(["w"].map Text.bytesOf, .directory),
    (["w", "a\nb.ts"].map Text.bytesOf, .file "let x = (;\n".toUTF8)]⟩
  cwd := ["w"].map Text.bytesOf

/-- The one finding about this file is reported on two lines. -/
theorem splitName_twoLines :
    (processFile {} splitName.cwd ⟨"a\nb.ts", "a\nb.ts"⟩ splitName.tree).2.findings =
        [.ofError (.parse "Expression expected" 1 10)] ∧
      (splitName.runInOrder { inputs := ["a\nb.ts"], output := .machine } List.range).stderr =
        "ERROR a\nb.ts:1:10:1:10 Expression expected\nts-transpile processed 1 file: 1 failed, 0 diagnostics\n" ∧
      ¬ ∃ lines, ConsistsOf (format .machine [.ofError (.parse "Expression expected" 1 10)] "a\nb.ts") lines ∧
        lines.length = 1 := by
  refine ⟨by decide +kernel, by decide +kernel, fun oneLine => ?_⟩
  obtain ⟨lines, consists, one⟩ := oneLine
  have feeds := consists.count
  rw [one, format, count_machine] at feeds
  exact absurd feeds (by decide)

/-! ### Reading reports back -/

/-- Findings that are reported alike: they are as serious and say the same, about places with the same lines and
columns. -/
structure Alike (f g : Finding) : Prop where
  severity : f.severity = g.severity
  message : f.message = g.message
  start : place f.start = place g.start
  stop : place (f.stop.or f.start) = place (g.stop.or g.start)

/-- A run of characters of a kind ends where another character stands. -/
theorem run_unique {p : Char → Bool} {run run' rest rest' : List Char} {c : Char} (all : ∀ d ∈ run, p d = true)
    (all' : ∀ d ∈ run', p d = true) (stop : p c = false) (same : run ++ c :: rest = run' ++ c :: rest') :
    run = run' ∧ rest = rest' := by
  have stops : ∀ rest : List Char, ∀ d ∈ (c :: rest).head?, p d = false := by
    rintro rest d ⟨⟩
    exact stop
  have taken := congrArg (List.takeWhile p) same
  rw [takeWhile_append_of_all all (stops rest), takeWhile_append_of_all all' (stops rest')] at taken
  rw [taken] at same
  exact ⟨taken, (List.cons.inj (List.append_cancel_left same)).2⟩

/-- **A number ends where its digits do.** -/
theorem decimal_unique {m n : Nat} {c : Char} {rest rest' : List Char} (stop : isDigit c = false)
    (same : Nat.toDigits 10 m ++ c :: rest = Nat.toDigits 10 n ++ c :: rest') : m = n ∧ rest = rest' := by
  obtain ⟨digits, left⟩ := run_unique isDigit_of_decimal isDigit_of_decimal stop same
  have value := congrArg (Nat.ofDigitChars 10 · 0) digits
  simp only [Nat.ofDigitChars_ten_toDigits] at value
  exact ⟨value, left⟩

/-- **A message ends where its line does.** -/
theorem message_unique {message message' rest rest' : List Char} (plain : '\n' ∉ message) (plain' : '\n' ∉ message')
    (same : message ++ '\n' :: rest = message' ++ '\n' :: rest') : message = message' ∧ rest = rest' := by
  have inside : ∀ {cs : List Char}, '\n' ∉ cs → ∀ d ∈ cs, (d != '\n') = true :=
    fun plain d member => bne_iff_ne.mpr fun feed => plain (feed ▸ member)
  exact run_unique (inside plain) (inside plain') (by decide) same

/-- Severities are told from the first letter of a report. -/
theorem severityCode_unique {severity severity' : Severity} {rest rest' : List Char}
    (same : (severityCode severity).toList ++ rest = (severityCode severity').toList ++ rest') :
    severity = severity' ∧ rest = rest' := by
  cases severity <;> cases severity'
  case error.error | warning.warning => exact ⟨rfl, List.append_cancel_left same⟩
  all_goals
    have letter := congrArg List.head? same
    simp [severityCode] at letter

/-- **A report says what it reports, and where it ends.** The path is the same on both sides, so it may be any text. -/
theorem entryChars_unique {path : String} {f g : Finding} {rest rest' : List Char}
    (plain : '\n' ∉ f.message.toList) (plain' : '\n' ∉ g.message.toList) (same : entryChars path f rest = entryChars path g rest') :
    Alike f g ∧ rest = rest' := by
  obtain ⟨severity, same⟩ := severityCode_unique same
  have same := List.append_cancel_left (List.cons.inj same).2
  obtain ⟨line, same⟩ := decimal_unique (by decide) (List.cons.inj same).2
  obtain ⟨column, same⟩ := decimal_unique (by decide) same
  obtain ⟨endLine, same⟩ := decimal_unique (by decide) same
  obtain ⟨endColumn, same⟩ := decimal_unique (by decide) same
  obtain ⟨message, same⟩ := message_unique plain plain' same
  exact ⟨⟨severity, String.toList_inj.mp message, Prod.ext line column, Prod.ext endLine endColumn⟩, same⟩

theorem Alike.entryChars_eq {f g : Finding} (alike : Alike f g) (path : String) (rest : List Char) :
    entryChars path f rest = entryChars path g rest := by
  rw [entryChars, alike.severity, alike.message, alike.start, alike.stop, entryChars]

theorem machine_of_alike {path : String} {fs gs : List Finding} (alike : List.Forall₂ Alike fs gs) :
    machine fs path = machine gs path := by
  refine String.toList_inj.mp ?_
  induction alike with
  | nil => rfl
  | cons first _ ih => rw [machine_cons, machine_cons, ih, first.entryChars_eq]

/-- By induction on the findings of one list: the first report of the other says the same and ends where it does. -/
theorem alike_of_machine {path : String} {fs gs : List Finding} (plain : ∀ f ∈ fs, '\n' ∉ f.message.toList)
    (plain' : ∀ g ∈ gs, '\n' ∉ g.message.toList) (same : (machine fs path).toList = (machine gs path).toList) :
    List.Forall₂ Alike fs gs := by
  have filled : ∀ (f : Finding) (rest : List Char), entryChars path f rest ≠ [] := by
    intro f rest
    simp [entryChars]
  induction fs generalizing gs with
  | nil =>
    cases gs with
    | nil => exact .nil
    | cons g gs =>
      rw [machine_cons] at same
      exact absurd same.symm (filled g _)
  | cons f fs ih =>
    cases gs with
    | nil =>
      rw [machine_cons] at same
      exact absurd same (filled f _)
    | cons g gs =>
      rw [machine_cons, machine_cons] at same
      obtain ⟨alike, later⟩ := entryChars_unique (plain f List.mem_cons_self) (plain' g List.mem_cons_self) same
      exact .cons alike (ih (fun f member => plain f (List.mem_cons_of_mem _ member))
        (fun g member => plain' g (List.mem_cons_of_mem _ member)) later)

/-- **Reports can be read back.** Two lists of findings whose messages are single lines have one text, for any path, just
if they have as many findings, and those at the same place are reported alike: with one severity, message, line and
column of the start, zero if that is not known, and of the end, those of the start if that is not known. -/
theorem format_machine_eq_iff {path : String} {fs gs : List Finding} (plain : ∀ f ∈ fs, '\n' ∉ f.message.toList)
    (plain' : ∀ g ∈ gs, '\n' ∉ g.message.toList) :
    format .machine fs path = format .machine gs path ↔ List.Forall₂ Alike fs gs :=
  ⟨fun same => alike_of_machine plain plain' (congrArg String.toList same), machine_of_alike⟩

/-- A finding without a place is reported as one at line and column zero, and not as one with another column. -/
theorem unplaced_alike :
    format .machine [⟨.error, "2:3 x", none, none⟩] "a b:1" =
        format .machine [⟨.error, "2:3 x", some ⟨0, 0, some 7⟩, none⟩] "a b:1" ∧
      format .machine [⟨.error, "2:3 x", none, none⟩] "a b:1" ≠
        format .machine [⟨.error, "2:3 x", some ⟨0, 1, none⟩, none⟩] "a b:1" := by
  refine ⟨(format_machine_eq_iff (by decide) (by decide)).mpr (.cons ⟨rfl, rfl, rfl, rfl⟩ .nil), fun same => ?_⟩
  obtain ⟨alike, _⟩ := List.forall₂_cons.mp ((format_machine_eq_iff (by decide) (by decide)).mp same)
  exact absurd alike.start (by decide)

end Detype.Report
