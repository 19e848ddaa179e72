import Detype.Proofs.Json.Printed
import Detype.Run.Run
import Mathlib.Algebra.GroupWithZero.Nat

/-
**What a run reports.**

The report of a run that compiles files depends on the outcomes of its inputs alone, apart from its tree.

* `RunReport.failed?`, `RunReport.error?` — how a run ended, as values that can be compared.
* `eq_of_printAll` — outcomes that are printed to the end are printed one by one; `stdout_of_printAll` — what else
  can happen.
* `summary_foldl`, `stdout_foldl`, `told_eq` — what printing adds up to: the counts, the code and the findings.
* `told_entries`, `Report.shows_entry` — every finding has one entry in what is told, which shows it.
* `report_ok` — what the report of a run that ends with a summary says; `failed_of_report` — if it counts no
  failures there are none.
-/

namespace Detype

/-! ### How a run ended -/

namespace RunReport

/-- The number of files that failed in a run that ended with a summary. -/
def failed? (r : RunReport) : Option Nat := r.result.toOption.map (·.failed)

/-- The error that ended a run. -/
def error? (r : RunReport) : Option RunError :=
  match r.result with
  | .ok _ => none
  | .error e => some e

theorem exists_of_failed? {r : RunReport} {n : Nat} (ended : r.failed? = some n) :
    ∃ summary, r.result = .ok summary ∧ summary.failed = n := by
  unfold failed? at ended
  cases result : r.result with
  | ok summary =>
    rw [result] at ended
    exact ⟨summary, rfl, Option.some.inj ended⟩
  | error e =>
    rw [result] at ended
    cases ended

theorem error?_eq_some {r : RunReport} {e : RunError} : r.error? = some e ↔ r.result = .error e := by
  unfold error?
  cases r.result with
  | ok summary => simp
  | error e' => simp

end RunReport

namespace World

/-! ### What printing adds up to -/

/-- The findings of outcomes that are reported, each with the path of its file. -/
def allReported (args : Arguments) (outcomes : List FileOutcome) : List (String × Finding) :=
  outcomes.flatMap fun o => (reported args o).map fun f => (o.path, f)

theorem allReported_cons (args : Arguments) (o : FileOutcome) (rest : List FileOutcome) :
    allReported args (o :: rest) = (reported args o).map (fun f => (o.path, f)) ++ allReported args rest :=
  List.flatMap_cons

/-- What a run says on standard error: every finding that is reported, in the chosen format, and the summary unless
the format is data. -/
def told (args : Arguments) (summary : Summary) (entries : List (String × Finding)) : String :=
  match args.output with
  | .human => String.join (entries.map fun (path, f) => Report.humanEntry path f) ++ (summary.text ++ "\n")
  | .machine => String.join (entries.map fun (path, f) => Report.machineEntry path f) ++ (summary.text ++ "\n")
  | .json => Report.jsonText (entries.map fun (path, f) => Report.entryJson path f) ++ "\n"

section Printing

variable {args : Arguments} {banners : Bool}

theorem printOutcome_stdout (p : Printed) (o : FileOutcome) :
    (printOutcome args banners p o).stdout = p.stdout ++ outcomeText banners o := by
  unfold printOutcome
  dsimp only
  split <;> rfl

theorem printOutcome_summary (p : Printed) (o : FileOutcome) :
    (printOutcome args banners p o).summary =
      { p.summary with
        diagnostics := p.summary.diagnostics + o.diagnostics
        failed := p.summary.failed + if o.failed then 1 else 0 } := by
  unfold printOutcome
  dsimp only
  split <;> rfl

/-- Outcomes that are printed to the end are printed one by one. -/
theorem eq_of_printAll {full : Bool} {p p' : Printed} {outcomes : List FileOutcome}
    (printed : printAll args banners full p outcomes = (p', none)) :
    p' = outcomes.foldl (printOutcome args banners) p := by
  induction outcomes generalizing p with
  | nil =>
    cases printed
    rfl
  | cons o rest ih =>
    rw [printAll] at printed
    split at printed
    · cases printed
    · exact ih printed

theorem stdout_foldl (p : Printed) (outcomes : List FileOutcome) :
    (outcomes.foldl (printOutcome args banners) p).stdout =
      p.stdout ++ String.join (outcomes.map (outcomeText banners)) := by
  induction outcomes generalizing p with
  | nil => simp
  | cons o rest ih => rw [List.foldl_cons, ih, printOutcome_stdout, List.map_cons, String.join_cons, String.append_assoc]

theorem summary_foldl (p : Printed) (outcomes : List FileOutcome) :
    (outcomes.foldl (printOutcome args banners) p).summary =
      { p.summary with
        diagnostics := p.summary.diagnostics + (outcomes.map (·.diagnostics)).sum
        failed := p.summary.failed + outcomes.countP (·.failed) } := by
  induction outcomes generalizing p with
  | nil => rfl
  | cons o rest ih =>
    rw [List.foldl_cons, ih, printOutcome_summary, List.map_cons, List.sum_cons, List.countP_cons]
    simp only [Nat.add_assoc, Nat.add_comm (if o.failed = true then 1 else 0)]

/-- In a format of text each finding that is reported is told when its outcome is printed. -/
theorem stderr_foldl {entry : String → Finding → String}
    (form : ∀ findings path, Report.format args.output findings path = String.join (findings.map (entry path)))
    (textual : (args.output == .json) = false) (p : Printed) (outcomes : List FileOutcome) :
    (outcomes.foldl (printOutcome args banners) p).stderr =
      p.stderr ++ String.join ((allReported args outcomes).map fun (path, f) => entry path f) := by
  induction outcomes generalizing p with
  | nil => simp [allReported]
  | cons o rest ih =>
    have now : (printOutcome args banners p o).stderr =
        p.stderr ++ String.join ((reported args o).map (entry o.path)) := by
      unfold printOutcome
      simp only [textual, Bool.false_eq_true, if_false, form]
    rw [List.foldl_cons, ih, now, allReported_cons, List.map_append, String.join_append, List.map_map,
      String.append_assoc]
    rfl

/-- In the format of data nothing is told before the end, and the findings that are reported are kept. -/
theorem entries_foldl (data : (args.output == .json) = true) (p : Printed) (outcomes : List FileOutcome) :
    (outcomes.foldl (printOutcome args banners) p).stderr = p.stderr ∧
      (outcomes.foldl (printOutcome args banners) p).entries =
        p.entries ++ (allReported args outcomes).map fun (path, f) => Report.entryJson path f := by
  induction outcomes generalizing p with
  | nil => simp [allReported]
  | cons o rest ih =>
    have now : (printOutcome args banners p o).stderr = p.stderr ∧
        (printOutcome args banners p o).entries = p.entries ++ (reported args o).map (Report.entryJson o.path) := by
      unfold printOutcome
      simp only [data, if_true, true_and]
      rfl
    rw [List.foldl_cons]
    refine ⟨(ih _).1.trans now.1, ?_⟩
    rw [(ih _).2, now.2, allReported_cons, List.map_append, List.map_map, List.append_assoc]
    rfl

/-- **What a run has told in the end.** -/
theorem told_eq (p : Printed) (outcomes : List FileOutcome) (silent : p.stderr = "") (empty : p.entries = []) :
    (outcomes.foldl (printOutcome args banners) p).stderr ++
        closing args (outcomes.foldl (printOutcome args banners) p) =
      told args (outcomes.foldl (printOutcome args banners) p).summary (allReported args outcomes) := by
  unfold closing told
  cases format : args.output with
  | human =>
    have form : ∀ findings path, Report.format args.output findings path =
        String.join (findings.map (Report.humanEntry path)) := by
      intro findings path
      rw [format]
      rfl
    rw [stderr_foldl form (by rw [format]; rfl), silent, String.empty_append]
    rfl
  | machine =>
    have form : ∀ findings path, Report.format args.output findings path =
        String.join (findings.map (Report.machineEntry path)) := by
      intro findings path
      rw [format]
      rfl
    rw [stderr_foldl form (by rw [format]; rfl), silent, String.empty_append]
    rfl
  | json =>
    obtain ⟨nothing, kept⟩ := @entries_foldl args banners (by rw [format]; rfl) p outcomes
    rw [nothing, kept, silent, empty, String.empty_append, List.nil_append]
    rfl

end Printing

/-! ### The entries of what is told -/

end World

namespace Report

/-- The entry of a finding in a chosen format; as data it is an indented item of an array. -/
def entry (format : ReportFormat) (path : String) (f : Finding) : String :=
  match format with
  | .human => humanEntry path f
  | .machine => machineEntry path f
  | .json => Json.indentation 1 ++ Json.pretty 1 (entryJson path f)

/-- A text as a format spells it: as it is, or as a string of data. -/
def spelled (format : ReportFormat) (text : String) : String :=
  match format with
  | .human | .machine => text
  | .json => Json.literal text

/-- The word of a format for how serious a finding is. -/
def severityName (format : ReportFormat) (severity : Severity) : String :=
  match format with
  | .machine => severityCode severity
  | .human | .json => severityWord severity

/-- An entry that shows a finding: the path of its file, how serious it is and what it says. -/
structure Shows (format : ReportFormat) (path : String) (f : Finding) (text : String) : Prop where
  path : (spelled format path).toList <:+: text.toList
  severity : (spelled format (severityName format f.severity)).toList <:+: text.toList
  message : (spelled format f.message).toList <:+: text.toList

theorem infix_of_append {a b c t : String} (whole : t = a ++ b ++ c) : b.toList <:+: t.toList :=
  ⟨a.toList, c.toList, by rw [whole, String.toList_append, String.toList_append]⟩

theorem infix_intercalate {gap item : String} {items : List String} (member : item ∈ items) :
    item.toList <:+: (String.intercalate gap items).toList := by
  induction items with
  | nil => cases member
  | cons first rest ih =>
    cases rest with
    | nil =>
      refine infix_of_append (a := "") (c := "") ?_
      rw [List.mem_singleton.mp member, String.intercalate_singleton, String.empty_append, String.append_empty]
    | cons second rest =>
      rw [String.intercalate_cons_cons]
      rcases List.mem_cons.mp member with rfl | later
      · exact infix_of_append (a := "") (by rw [String.empty_append, String.append_assoc])
      · exact (ih later).trans (infix_of_append (String.append_empty).symm)

/-- Each of several items stands between the brackets around them. -/
theorem infix_bracketed {left right item : String} {level : Nat} {items : List String} (member : item ∈ items) :
    item.toList <:+: (Json.bracketed left right level items).toList := by
  have indented := List.mem_map_of_mem (f := (Json.indentation (level + 1) ++ ·)) member
  rw [Json.bracketed]
  · have first : item.toList <:+: (Json.indentation (level + 1) ++ item).toList :=
      infix_of_append (String.append_empty).symm
    have second := @infix_intercalate ",\n" _ _ indented
    refine (first.trans second).trans ?_
    exact infix_of_append (a := left ++ "\n") (c := "\n" ++ Json.indentation level ++ right)
      (by simp only [String.append_assoc])
  · exact List.ne_nil_of_mem member

/-- A value stands in the text of its record. -/
theorem infix_pretty {key : String} {value : Json} {entries : List (String × Json)} (member : (key, value) ∈ entries)
    (level : Nat) : (Json.pretty (level + 1) value).toList <:+: (Json.pretty level (.obj entries)).toList := by
  rw [Json.pretty, Json.prettyEntries_eq]
  have listed := List.mem_map_of_mem (f := fun e => Json.literal e.1 ++ ": " ++ Json.pretty (level + 1) e.2) member
  exact .trans (infix_of_append (String.append_empty).symm) (infix_bracketed listed)

/-- **The entry of a finding shows it.** -/
theorem shows_entry (format : ReportFormat) (path : String) (f : Finding) :
    Shows format path f (entry format path f) := by
  cases format with
  | human =>
    obtain ⟨place, headed⟩ : ∃ place, heading path f.start = path ++ place := by
      unfold heading
      split
      · exact ⟨_, rfl⟩
      · exact ⟨_, rfl⟩
    have whole : entry .human path f = path ++ place ++ severityWord f.severity ++ ": " ++ f.message ++ "\n\n" := by
      rw [← headed]
      rfl
    refine ⟨infix_of_append (a := "") (c := place ++ severityWord f.severity ++ ": " ++ f.message ++ "\n\n") ?_,
      infix_of_append (a := path ++ place) (c := ": " ++ f.message ++ "\n\n") ?_, infix_of_append whole⟩
    · rw [whole]
      simp only [spelled, String.append_assoc, String.empty_append]
    · rw [whole]
      simp only [spelled, severityName, String.append_assoc]
  | machine =>
    obtain ⟨place, whole⟩ : ∃ place, entry .machine path f =
        severityCode f.severity ++ " " ++ path ++ place ++ f.message ++ "\n" := ⟨_, rfl⟩
    refine ⟨infix_of_append (a := severityCode f.severity ++ " ") (c := place ++ f.message ++ "\n") ?_,
      infix_of_append (a := "") (c := " " ++ path ++ place ++ f.message ++ "\n") ?_, infix_of_append whole⟩
    · rw [whole]
      simp only [spelled, String.append_assoc]
    · rw [whole]
      simp only [spelled, severityName, String.append_assoc, String.empty_append]
  | json =>
    have value : ∀ key text, (key, Json.str text) ∈
        [("type", Json.str (severityWord f.severity)), ("filename", .str path), ("start", optionalJson f.start),
          ("end", optionalJson f.stop), ("message", .str f.message)] →
        (Json.literal text).toList <:+: (entry .json path f).toList := by
      intro key text member
      have stands := infix_pretty member 1
      rw [Json.pretty] at stands
      exact stands.trans (infix_of_append (String.append_empty).symm)
    exact ⟨value "filename" path (by simp), value "type" (severityWord f.severity) (by simp),
      value "message" f.message (by simp)⟩

end Report

namespace World

theorem intercalate_nothing (texts : List String) : String.intercalate "" texts = String.join texts := by
  induction texts with
  | nil => rfl
  | cons s texts ih =>
    cases texts with
    | nil => simp
    | cons t texts => rw [String.intercalate_cons_cons, ih, String.append_empty, ← String.join_cons]

/-- **Every finding has one entry in what is told**, in the order of the findings and with one text between any two
entries. -/
theorem told_entries (args : Arguments) (summary : Summary) (findings : List (String × Finding)) :
    ∃ head gap foot, told args summary findings =
      head ++ String.intercalate gap (findings.map fun (path, f) => Report.entry args.output path f) ++ foot := by
  unfold told
  cases args.output with
  | human => exact ⟨"", "", summary.text ++ "\n", by rw [intercalate_nothing, String.empty_append]; rfl⟩
  | machine => exact ⟨"", "", summary.text ++ "\n", by rw [intercalate_nothing, String.empty_append]; rfl⟩
  | json =>
    cases findings with
    | nil => exact ⟨"[]", "", "\n", rfl⟩
    | cons x findings =>
      refine ⟨"[" ++ "\n", ",\n", "\n" ++ Json.indentation 0 ++ "]" ++ "\n", ?_⟩
      rw [Report.jsonText, Json.pretty, Json.prettyItems_eq, List.map_map, Json.bracketed]
      · simp only [List.map_map, String.append_assoc]
        rfl
      · exact List.cons_ne_nil _ _

/-- **Printing outcomes can only fail on code for standard output.** -/
theorem stdout_of_printAll {args : Arguments} {banners full : Bool} {p p' : Printed} {outcomes : List FileOutcome}
    {e : RunError} (failed : printAll args banners full p outcomes = (p', some e)) :
    e = .stdout .noSpace ∧ ∃ o ∈ outcomes, ∃ code, o.code = some code := by
  induction outcomes generalizing p with
  | nil => cases failed
  | cons o rest ih =>
    rw [printAll] at failed
    split at failed
    · next stuck =>
      cases failed
      refine ⟨rfl, o, List.mem_cons_self, ?_⟩
      cases printed : o.code with
      | some code => exact ⟨code, rfl⟩
      | none =>
        rw [outcomeText, printed] at stuck
        simp at stuck
    · obtain ⟨cause, o', member, code⟩ := ih failed
      exact ⟨cause, o', List.mem_cons_of_mem o member, code⟩

/-! ### Reports -/

/-- What a report has counted and printed, if its run ends with a summary. -/
theorem report_ok {w : World} {args : Arguments} {tree : FileTree} {outcomes : List FileOutcome}
    {log : List LogEvent} {summary : Summary} (done : (w.report args tree outcomes log).result = .ok summary) :
    summary = { files := outcomes.length, failed := outcomes.countP (·.failed)
                diagnostics := (outcomes.map (·.diagnostics)).sum, failOnDiagnostics := args.failOnDiagnostics } ∧
      (w.report args tree outcomes log).stdout =
        String.join (outcomes.map (outcomeText (decide (outcomes.length > 1)))) ∧
      (w.report args tree outcomes log).stderr = told args summary (allReported args outcomes) := by
  unfold report at done ⊢
  dsimp only at done ⊢
  split at done
  · cases done
  · next p printed =>
    cases done
    obtain rfl := eq_of_printAll printed
    refine ⟨?_, ?_, told_eq _ outcomes rfl rfl⟩
    · rw [summary_foldl]
      simp
    · rw [stdout_foldl, String.empty_append]

/-- **A run that counts no failures has none.** -/
theorem failed_of_report {w : World} {args : Arguments} {tree : FileTree} {outcomes : List FileOutcome}
    {log : List LogEvent} {summary : Summary} (done : (w.report args tree outcomes log).result = .ok summary)
    (fine : summary.failed = 0) : ∀ o ∈ outcomes, o.failed = false := by
  obtain ⟨rfl, _⟩ := report_ok done
  intro o member
  exact Bool.eq_false_iff.mpr (List.countP_eq_zero.mp fine o member)

theorem report_tree (w : World) (args : Arguments) (tree : FileTree) (outcomes : List FileOutcome)
    (log : List LogEvent) : (w.report args tree outcomes log).tree = tree := by
  unfold report
  dsimp only
  split <;> rfl

/-- How a report ends depends on the outcomes only, and on what standard output can take. -/
theorem report_result {w : World} (args : Arguments) (tree tree' tree'' : FileTree) (outcomes : List FileOutcome)
    (log log' : List LogEvent) :
    ({ w with tree }.report args tree' outcomes log).result = (w.report args tree'' outcomes log').result := by
  unfold report
  dsimp only
  split <;> rfl

end World

end Detype
