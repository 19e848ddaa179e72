import Detype.CommandLine.Text
import Detype.Run.Run
import Detype.Terminal.Wrap

/-
**The program as it is called.**

* `Invocation` — what a call leaves: an exit code, what was printed, and the files.
* `RunError.display` — an error of a run as it is shown to a reader.
* `World.invokeInOrder` — calls the program with a command line; the inputs are processed in a given order.
* `World.invoke` — the same, with the inputs processed as they come.
-/

namespace Detype

/-- The width in which errors are shown. -/
def displayColumns : Nat := 78

/-- An error as it is shown to a reader: the message, and below it what lies behind. -/
def RunError.display (e : RunError) : String :=
  Terminal.fill displayColumns "  × " "  │ " e.message ++ "\n"
    ++ match e.cause? with
      | some cause => Terminal.fill displayColumns "  ╰─▶ " "      " cause ++ "\n"
      | none => ""

/-- What a call of the program leaves. -/
structure Invocation where
  exitCode : Nat
  stdout : String := ""
  stderr : String := ""
  /-- The events that the call asked to be shown. -/
  log : List LogEvent := []
  tree : FileTree
deriving Inhabited

/-- Calls the program with a command line, its inputs being processed in the order that `schedule` gives for
their number. -/
def World.invokeInOrder (w : World) (argv : List String) (schedule : Nat → List Nat) : Invocation :=
  match Arguments.parse argv with
  | .error e =>
    if e.exitCode == 0 then { exitCode := 0, stdout := e.text, tree := w.tree }
    else { exitCode := e.exitCode, stderr := e.text, tree := w.tree }
  | .ok args =>
    let report := w.runInOrder args schedule
    let log := LogEvent.visible args.verbose report.log
    match report.result with
    | .error e =>
      { exitCode := 1, stdout := report.stdout, stderr := report.stderr ++ "Error: " ++ e.display ++ "\n"
        log, tree := report.tree }
    | .ok summary =>
      { exitCode := if summary.isFailure then 1 else 0
        stdout := report.stdout, stderr := report.stderr, log, tree := report.tree }

/-- Calls the program with a command line, its inputs being processed as they come. -/
def World.invoke (w : World) (argv : List String) : Invocation := w.invokeInOrder argv List.range

end Detype
