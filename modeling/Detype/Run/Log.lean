/-
**The log of a run.**

* `LogEvent` — something worth noting, with details.
* `LogEvent.visible` — what is shown with or without details asked for.
-/

namespace Detype

inductive LogLevel where
  | debug
  | info
  | warn
deriving DecidableEq, Inhabited, Repr

def LogLevel.name : LogLevel → String
  | debug => "DEBUG"
  | info => "INFO"
  | warn => "WARN"

/-- Something worth noting, with named details. -/
structure LogEvent where
  level : LogLevel
  message : String
  fields : List (String × String) := []
deriving DecidableEq, Inhabited, Repr

namespace LogEvent

def text (e : LogEvent) : String :=
  e.level.name ++ " " ++ e.message ++ String.join (e.fields.map fun (k, v) => " " ++ k ++ "=" ++ v)

/-- The events that are shown: all of them, or only warnings. -/
def visible (verbose : Bool) (events : List LogEvent) : List LogEvent :=
  if verbose then events else events.filter (·.level == .warn)

end LogEvent

end Detype
