/-
**Names of output files.**

* `outputFileName` — the name of the output file for a source file.
-/

namespace Detype

/-- The name before the last dot and the extension after it; a dot before a path separator does not
count. -/
def splitExtension (name : String) : String × String :=
  let cs := name.toList
  let extension := (cs.reverse.takeWhile (· != '.')).reverse
  if cs.contains '.' && !(extension.contains '/' || extension.contains '\\') then
    (String.ofList (cs.take (cs.length - extension.length - 1)), String.ofList extension)
  else (name, "")

/-- The name of the output file for a source file. -/
def outputFileName (name : String) : String :=
  let (stem, extension) := splitExtension name
  match extension with
  | "mts" => stem ++ ".mjs"
  | "cts" => stem ++ ".cjs"
  | _ => stem ++ ".js"

end Detype
