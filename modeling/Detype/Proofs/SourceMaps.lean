import Detype.Compile
import Detype.Proofs.Json.Compact

/-
**What a source map says.**

The map of a compilation is JSON text. It says the version, the name of the output, the source, no names, and the
places; the source is left out if there are no places.

* `SourceMap.entries` — the entries of a map; `SourceMap.tells_json` — the text of the map says them.
* `SourceMap.mem_file_iff`, `SourceMap.mem_sources_iff` — what it says of the output and of the source.
* `compile_map` — the map of a compilation.
-/

namespace Detype

namespace SourceMap

/-- What a map says. -/
def entries (h : Header) (ps : List MappedPlace) : List (String × Json) :=
  [("version", .int 3)] ++ (h.file.toList.map fun name => ("file", .str name))
    ++ [("sources", .arr (if ps.isEmpty then [] else [.str h.source]))]
    ++ (if ps.isEmpty then [] else h.content.toList.map fun text => ("sourcesContent", .arr [.str text]))
    ++ [("names", .arr []), ("mappings", .str (mappings ps))]
    ++ (if h.content.isSome && !ps.isEmpty then [("ignoreList", .arr [.int 0])] else [])

/-! ### The text of a map -/

/-- Entries on one line, after others. -/
def later (es : List (String × Json)) : String := String.join ((Json.compactEntries es).map ("," ++ ·))

theorem later_nil : later [] = "" := rfl

theorem later_cons (name : String) (v : Json) (es : List (String × Json)) :
    later ((name, v) :: es) = "," ++ Json.literal name ++ ":" ++ Json.compact v ++ later es := by
  simp [later, Json.compactEntries, String.append_assoc]

theorem compact_obj_cons (name : String) (v : Json) (es : List (String × Json)) :
    Json.compact (.obj ((name, v) :: es)) =
      "\x7b" ++ Json.literal name ++ ":" ++ Json.compact v ++ later es ++ "\x7d" := by
  have joined : ∀ (s : String) (ss : List String),
      String.intercalate "," (s :: ss) = s ++ String.join (ss.map ("," ++ ·)) := by
    intro s ss
    induction ss generalizing s with
    | nil => simp
    | cons t ss ih =>
      rw [String.intercalate_cons_cons, ih, List.map_cons, String.join_cons]
      simp only [String.append_assoc]
  rw [Json.compact, Json.compactEntries, joined, later]
  simp only [String.append_assoc]

theorem compact_str (s : String) : Json.compact (.str s) = Json.literal s := by rw [Json.compact]

theorem compact_singleton (j : Json) : Json.compact (.arr [j]) = "[" ++ Json.compact j ++ "]" := by
  simp [Json.compact, Json.compactItems]

/-- **The text of a map** is that of its entries on one line. -/
theorem json_eq (h : Header) (ps : List MappedPlace) : json h ps = Json.compact (.obj (entries h ps)) := by
  have start : "\x7b\"version\":3" = "\x7b" ++ Json.literal "version" ++ ":" ++ Json.compact (.int 3) := by decide
  have empty : Json.compact (.arr []) = "[]" := by decide
  have zero : Json.compact (.int 0) = "0" := by decide
  have zeros : "[0]" = "[" ++ ("0" ++ "]") := by decide
  obtain ⟨file, source, content⟩ := h
  unfold json entries
  simp only [start]
  cases file <;> cases content <;> cases ps.isEmpty <;>
    simp only [Option.toList, Option.isSome, List.map_nil, List.map_cons, List.cons_append, List.nil_append,
      List.append_nil, Bool.not_true, Bool.not_false, Bool.and_true, Bool.and_false, Bool.false_eq_true, if_true,
      if_false, compact_obj_cons, later_cons, later_nil, compact_singleton, compact_str, empty, zero, zeros,
      String.append_assoc, String.append_empty]

theorem proper_entries (h : Header) (ps : List MappedPlace) : (Json.obj (entries h ps)).Proper := by
  have listed : ∀ {j : Json}, j.Proper → (Json.arr [j]).Proper :=
    fun proper => .arr fun j member => List.mem_singleton.mp member ▸ proper
  have empty : (Json.arr []).Proper := .arr fun j member => absurd member List.not_mem_nil
  have sources : (Json.arr (if ps.isEmpty then [] else [.str h.source])).Proper := by
    split
    · exact empty
    · exact listed (.str _)
  refine .obj fun e member => ?_
  simp only [entries, List.mem_append] at member
  rcases member with ((((version | file) | source) | content) | places) | ignored
  · rw [List.mem_singleton.mp version]
    exact .int 3
  · obtain ⟨name, _, rfl⟩ := List.mem_map.mp file
    exact .str name
  · rw [List.mem_singleton.mp source]
    exact sources
  · split at content
    · cases content
    · obtain ⟨text, _, rfl⟩ := List.mem_map.mp content
      exact listed (.str text)
  · rcases List.mem_pair.mp places with rfl | rfl
    · exact empty
    · exact .str _
  · split at ignored
    · rw [List.mem_singleton.mp ignored]
      exact listed (.int 0)
    · cases ignored

/-- **The text of a map says its entries.** -/
theorem tells_json (h : Header) (ps : List MappedPlace) : Json.Tells (json h ps) (.obj (entries h ps)) :=
  json_eq h ps ▸ (proper_entries h ps).tells_compact

theorem mem_file_iff {h : Header} {name : String} (named : h.file = some name) {ps : List MappedPlace} {v : Json} :
    ("file", v) ∈ entries h ps ↔ v = .str name := by
  simp [entries, named]

theorem mem_sources_iff {h : Header} {ps : List MappedPlace} {v : Json} :
    ("sources", v) ∈ entries h ps ↔ v = .arr (if ps.isEmpty then [] else [.str h.source]) := by
  simp [entries]

end SourceMap

/-- The map of a compilation. -/
theorem compile_map {source : String} {options : Options} {output : Output}
    (compiled : compile source options = .ok output) (maps : options.sourceMap = true) :
    ∃ ps, output.sourceMap = some (SourceMap.json (mapHeader (withoutMark source) options) ps) := by
  unfold compile finish at compiled
  split at compiled
  · cases compiled
  · cases compiled
    rw [maps]
    exact ⟨_, rfl⟩

end Detype
