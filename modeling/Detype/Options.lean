import Detype.Json.Value

/-
**Options of a compilation.**

* `ModuleKind` — the module convention that the output follows, with its two vocabularies: the names in
  a configuration file (`ModuleKind.ofConfigName?`, any letter case) and the names in options
  (`ModuleKind.ofName?`, exact).
* `Interop` — how imports of a default or a whole module are bridged.
* `Options` — everything that one compilation can be told.
* `Options.ofJson`, `Options.toJson` — their form as data.
-/

namespace Detype

/-- The module convention of the output. -/
inductive ModuleKind where
  /-- Calls of `require` and assignments to `exports`. -/
  | commonJs
  /-- A `define` wrapper. -/
  | amd
  /-- A wrapper that works under the two above and with browser globals. -/
  | umd
  /-- A `System.register` wrapper. -/
  | system
  /-- `import` and `export` stay. -/
  | esModule
deriving DecidableEq, Inhabited, Repr

namespace ModuleKind

/-- The name of a kind. -/
def name : ModuleKind → String
  | commonJs => "commonjs"
  | amd => "amd"
  | umd => "umd"
  | system => "system"
  | esModule => "esmodule"

/-- Whether imports become loads at run time by `require`. -/
def usesRequire : ModuleKind → Bool
  | commonJs | amd | umd => true
  | system | esModule => false

/-- The kind that a configuration file means; letter case does not matter. -/
def ofConfigName? (s : String) : Option ModuleKind :=
  match s.toLower with
  | "commonjs" | "cjs" | "none" | "node16" | "node18" | "nodenext" => some commonJs
  | "amd" => some amd
  | "umd" => some umd
  | "system" => some system
  | "es6" | "es2015" | "es2020" | "es2022" | "esnext" | "preserve" | "esmodule" | "esm" => some esModule
  | _ => none

/-- What is said about a name that a configuration file cannot mean. -/
def unknownNameMessage (s : String) : String :=
  "unknown module kind \x60" ++ s ++ "\x60 (expected one of: commonjs, amd, umd, system, esnext)"

/-- The names of the kinds in options. -/
def names : List String :=
  ["cjs", "commonJs", "commonjs", "amd", "umd", "system", "esModule", "esm", "esmodule"]

/-- The kind that options mean. -/
def ofName? : String → Option ModuleKind
  | "cjs" | "commonJs" | "commonjs" => some commonJs
  | "amd" => some amd
  | "umd" => some umd
  | "system" => some system
  | "esModule" | "esm" | "esmodule" => some esModule
  | _ => none

def ofJson (j : Json) : Except DecodeError ModuleKind := j.asVariant names ofName?

end ModuleKind

/-- How a default import and an import of a whole module are bridged to what `require` gives. -/
inductive Interop where
  /-- By functions that look for the mark of a compiled module. -/
  | wrapped
  /-- What `require` gives is itself the default export. -/
  | node
  /-- Not at all. -/
  | none
deriving DecidableEq, Inhabited, Repr

namespace Interop

def name : Interop → String
  | wrapped => "swc"
  | node => "node"
  | none => "none"

def names : List String := ["swc", "node", "none"]

def ofName? : String → Option Interop
  | "swc" => some wrapped
  | "node" => some node
  | "none" => some none
  | _ => Option.none

def ofJson (j : Json) : Except DecodeError Interop := j.asVariant names ofName?

end Interop

/-- Options of a single compilation. -/
structure Options where
  module : ModuleKind := .commonJs
  /-- The name used in the source map, and for the global of a universal wrapper. -/
  fileName : Option String := none
  /-- Whether JSX is read; it stays in the output. -/
  jsx : Bool := false
  sourceMap : Bool := false
  importInterop : Interop := .wrapped
  /-- Whether decorators follow the older semantics. -/
  experimentalDecorators : Bool := false
deriving DecidableEq, Inhabited, Repr

namespace Options

/-- A name that ends in `.tsx` also turns JSX on. -/
def withFileName (o : Options) (name : String) : Options :=
  { o with fileName := some name, jsx := o.jsx || name.endsWith ".tsx" }

def withSourceMap (o : Options) (b : Bool) : Options := { o with sourceMap := b }

def withImportInterop (o : Options) (i : Interop) : Options := { o with importInterop := i }

def withExperimentalDecorators (o : Options) (b : Bool) : Options := { o with experimentalDecorators := b }

/-- The fields in the order in which they are given without names. -/
def fieldNames : List String :=
  ["module", "fileName", "jsx", "sourceMap", "importInterop", "experimentalDecorators"]

/-- Sets a field; a name that is no field changes nothing. -/
def setField (o : Options) (name : String) (v : Json) : Except DecodeError Options :=
  match name with
  | "module" => return { o with module := ← ModuleKind.ofJson v }
  | "fileName" => return { o with fileName := ← v.asOptionalString }
  | "jsx" => return { o with jsx := ← v.asBool }
  | "sourceMap" => return { o with sourceMap := ← v.asBool }
  | "importInterop" => return { o with importInterop := ← Interop.ofJson v }
  | "experimentalDecorators" => return { o with experimentalDecorators := ← v.asBool }
  | _ => .ok o

/-- Options as data: an object, or an array of the first fields in order. A field that is left out has
its default. -/
def ofJson : Json → Except DecodeError Options
  | .obj entries =>
    (entries.mergeSort fun a b => a.1 ≤ b.1).foldlM (fun o (name, v) => o.setField name v) {}
  | .arr items => do
    let o ← (fieldNames.zip items).foldlM (fun o (name, v) => o.setField name v) ({} : Options)
    if items.length > fieldNames.length then
      .error (.invalidLength items.length "fewer elements in array")
    else return o
  | j => .error (.invalidType j.found "struct TranspileOptions")

def toJson (o : Options) : Json :=
  .obj
    [("module", .str o.module.name),
     ("fileName", match o.fileName with
       | some n => .str n
       | none => .null),
     ("jsx", .bool o.jsx), ("sourceMap", .bool o.sourceMap), ("importInterop", .str o.importInterop.name),
     ("experimentalDecorators", .bool o.experimentalDecorators)]

end Options

end Detype
