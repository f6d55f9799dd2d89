import ShaderDriver.Config.Basic
import ShaderDriver.Decode.Error
import ShaderDriver.Number.Shortest
import ShaderDriver.Toml.Node

namespace ShaderDriver.Decode

open Toml

/-- The result of decoding. -/
abbrev Decoded (α : Type) := Except Error α

def found : Node → Found
  | .string value => .string value
  | .integer value => .integer value
  | .float value => .floating (Shortest.plain value)
  | .boolean value => .boolean value
  | .moment | .table _ _ => .map
  | .array _ | .tables _ => .sequence

def typeName : Node → String
  | .string _ => "string"
  | .integer _ => "integer"
  | .float _ => "float"
  | .boolean _ => "boolean"
  | .moment => "datetime"
  | .array _ => "array"
  | .table .inline _ => "inline table"
  | .table _ _ => "table"
  | .tables _ => "array of tables"

/-- A string, described by `expected` where there is none. -/
def text (expected : String) : Node → Decoded String
  | .string value => .ok value
  | node => .error (.invalidType (found node) expected)

def plainText : Node → Decoded String := text "a string"

def pathText : Node → Decoded String := text "path string"

def sink (node : Node) : Decoded Sink := Sink.ofDestination <$> text "\"memory\" or a file path" node

def profile (node : Node) : Decoded Profile := do
  let name ← plainText node
  match Profile.read? name with
  | some profile => pure profile
  | none => throw (.custom (Profile.unsupportedText name))

def texts : Node → Decoded (List String)
  | .array items => items.mapM plainText
  | .tables elements => elements.mapM fun entries => plainText (.table .header entries)
  | node => .error (.invalidType (found node) "a sequence")

/-- The value beside the name of a choice that holds nothing. -/
def nothing : Node → Decoded Unit
  | .tables elements => if elements.isEmpty then .ok () else .error (.custom "expected empty array")
  | .array items => if items.isEmpty then .ok () else .error (.custom "expected empty table")
  | .table _ entries => if entries.isEmpty then .ok () else .error (.custom "expected empty table")
  | node => .error (.custom s!"expected table, found {typeName node}")

/-- One of several names: a string, or a table with that name as its only key. -/
def choice (names : List String) (ofName? : String → Option α) : Node → Decoded α
  | .string name => known name
  | .table _ [] => .error (.custom "wanted exactly 1 element, found 0 elements")
  | .table _ [(name, node)] => do
    let value ← known name
    nothing node
    pure value
  | .table _ _ => .error (.custom "wanted exactly 1 element, more than 1 element")
  | _ => .error (.custom "wanted string or table")
where
  /-- The value of a name, or the list of names. -/
  known (name : String) : Decoded α :=
    match ofName? name with
    | some value => .ok value
    | none => .error (.unknownVariant name names)

def backend : Node → Decoded Backend := choice ["external", "library"] Backend.ofName?

def cleanup : Node → Decoded Cleanup := choice Cleanup.names Cleanup.ofName?

/-- A field of a record: its name, how a value changes the record, and whether it may be left out
where fields go by position. -/
structure Field (ρ : Type) where
  name : String
  optional : Bool
  set : Node → ρ → Decoded ρ

/-- Fills the fields by position. Positions beyond the last field are left alone. -/
def byPosition (expected : String) : List (Field ρ) → Nat → List Node → ρ → Decoded ρ
  | [], _, _, filled => .ok filled
  | field :: fields, i, node :: nodes, filled => do
    byPosition expected fields (i + 1) nodes (← field.set node filled)
  | field :: fields, i, [], filled =>
    if field.optional then byPosition expected fields (i + 1) [] filled
    else .error (.invalidLength i expected)

/-- Fills the fields by name. A strict record refuses other names. -/
def byName (strict : Bool) (fields : List (Field ρ)) (entries : Entries) (start : ρ) : Decoded ρ :=
  entries.foldlM (fun filled (name, node) =>
    match fields.find? fun field => field.name == name with
    | some field => field.set node filled
    | none =>
      if strict then .error (.unknownField name (fields.map Field.name)) else .ok filled) start

/-- A section: a record called `title` with the given fields, starting from `blank`. -/
def record (title : String) (strict : Bool) (fields : List (Field ρ)) (blank : ρ) :
    Node → Decoded ρ
  | .table _ entries => byName strict fields entries blank
  | .moment => byName strict fields [("$__toml_private_datetime", .moment)] blank
  | .array items => byPosition s!"struct {title} with {fields.length} elements" fields 0 items blank
  | .tables elements =>
    byPosition s!"struct {title} with {fields.length} elements" fields 0
      (elements.map (.table .header)) blank
  | node => .error (.invalidType (found node) s!"struct {title}")

def compilerFields : List (Field CompilerConfig) :=
  [⟨"backend", true, fun node c => do pure { c with backend := ← backend node }⟩,
    ⟨"path", false, fun node c => do pure { c with path := some (← pathText node) }⟩,
    ⟨"toolchain_dir", false, fun node c => do pure { c with toolchainDir := some (← pathText node) }⟩]

def shaderFields : List (Field ShaderConfig) :=
  [⟨"profile", false, fun node s => do pure { s with profile := some (← profile node) }⟩,
    ⟨"entry", false, fun node s => do pure { s with entry := some (← plainText node) }⟩,
    ⟨"args", true, fun node s => do pure { s with args := ← texts node }⟩]

/-- The fields of the artifacts section, one for each kind. -/
def artifactFields : List (Field ArtifactsConfig) :=
  ArtifactKind.all.map fun kind =>
    ⟨kind.name, false, fun node artifacts => do pure (artifacts.set kind (← sink node))⟩

def stagingFields : List (Field Cleanup) :=
  [⟨"cleanup", true, fun node _ => cleanup node⟩]

def sections : List (Field Config) :=
  [⟨"compiler", true, fun node c => do
      pure { c with compiler := ← record "CompilerConfig" false compilerFields {} node }⟩,
    ⟨"shader", true, fun node c => do
      pure { c with shader := ← record "ShaderConfig" false shaderFields {} node }⟩,
    ⟨"artifacts", true, fun node c => do
      pure { c with artifacts := ← record "ArtifactsConfig" true artifactFields {} node }⟩,
    ⟨"staging", true, fun node c => do
      pure { c with cleanup := ← record "StagingConfig" false stagingFields .remove node }⟩]

/-- A whole configuration. Fields of other names are left alone, except among the artifacts, and the first
mismatch in the order of the document is reported. -/
def config (entries : Entries) : Decoded Config := byName false sections entries {}

end ShaderDriver.Decode
