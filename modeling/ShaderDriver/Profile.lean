import ShaderDriver.Json.Value
import ShaderDriver.Text.Search

namespace ShaderDriver

/-- The stage of the pipeline that a shader is compiled for. -/
inductive Stage where
  | pixel
  | vertex
  | geometry
  | hull
  | domain
  | compute
  | library
  | mesh
  | amplification
deriving DecidableEq, Repr

namespace Stage

def all : List Stage :=
  [pixel, vertex, geometry, hull, domain, compute, library, mesh, amplification]

def name : Stage → String
  | pixel => "ps"
  | vertex => "vs"
  | geometry => "gs"
  | hull => "hs"
  | domain => "ds"
  | compute => "cs"
  | library => "lib"
  | mesh => "ms"
  | amplification => "as"

/-- The first minor version of the shader model that has the stage. -/
def firstMinor : Stage → Nat
  | library => 1
  | mesh | amplification => 5
  | _ => 0

def ofName? (s : String) : Option Stage := all.find? fun stage => stage.name == s

theorem mem_all (stage : Stage) : stage ∈ all := by cases stage <;> decide

end Stage

def lastMinor : Nat := 7

/-- A stage in a version of the shader model that has it, such as `ps_6_0`. -/
structure Profile where
  stage : Stage
  minor : Nat
  supported : stage.firstMinor ≤ minor ∧ minor ≤ lastMinor
deriving DecidableEq, Repr

namespace Profile

/-- The profile of a stage in shader model `6.minor`, if the stage exists there. -/
def of? (stage : Stage) (minor : Nat) : Option Profile :=
  if supported : stage.firstMinor ≤ minor ∧ minor ≤ lastMinor then some ⟨stage, minor, supported⟩
  else none

/-- All profiles, grouped by stage. -/
def all : List Profile :=
  Stage.all.flatMap fun stage => (List.range (lastMinor + 1)).filterMap (of? stage)

def shaderModel (profile : Profile) : Nat × Nat := (6, profile.minor)

def display (profile : Profile) : String := s!"{profile.stage.name}_6_{profile.minor}"

/-- Reads a profile: stage, `6` and a single digit between underscores, in any ASCII case. -/
def read? (s : String) : Option Profile :=
  match Text.fields '_' (s.toList.map Char.toLower) with
  | [stage, ['6'], [digit]] =>
    if digit.isDigit then
      (Stage.ofName? (String.ofList stage)).bind fun stage => of? stage (digit.toNat - '0'.toNat)
    else none
  | _ => none

def unsupportedText (s : String) : String := "unsupported target profile `" ++ s ++ "`"

/-- A profile in JSON: the string that it prints. -/
def toValue (profile : Profile) : JsonValue := .string profile.display

/-- Decodes a profile from JSON: a string that is read as a profile. -/
def ofValue : JsonValue → Except Decode.Error Profile
  | .string s =>
    match read? s with
    | some profile => .ok profile
    | none => .error (.custom (unsupportedText s))
  | value => .error (.invalidType value.found "a string")

end Profile

end ShaderDriver
