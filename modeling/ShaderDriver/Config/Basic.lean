import ShaderDriver.Artifact.Table
import ShaderDriver.Compiler.Cleanup
import ShaderDriver.Profile
import ShaderDriver.World.Fault
import ShaderDriver.World.Path

namespace ShaderDriver

/-- How the compiler is driven. -/
inductive Backend where
  | external
  | library
deriving DecidableEq, Repr, Inhabited

namespace Backend

def name : Backend → String
  | external => "external"
  | library => "library"

def ofName? (s : String) : Option Backend := [external, library].find? fun backend => backend.name == s

end Backend

/-- The compiler to run: an executable, or a directory of installations. -/
structure CompilerConfig where
  backend : Backend := .external
  path : Option String := none
  toolchainDir : Option String := none

/-- What every compile gets. -/
structure ShaderConfig where
  profile : Option Profile := none
  entry : Option String := none
  args : List String := []

/-- Where each kind of artifact goes, if anywhere. -/
structure ArtifactsConfig where
  sink : ArtifactKind → Option Sink := fun _ => none

namespace ArtifactsConfig

/-- The configured kinds in their order. -/
def entries (artifacts : ArtifactsConfig) : List (ArtifactKind × Sink) :=
  ArtifactKind.all.filterMap fun kind => (artifacts.sink kind).map fun sink => (kind, sink)

/-- One slot for each kind, in the order of kinds, with the sink that is configured for it. -/
def slots (artifacts : ArtifactsConfig) : List (Option Sink) := ArtifactKind.all.map artifacts.sink

/-- The artifacts with these slots. -/
def ofSlots (slots : List (Option Sink)) : ArtifactsConfig := ⟨fun kind => slots[kind.index]?.join⟩

def set (artifacts : ArtifactsConfig) (kind : ArtifactKind) (sink : Sink) : ArtifactsConfig :=
  ⟨fun other => if other = kind then some sink else artifacts.sink other⟩

end ArtifactsConfig

/-- A project's configuration. -/
structure Config where
  compiler : CompilerConfig := {}
  shader : ShaderConfig := {}
  artifacts : ArtifactsConfig := {}
  cleanup : Cleanup := .remove

/-- Why there is no configuration. -/
inductive ConfigError where
  | unreadable (path : String) (fault : Fault)
  | noWorkingDirectory (fault : Fault)
  | malformed (origin : String)
  | mismatch (origin reason : String)
  | conflictingCompiler
  | emptyValue (key : String)
deriving DecidableEq, Repr

namespace ConfigError

/-- The words for an error. A text that is no document at all has no words of its own. -/
def message : ConfigError → String
  | unreadable path fault => s!"cannot read {path}: {fault.message}"
  | noWorkingDirectory fault => s!"cannot determine the working directory: {fault.message}"
  | malformed origin => s!"{origin}: invalid TOML"
  | mismatch origin reason => s!"{origin}: {reason}"
  | conflictingCompiler => "compiler.path and compiler.toolchain_dir cannot both be set"
  | emptyValue key => s!"{key} is empty"

end ConfigError

namespace Config

/-- Refuses a configuration that no compile could use, naming the first thing wrong with it. -/
def validate (config : Config) : Except ConfigError Unit :=
  if config.compiler.path.isSome && config.compiler.toolchainDir.isSome then
    .error .conflictingCompiler
  else if config.shader.entry = some "" then
    .error (.emptyValue "shader.entry")
  else
    match config.shader.args.findIdx? String.isEmpty with
    | some i => .error (.emptyValue s!"shader.args[{i}]")
    | none =>
      match config.artifacts.entries.find? fun entry => entry.2 == .file "" with
      | some (kind, _) => .error (.emptyValue s!"artifacts.{kind.name}")
      | none => .ok ()

/-- A path as seen from a directory: absolute paths stay. -/
def resolvePath (base path : String) : String :=
  if Path.isAbsolute path then path else Path.join base path

def resolveSink (base : String) : Sink → Sink
  | .memory => .memory
  | .file path => .file (resolvePath base path)

/-- The configuration with every relative path seen from a directory. -/
def resolvePaths (base : String) (config : Config) : Config :=
  { config with
    compiler :=
      { config.compiler with
        path := config.compiler.path.map (resolvePath base)
        toolchainDir := config.compiler.toolchainDir.map (resolvePath base) }
    artifacts := .ofSlots (config.artifacts.slots.map (Option.map (resolveSink base))) }

end Config

end ShaderDriver
