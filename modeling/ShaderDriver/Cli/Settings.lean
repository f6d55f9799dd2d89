import ShaderDriver.Config.Load
import ShaderDriver.Toolchain.Installation

namespace ShaderDriver.Settings

/-- The configuration to use: the named file, or the file of the working directory if there is one, or
the configuration that sets nothing. -/
def load (world : World) (file : Option String) : Except ConfigError Config :=
  match file with
  | some path => Config.loadFile world path
  | none =>
    let here := "/" ++ "/".intercalate world.workingDir
    if world.isFile (Path.join here Config.fileName) then Config.load world here
    else .ok {}

/-- The compiler that runs if the configuration names none. -/
def defaultCompiler : String := "dxc"

/-- The executable of the configured compiler: the path, or the newest installation. -/
def resolveExecutable (world : World) (compiler : CompilerConfig) : Except ToolchainError String :=
  match compiler.path, compiler.toolchainDir with
  | some path, _ => .ok path
  | none, some dir => do
    let version ← Installation.latest world dir
    pure (Installation.binary (Installation.directory dir version))
  | none, none => .ok defaultCompiler

def parseProfile (text : String) : Except String Profile :=
  match Profile.read? text with
  | some profile => .ok profile
  | none => .error (Profile.unsupportedText text)

/-- Reads `kind=destination`. The destination is all behind the first `=`. -/
def parseArtifact (spec : String) : Except String (ArtifactKind × Sink) :=
  match Text.splitFirst ['='] spec.toList with
  | none => .error ("artifact `" ++ spec ++ "` is not of the form KIND=DEST")
  | some (name, destination) =>
    match ArtifactKind.ofName? (String.ofList name) with
    | none => .error (ArtifactKind.unknownText (String.ofList name))
    | some kind =>
      if destination.isEmpty then .error ("artifact `" ++ spec ++ "` has an empty destination")
      else .ok (kind, Sink.ofDestination (String.ofList destination))

/-- The filled slots with their kinds. -/
def filled (slots : List (Option Sink)) : List (ArtifactKind × Sink) :=
  (ArtifactKind.all.zip slots).filterMap fun (kind, slot) => slot.map fun sink => (kind, sink)

/-- Fills the slot of the kind that a spec names. -/
def override (slots : List (Option Sink)) (spec : String) : Except String (List (Option Sink)) := do
  let (kind, sink) ← parseArtifact spec
  pure (slots.set kind.index (some sink))

/-- The configured artifacts, overridden by those of the command line. Of two for one kind the later
counts. -/
def mergeArtifacts (config : Config) (specs : List String) :
    Except String (List (ArtifactKind × Sink)) := do
  let slots ← specs.foldlM override config.artifacts.slots
  pure (filled slots)

end ShaderDriver.Settings
