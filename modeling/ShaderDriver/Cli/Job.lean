import ShaderDriver.Cli.Arguments
import ShaderDriver.Cli.Settings
import ShaderDriver.Compiler.External

namespace ShaderDriver.Cli

/-- Why the program fails. -/
inductive Failure where
  | config (e : ConfigError)
  | toolchain (e : ToolchainError)
  | compile (e : CompileError)
  | settings (reason : String)
  | libraryBackend
  | unreadableSource (path : String) (fault : Fault)
  | noToolchainDir

namespace Failure

def message : Failure → String
  | config e => e.message
  | toolchain e => e.message
  | compile e => e.message
  | settings reason => reason
  | libraryBackend =>
    "the library backend cannot be driven from the command line; set compiler.backend = \"external\""
  | unreadableSource path fault => "failed to read `" ++ path ++ "`: " ++ fault.message
  | noToolchainDir =>
    "no toolchain directory: pass --dir or set compiler.toolchain_dir in shc.toml"

end Failure

/-- What is compiled: a file, or bytes under a name of their own. -/
inductive Source where
  | file (path : String)
  | named (bytes : Bytes) (name : String)
deriving DecidableEq, Repr

/-- A compile that is ready to run. -/
structure Job where
  executable : String
  state : CompilerState
  source : Source

namespace Job

/-- The source of a compile. A file with a name of its own is read at once. -/
def sourceOf (world : World) (options : CompileOptions) : Except Failure Source :=
  match options.name with
  | none => .ok (.file options.file)
  | some name =>
    match world.readBytes options.file with
    | .ok bytes => .ok (.named bytes name)
    | .error fault => .error (.unreadableSource options.file fault)

/-- The profile of a compile: that of the command line, else the configured one. -/
def profileOf (config : Config) (options : CompileOptions) : Except Failure (Option Profile) :=
  match options.profile with
  | none => .ok config.shader.profile
  | some text => ((Settings.parseProfile text).map some).mapError .settings

/-- The state of the compiler for a compile: arguments, profile, entry point, cleanup and sinks, in this
order. -/
def stateOf (config : Config) (options : CompileOptions) (profile : Option Profile)
    (sinks : List (ArtifactKind × Sink)) : CompilerState :=
  let state : CompilerState := {}
  let state := state.addArguments (config.shader.args ++ options.extra)
  let state := profile.elim state state.setProfile
  let state := (options.entry.or config.shader.entry).elim state state.setEntry
  let state := state.setCleanup (if options.keepTemps then .keep else config.cleanup)
  sinks.foldl (fun state (kind, sink) => state.route kind sink) state

/-- Prepares a compile, or finds the first thing that stands against it. -/
def prepare (world : World) (config : Config) (options : CompileOptions) : Except Failure Job := do
  if config.compiler.backend = .library then throw .libraryBackend
  let executable ← (Settings.resolveExecutable world config.compiler).mapError .toolchain
  let profile ← profileOf config options
  let sinks ← (Settings.mergeArtifacts config options.artifacts).mapError .settings
  let source ← sourceOf world options
  pure ⟨executable, stateOf config options profile sinks, source⟩

def compiler (job : Job) : ExternalCompiler :=
  { ExternalCompiler.ofPath job.executable with state := job.state }

def run (launch : Launcher) (job : Job) (world : World) : ExternalCompiler.Outcome :=
  match job.source with
  | .file path => job.compiler.compileFile launch path world
  | .named bytes name => job.compiler.compileBuffer launch bytes (some name) world

end Job

end ShaderDriver.Cli
