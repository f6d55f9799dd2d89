import ShaderDriver.Cli.Job
import ShaderDriver.Cli.Report

namespace ShaderDriver.Cli

/-- What a run leaves: an exit code, and what it wrote to its two outputs. -/
structure Outcome where
  exitCode : UInt32
  output : String := ""
  errorOutput : String := ""
deriving DecidableEq, Repr

namespace Outcome

def ofFailure (failure : Failure) : Outcome where
  exitCode := 1
  errorOutput := s!"error: {failure.message}\n"

end Outcome

/-- The report on a finished compile. It goes to the error output as text and to the output as JSON. The
command is shown before it if details are wanted. -/
def reportCompile (globals : GlobalOptions) (options : CompileOptions) (job : Job) (summary : Summary)
    (table : ArtifactTable) : Outcome :=
  let artifacts := ArtifactReport.ofTable table
  let running :=
    if globals.verbose && !globals.quiet then
      "   Running " ++ job.executable ++ " " ++ " ".intercalate summary.arguments ++ "\n"
    else ""
  let exitCode := if summary.succeeded then 0 else 1
  match options.format with
  | .text => { exitCode, errorOutput := running ++ Report.text summary artifacts globals.quiet }
  | .json =>
    { exitCode
      output := Report.json ⟨options.file, summary, artifacts⟩ ++ "\n"
      errorOutput := running }

/-- Compiles under a configuration. What comes of it is the job, its summary and the artifacts. -/
def compileConfigured (launch : Launcher) (config : Config) (options : CompileOptions) (world : World) :
    Except Failure (Job × Summary × ArtifactTable) × World :=
  match Job.prepare world config options with
  | .error failure => (.error failure, world)
  | .ok job =>
    let outcome := job.run launch world
    ((outcome.1.mapError .compile).map fun summary => (job, summary, outcome.2.1.state.artifacts),
      outcome.2.2)

/-- Reports what has come of a compile. A failure is left as it is. -/
def reportDone (globals : GlobalOptions) (options : CompileOptions)
    (done : Except Failure (Job × Summary × ArtifactTable) × World) : Except Failure Outcome × World :=
  (done.1.map fun (job, summary, table) => reportCompile globals options job summary table, done.2)

/-- Loads the configuration, compiles under it and reports. -/
def compile (launch : Launcher) (globals : GlobalOptions) (options : CompileOptions) (world : World) :
    Except Failure Outcome × World :=
  match Settings.load world globals.config with
  | .error e => (.error (.config e), world)
  | .ok config => reportDone globals options (compileConfigured launch config options world)

/-- The installed versions below a directory with their compilers, newest first. -/
def installations (world : World) (dir : String) :
    Except ToolchainError (List (Version × String)) := do
  let versions ← Installation.versions world dir
  pure (versions.map fun version =>
    (version, Installation.binary (Installation.directory dir version)))

/-- The directory of installations: that of the command line, else the configured one. -/
def toolchainDir (globals : GlobalOptions) (dir : Option String) (world : World) :
    Except Failure String :=
  match dir with
  | some dir => .ok dir
  | none => do
    let config ← (Settings.load world globals.config).mapError .config
    match config.compiler.toolchainDir with
    | some dir => pure dir
    | none => throw .noToolchainDir

/-- Lists the installations, one a line. -/
def listInstallations (globals : GlobalOptions) (dir : Option String) (world : World) :
    Except Failure Outcome := do
  let dir ← toolchainDir globals dir world
  let rows ← (installations world dir).mapError .toolchain
  pure {
    exitCode := 0
    output := String.join (rows.map fun (version, binary) => s!"{version.display}\t{binary}\n")
    errorOutput := if rows.isEmpty then s!"no dxc installations in {dir}\n" else "" }

def perform (launch : Launcher) (arguments : Arguments) (world : World) : Outcome × World :=
  let (answer, after) := match arguments.action with
    | .compile options => compile launch arguments.globals options world
    | .listInstallations dir => (listInstallations arguments.globals dir world, world)
  match answer with
  | .ok outcome => (outcome, after)
  | .error failure => (.ofFailure failure, after)

end ShaderDriver.Cli
