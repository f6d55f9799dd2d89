import ShaderDriver.Compiler.Staging

namespace ShaderDriver

/-- A compiler executable, with all that is kept between compiles and the raw output of the last. -/
structure ExternalCompiler where
  command : Command
  state : CompilerState := {}
  output : Bytes := []

namespace ExternalCompiler

def ofPath (path : String) : ExternalCompiler := { command := .ofString path }

/-- Forgets all but the executable and the policy for temporary files. -/
def reset (compiler : ExternalCompiler) : ExternalCompiler :=
  { compiler with state := compiler.state.reset, output := [] }

def outputText (compiler : ExternalCompiler) : String :=
  String.ofList (Utf8.decodeLossy compiler.output)

/-- What a compile comes to: a summary or an error, with the compiler and the world behind it. -/
abbrev Outcome := Except CompileError Summary × ExternalCompiler × World

/-- The process of the executable. Its arguments are those that every compile gets. -/
def process (compiler : ExternalCompiler) : Subprocess :=
  ⟨compiler.command, compiler.state.arguments, compiler.output⟩

/-- Runs the executable on a source. The tokens of this run are put behind the arguments that every
compile gets and cut off again. Requests for memory go to temporary files, which are read back if the
executable ran, and taken back if it did not start. -/
def run (launch : Launcher) (source : String) (name : Option String) (compiler : ExternalCompiler)
    (world : World) : Outcome :=
  let cleanup := compiler.state.cleanup
  let (staged, table, world) := Staging.stage compiler.state.artifacts world
  let configured := compiler.process.arguments.length
  let process := ((compiler.process.add (Staging.arguments table)).add [source]).clearOutput
  let arguments := process.arguments
  let (ended, process, world) := process.execute launch world
  let process := process.truncate configured
  match ended with
  | .error e =>
    let (artifacts, world) := Staging.restore cleanup staged table world
    (.error (.process e),
      { compiler with
        state := { compiler.state with
          arguments := process.arguments, sourcePath := some source, artifacts }
        output := process.output },
      world)
  | .ok exitCode =>
    let text := String.ofList (Utf8.decodeLossy process.output)
    let (summary, state) := compiler.state.record exitCode arguments text source name
    let (artifacts, world) := Staging.reconcile cleanup staged table world
    (.ok summary,
      { compiler with
        state := { state with arguments := process.arguments, sourcePath := some source, artifacts }
        output := process.output },
      world)

def compileFile (launch : Launcher) (path : String) (compiler : ExternalCompiler) (world : World) :
    Outcome :=
  run launch path none compiler world

/-- Compiles a source held in memory, which is staged for the time of the compile. Messages refer to it
by its name, if it has one. -/
def compileBuffer (launch : Launcher) (source : Bytes) (name : Option String)
    (compiler : ExternalCompiler) (world : World) : Outcome :=
  let (path, world) := Staging.sourcePath world
  match world.writeFile path source with
  | .error fault => (.error (.fileSystem path fault), compiler, world)
  | .ok staged =>
    let (answer, after, world) :=
      run launch path (CompilerState.properName name) compiler staged
    (answer, after, Staging.discard compiler.state.cleanup path world)

end ExternalCompiler

end ShaderDriver
