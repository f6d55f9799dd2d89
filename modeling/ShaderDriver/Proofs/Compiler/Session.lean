import ShaderDriver.Compiler.External
import ShaderDriver.Proofs.Compiler.Staging

namespace ShaderDriver

namespace ExternalCompiler

/-- The world in which the child of a compile is started. -/
def launchWorld (compiler : ExternalCompiler) (world : World) : World :=
  Staging.named compiler.state.artifacts world ArtifactKind.all

def staged (compiler : ExternalCompiler) (world : World) : List Staging.Staged :=
  ArtifactKind.all.filterMap (Staging.kept compiler.state.artifacts world)

def launchTable (compiler : ExternalCompiler) (world : World) : ArtifactTable :=
  Staging.redirected compiler.state.artifacts world ArtifactKind.all

/-- What the child of a compile is started with. -/
def invocation (source : String) (compiler : ExternalCompiler) (world : World) : Invocation :=
  ⟨compiler.command.program,
    compiler.state.arguments ++ Staging.arguments (compiler.launchTable world) ++ [source]⟩

theorem stage_launch (compiler : ExternalCompiler) (world : World) :
    Staging.stage compiler.state.artifacts world =
      (compiler.staged world, compiler.launchTable world, compiler.launchWorld world) :=
  Staging.stage_eq compiler.state.artifacts world

/-- The process of a compile while the child runs: the tokens of the call stand behind the arguments. -/
def called (source : String) (compiler : ExternalCompiler) (world : World) : Subprocess :=
  ⟨compiler.command, (compiler.invocation source world).arguments, []⟩

theorem called_eq (source : String) (compiler : ExternalCompiler) (world : World) :
    ((compiler.process.add (Staging.arguments (compiler.launchTable world))).add [source]).clearOutput =
      compiler.called source world := rfl

/-- Cutting off the tokens of the call leaves the arguments that there were. -/
theorem take_called (source : String) (compiler : ExternalCompiler) (world : World) :
    (compiler.called source world).arguments.take compiler.process.arguments.length =
      compiler.state.arguments := by
  rw [called, invocation, process, List.append_assoc, List.take_left]

theorem run_refused {launch : Launcher} {source : String} {compiler : ExternalCompiler} {world : World}
    {refusal : Refusal} (name : Option String)
    (refused : launch (compiler.invocation source world) (compiler.launchWorld world) = .error refusal) :
    run launch source name compiler world =
      (.error (.process (.ofRefusal compiler.command.shown refusal)),
        { compiler with state := { compiler.state with sourcePath := some source }, output := [] },
        (Staging.restore compiler.state.cleanup (compiler.staged world) (compiler.launchTable world)
          (compiler.launchWorld world)).2) := by
  have executed := Subprocess.execute_refused (compiler.called source world) refused
  have restored := Staging.restore_kept compiler.state.cleanup compiler.state.artifacts world
    (compiler.launchWorld world)
  rw [← staged, ← launchTable] at restored
  unfold run
  rw [stage_launch]
  simp only [called_eq, executed, Subprocess.truncate, take_called, restored]
  rfl

theorem run_started {launch : Launcher} {source : String} {compiler : ExternalCompiler} {world after : World}
    {exit : Exit} (name : Option String)
    (started : launch (compiler.invocation source world) (compiler.launchWorld world) = .ok (exit, after)) :
    run launch source name compiler world =
      let recorded := compiler.state.record exit.code (compiler.invocation source world).arguments
        (String.ofList (Utf8.decodeLossy exit.output)) source name
      (.ok recorded.1,
        { compiler with
          state := { recorded.2 with
            sourcePath := some source
            artifacts := Staging.returned compiler.state.artifacts world after }
          output := exit.output },
        (Staging.reconcile compiler.state.cleanup (compiler.staged world) (compiler.launchTable world)
          after).2) := by
  have executed := Subprocess.execute_started (compiler.called source world) started
  have returned := Staging.reconcile_kept compiler.state.cleanup compiler.state.artifacts world after
  rw [← staged, ← launchTable] at returned
  unfold run
  rw [stage_launch]
  simp only [called_eq, executed, Subprocess.truncate, take_called, returned]
  rfl

theorem compileBuffer_unstaged {source : Bytes} {compiler : ExternalCompiler} {world : World}
    {fault : Fault} (launch : Launcher) (name : Option String)
    (refused : (Staging.sourcePath world).2.writeFile (Staging.sourcePath world).1 source = .error fault) :
    compileBuffer launch source name compiler world =
      (.error (.fileSystem (Staging.sourcePath world).1 fault), compiler, (Staging.sourcePath world).2) := by
  unfold compileBuffer
  simp only [refused]

theorem compileBuffer_staged {source : Bytes} {compiler : ExternalCompiler} {world staged : World}
    (launch : Launcher) (name : Option String)
    (written : (Staging.sourcePath world).2.writeFile (Staging.sourcePath world).1 source = .ok staged) :
    compileBuffer launch source name compiler world =
      let path := (Staging.sourcePath world).1
      let outcome := run launch path (CompilerState.properName name) compiler staged
      (outcome.1, outcome.2.1, Staging.discard compiler.state.cleanup path outcome.2.2) := by
  unfold compileBuffer
  simp only [written]

end ExternalCompiler

/-- A compiler and the world that it is in. -/
structure Session where
  compiler : ExternalCompiler
  world : World

/-- A call on a compiler, or a change to the world by others. -/
inductive Call where
  | addArguments (arguments : List String)
  | setProfile (profile : Profile)
  | setEntry (entry : String)
  | setCleanup (cleanup : Cleanup)
  | route (kind : ArtifactKind) (sink : Sink)
  | disable (kind : ArtifactKind)
  | take (kind : ArtifactKind)
  | reset
  | compileFile (launch : Launcher) (path : String)
  | compileBuffer (launch : Launcher) (source : Bytes) (name : Option String)
  | elapse (change : World → World)

/-- What a call answers. -/
inductive Answer where
  | done
  | bytes (found : Option Bytes)
  | compiled (outcome : Except CompileError Summary)

namespace Session

def withState (session : Session) (state : CompilerState) : Session :=
  { session with compiler := { session.compiler with state } }

def perform (session : Session) : Call → Answer × Session
  | .addArguments arguments => (.done, session.withState (session.compiler.state.addArguments arguments))
  | .setProfile profile => (.done, session.withState (session.compiler.state.setProfile profile))
  | .setEntry entry => (.done, session.withState (session.compiler.state.setEntry entry))
  | .setCleanup cleanup => (.done, session.withState (session.compiler.state.setCleanup cleanup))
  | .route kind sink => (.done, session.withState (session.compiler.state.route kind sink))
  | .disable kind => (.done, session.withState (session.compiler.state.disable kind))
  | .take kind =>
    let taken := session.compiler.state.takeBytes kind
    (.bytes taken.1, session.withState taken.2)
  | .reset => (.done, { session with compiler := session.compiler.reset })
  | .compileFile launch path =>
    let outcome := session.compiler.compileFile launch path session.world
    (.compiled outcome.1, ⟨outcome.2.1, outcome.2.2⟩)
  | .compileBuffer launch source name =>
    let outcome := session.compiler.compileBuffer launch source name session.world
    (.compiled outcome.1, ⟨outcome.2.1, outcome.2.2⟩)
  | .elapse change => (.done, { session with world := change session.world })

def run (session : Session) : List Call → List Answer × Session
  | [] => ([], session)
  | call :: calls =>
    let (answer, after) := session.perform call
    let (answers, last) := after.run calls
    (answer :: answers, last)

end Session

end ShaderDriver
