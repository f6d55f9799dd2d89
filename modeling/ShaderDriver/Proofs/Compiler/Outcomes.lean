import ShaderDriver.Proofs.Compiler.Session

namespace ShaderDriver

def Call.sourceName : Call → Option String
  | .compileBuffer _ _ name => CompilerState.properName name
  | _ => none

namespace Session

/-- A call runs the executable on a source in a world: on the file that it names, or on the file that
its buffer has been written to. -/
inductive Starts (session : Session) : Call → Launcher → String → World → Prop
  | file {launch path} : session.Starts (.compileFile launch path) launch path session.world
  | buffer {launch source name staged} :
      (Staging.sourcePath session.world).2.writeFile (Staging.sourcePath session.world).1 source =
        .ok staged →
      session.Starts (.compileBuffer launch source name) launch (Staging.sourcePath session.world).1 staged

def recorded (session : Session) (call : Call) (source : String) (world : World) (exit : Exit) :
    Summary × CompilerState :=
  session.compiler.state.record exit.code (session.compiler.invocation source world).arguments
    (String.ofList (Utf8.decodeLossy exit.output)) source call.sourceName

/-- The ends of a call that compiles, with the compiler behind each. -/
inductive Ends (session : Session) (call : Call) : Except CompileError Summary → ExternalCompiler → Prop
  | unstaged {path fault} : session.Ends call (.error (.fileSystem path fault)) session.compiler
  | refused {launch source world refusal} : session.Starts call launch source world →
      launch (session.compiler.invocation source world) (session.compiler.launchWorld world) =
        .error refusal →
      session.Ends call (.error (.process (.ofRefusal session.compiler.command.shown refusal)))
        { session.compiler with
          state := { session.compiler.state with sourcePath := some source }
          output := [] }
  | started {launch source world exit after} : session.Starts call launch source world →
      launch (session.compiler.invocation source world) (session.compiler.launchWorld world) =
        .ok (exit, after) →
      session.Ends call (.ok (session.recorded call source world exit).1)
        { session.compiler with
          state := { (session.recorded call source world exit).2 with
            sourcePath := some source
            artifacts := Staging.returned session.compiler.state.artifacts world after }
          output := exit.output }

theorem Starts.ends {session : Session} {call : Call} {launch : Launcher} {source : String}
    {world : World} (starts : session.Starts call launch source world) :
    let outcome := ExternalCompiler.run launch source call.sourceName session.compiler world
    session.Ends call outcome.1 outcome.2.1 := by
  cases ran : launch (session.compiler.invocation source world) (session.compiler.launchWorld world) with
  | error refusal =>
    rw [ExternalCompiler.run_refused _ ran]
    exact .refused starts ran
  | ok ended =>
    obtain ⟨exit, after⟩ := ended
    rw [ExternalCompiler.run_started _ ran]
    exact .started starts ran

/-- A call that starts is one run of the executable on its source. -/
theorem Starts.perform_eq {session : Session} {call : Call} {launch : Launcher} {source : String}
    {world : World} (starts : session.Starts call launch source world) :
    let outcome := ExternalCompiler.run launch source call.sourceName session.compiler world
    (session.perform call).1 = .compiled outcome.1 ∧ (session.perform call).2.compiler = outcome.2.1 := by
  cases starts with
  | file => exact ⟨rfl, rfl⟩
  | buffer written =>
    rw [perform, ExternalCompiler.compileBuffer_staged launch _ written]
    exact ⟨rfl, rfl⟩

/-- There are no other ends than these. -/
theorem ends_of_compiled {session : Session} {call : Call} {outcome : Except CompileError Summary}
    (compiled : (session.perform call).1 = .compiled outcome) :
    session.Ends call outcome (session.perform call).2.compiler := by
  cases call with
  | compileFile launch path =>
    cases compiled
    exact Starts.file.ends
  | compileBuffer launch source name =>
    cases written : (Staging.sourcePath session.world).2.writeFile (Staging.sourcePath session.world).1
      source with
    | error fault =>
      rw [perform, ExternalCompiler.compileBuffer_unstaged launch name written] at compiled ⊢
      cases compiled
      exact .unstaged
    | ok staged =>
      have starts : session.Starts (.compileBuffer launch source name) launch _ staged := .buffer written
      rw [perform, ExternalCompiler.compileBuffer_staged launch name written] at compiled ⊢
      cases compiled
      exact starts.ends
  | addArguments | setProfile | setEntry | setCleanup | route | disable | take | reset | elapse =>
    cases compiled

/-- What a failed compile may leave behind. If the source was not staged, nothing has changed; if there
was no child, only the source path is another and the raw output is gone. -/
def RolledBack (session : Session) (call : Call) (after : ExternalCompiler) : CompileError → Prop
  | .fileSystem _ _ => after = session.compiler
  | .process _ => ∃ launch source world, session.Starts call launch source world ∧
      after = { session.compiler with
        state := { session.compiler.state with sourcePath := some source }
        output := [] }
  | .notUsable _ | .noSuchFile _ => False

/-- A compile that fails leaves the compiler as it was: the table with the buffers in it, the arguments,
the messages, the profile, the entry point and the policy for temporary files. -/
theorem failed_compile_rolled_back {session : Session} {call : Call} {error : CompileError}
    (failed : (session.perform call).1 = .compiled (.error error)) :
    session.RolledBack call (session.perform call).2.compiler error := by
  have ends := ends_of_compiled failed
  generalize (session.perform call).2.compiler = after at ends ⊢
  cases ends with
  | unstaged => rfl
  | refused starts _ => exact ⟨_, _, _, starts, rfl⟩

/-- A compiler that is not installed, with a buffer and a message from earlier. -/
def uninstalled : Session where
  compiler :=
    { command := ⟨"dxc", "dxc"⟩
      state :=
        { arguments := ["-Zi"]
          messages := [.unstructured "remark"]
          artifacts := (ArtifactTable.empty.set .object (.memory [1, 2])).toMemory .hash }
      output := [7] }
  world := {}

theorem failed_compile_rolled_back_uninstalled :
    let call := Call.compileFile (fun _ _ => .error (.notStarted .notFound)) "a.hlsl"
    let error := CompileError.process (.spawnFailed "dxc" .notFound)
    (uninstalled.perform call).1 = .compiled (.error error) ∧
      uninstalled.RolledBack call (uninstalled.perform call).2.compiler error :=
  have failed : (uninstalled.perform
      (.compileFile (fun _ _ => .error (.notStarted .notFound)) "a.hlsl")).1 =
      .compiled (.error (.process (.spawnFailed "dxc" .notFound))) := rfl
  ⟨failed, failed_compile_rolled_back failed⟩

end Session

end ShaderDriver
