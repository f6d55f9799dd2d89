import ShaderDriver.Compiler.Library
import ShaderDriver.Proofs.Compiler.Session

namespace ShaderDriver

/-- A call that is answered from what a compiler keeps, whether it is an executable or a library. -/
inductive Setting where
  | addArguments (arguments : List String)
  | setProfile (profile : Profile)
  | setEntry (entry : String)
  | setCleanup (cleanup : Cleanup)
  | route (kind : ArtifactKind) (sink : Sink)
  | disable (kind : ArtifactKind)
  | take (kind : ArtifactKind)

def CompilerState.configure (state : CompilerState) : Setting → Answer × CompilerState
  | .addArguments arguments => (.done, state.addArguments arguments)
  | .setProfile profile => (.done, state.setProfile profile)
  | .setEntry entry => (.done, state.setEntry entry)
  | .setCleanup cleanup => (.done, state.setCleanup cleanup)
  | .route kind sink => (.done, state.route kind sink)
  | .disable kind => (.done, state.disable kind)
  | .take kind => (.bytes (state.takeBytes kind).1, (state.takeBytes kind).2)

def Call.setting? : Call → Option Setting
  | .addArguments arguments => some (.addArguments arguments)
  | .setProfile profile => some (.setProfile profile)
  | .setEntry entry => some (.setEntry entry)
  | .setCleanup cleanup => some (.setCleanup cleanup)
  | .route kind sink => some (.route kind sink)
  | .disable kind => some (.disable kind)
  | .take kind => some (.take kind)
  | .reset | .compileFile _ _ | .compileBuffer _ _ _ | .elapse _ => none

theorem Session.perform_setting {session : Session} {call : Call} {setting : Setting}
    (sets : call.setting? = some setting) :
    session.perform call =
      ((session.compiler.state.configure setting).1,
        session.withState (session.compiler.state.configure setting).2) := by
  cases call <;> cases sets <;> rfl

structure LibrarySession (τ : Type) where
  compiler : LibraryCompiler τ
  world : World

/-- A call on a compiler of a library, or a change to the world by others. -/
inductive LibraryCall where
  | configure (setting : Setting)
  | addIncludeDir (dir : String)
  | reset
  | compileFile (path : String)
  | compileBuffer (source : Bytes) (name : Option String)
  | elapse (change : World → World)

namespace LibrarySession

variable {τ : Type}

def perform (session : LibrarySession τ) : LibraryCall → Answer × LibrarySession τ
  | .configure setting =>
    let done := session.compiler.state.configure setting
    (done.1, { session with compiler := { session.compiler with state := done.2 } })
  | .addIncludeDir dir => (.done, { session with compiler := session.compiler.addIncludeDir dir })
  | .reset => (.done, { session with compiler := session.compiler.reset })
  | .compileFile path =>
    let outcome := session.compiler.compileFile path session.world
    (.compiled outcome.1, ⟨outcome.2.1, outcome.2.2⟩)
  | .compileBuffer source name =>
    let outcome := session.compiler.compileBuffer source name session.world
    (.compiled outcome.1, ⟨outcome.2.1, outcome.2.2⟩)
  | .elapse change => (.done, { session with world := change session.world })

def run (session : LibrarySession τ) : List LibraryCall → List Answer × LibrarySession τ
  | [] => ([], session)
  | call :: calls =>
    let (answer, after) := session.perform call
    let (answers, last) := after.run calls
    (answer :: answers, last)

/-- A call has the library compile a source under a name in a world: a file that the library has loaded,
or a buffer under its own name or a fresh one. -/
inductive Starts (session : LibrarySession τ) : LibraryCall → Bytes → String → World → Prop
  | file {path source} : session.compiler.library.load session.world path = .ok source →
      session.Starts (.compileFile path) source path session.world
  | named {source name known} : CompilerState.properName name = some known →
      session.Starts (.compileBuffer source name) source known session.world
  | unnamed {source name} : CompilerState.properName name = none →
      session.Starts (.compileBuffer source name) source (Staging.sourcePath session.world).1
        (Staging.sourcePath session.world).2

def called (session : LibrarySession τ) (name : String) : LibraryCompiler τ :=
  { session.compiler with state := { session.compiler.state with sourcePath := some name } }

def arguments (session : LibrarySession τ) (name : String) : List String :=
  session.compiler.state.arguments ++ [name]

def recorded (session : LibrarySession τ) (name : String) (result : LibraryResult) :
    Summary × CompilerState :=
  (session.called name).state.record (some result.status) (session.arguments name)
    (result.errors.getD "") name none

/-- The ends of a call that compiles, with the compiler and the world behind each. -/
inductive Ends (session : LibrarySession τ) (call : LibraryCall) :
    Except CompileError Summary → LibraryCompiler τ → World → Prop
  | unloaded {path reason} : call = .compileFile path →
      session.compiler.library.load session.world path = .error reason →
      session.Ends call (.error (.noSuchFile path)) session.compiler session.world
  | withoutIncludes {source name world reason} : session.Starts call source name world →
      session.compiler.library.includes session.compiler.includeDirs = .error reason →
      session.Ends call (.error (.notUsable reason)) (session.called name) world
  | failed {source name world handler reason core} : session.Starts call source name world →
      session.compiler.library.includes session.compiler.includeDirs = .ok handler →
      session.compiler.library.compile source (session.arguments name) handler world
        session.compiler.core = (.error reason, core) →
      session.Ends call (.error (.notUsable reason)) { session.called name with core } world
  | finished {source name world handler result core} : session.Starts call source name world →
      session.compiler.library.includes session.compiler.includeDirs = .ok handler →
      session.compiler.library.compile source (session.arguments name) handler world
        session.compiler.core = (.ok result, core) →
      session.Ends call (.ok (session.recorded name result).1)
        { session.called name with
          core
          state := { (session.recorded name result).2 with
            artifacts :=
              (LibraryCompiler.deliverAll result session.compiler.state.artifacts world).1 } }
        (LibraryCompiler.deliverAll result session.compiler.state.artifacts world).2

theorem Starts.ends {session : LibrarySession τ} {call : LibraryCall} {source : Bytes} {name : String}
    {world : World} (starts : session.Starts call source name world) :
    let outcome := LibraryCompiler.run source name session.compiler world
    session.Ends call outcome.1 outcome.2.1 outcome.2.2 := by
  unfold LibraryCompiler.run
  simp only
  cases included : session.compiler.library.includes session.compiler.includeDirs with
  | error reason => exact .withoutIncludes starts included
  | ok handler =>
    cases compiled : session.compiler.library.compile source (session.arguments name) handler world
      session.compiler.core with
    | mk answer core =>
      have given := compiled
      rw [arguments] at given
      simp only [given]
      cases answer with
      | error reason => exact .failed starts included compiled
      | ok result => exact .finished starts included compiled

/-- There are no other ends than these. -/
theorem ends_of_compiled {session : LibrarySession τ} {call : LibraryCall}
    {outcome : Except CompileError Summary} (compiled : (session.perform call).1 = .compiled outcome) :
    session.Ends call outcome (session.perform call).2.compiler (session.perform call).2.world := by
  cases call with
  | compileFile path =>
    cases compiled
    simp only [perform, LibraryCompiler.compileFile]
    cases loaded : session.compiler.library.load session.world path with
    | error reason => exact .unloaded rfl loaded
    | ok source => exact (Starts.file loaded).ends
  | compileBuffer source name =>
    cases compiled
    simp only [perform, LibraryCompiler.compileBuffer]
    cases given : CompilerState.properName name with
    | none => exact (Starts.unnamed given).ends
    | some known => exact (Starts.named given).ends
  | configure setting => cases setting <;> cases compiled
  | addIncludeDir | reset | elapse => cases compiled

end LibrarySession

end ShaderDriver
