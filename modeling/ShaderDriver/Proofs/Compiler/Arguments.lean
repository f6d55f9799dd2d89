import Mathlib.Data.List.DropRight
import ShaderDriver.Proofs.Compiler.LibrarySession
import ShaderDriver.Proofs.Compiler.Outcomes

namespace ShaderDriver

section Configured

variable {σ α : Type} (forgets : α → Bool) (tokens : α → List String)

/-- The tokens of the calls behind the last one that forgets. -/
def configured (calls : List α) : List String :=
  (calls.rtakeWhile fun call => !forgets call).flatMap tokens

theorem configured_concat (calls : List α) (call : α) :
    configured forgets tokens (calls ++ [call]) =
      if forgets call then [] else configured forgets tokens calls ++ tokens call := by
  unfold configured
  rw [List.rtakeWhile_concat]
  cases forgets call with
  | true => rfl
  | false => simp

/-- Tokens that each call either extends by its own or empties are the configured ones. -/
theorem configured_foldl (view : σ → List String) {step : σ → α → σ} {start : σ}
    (fresh : view start = [])
    (each : ∀ state call,
      view (step state call) = if forgets call then [] else view state ++ tokens call)
    (calls : List α) : view (calls.foldl step start) = configured forgets tokens calls := by
  induction calls using List.reverseRecOn with
  | nil => exact fresh
  | append_singleton calls call ih =>
    rw [List.foldl_append, List.foldl_cons, List.foldl_nil, each, configured_concat, ih]

end Configured

def Setting.tokens : Setting → List String
  | .addArguments arguments => arguments
  | .setProfile profile => ["-T", profile.display]
  | .setEntry entry => ["-E", entry]
  | .setCleanup _ | .route _ _ | .disable _ | .take _ => []

theorem CompilerState.configure_arguments (state : CompilerState) (setting : Setting) :
    (state.configure setting).2.arguments = state.arguments ++ setting.tokens := by
  cases setting with
  | addArguments | setProfile | setEntry => rfl
  | setCleanup | route | disable | take => exact (List.append_nil _).symm

namespace Call

def forgets : Call → Bool
  | .reset => true
  | _ => false

def tokens (call : Call) : List String := (call.setting?.map Setting.tokens).getD []

end Call

namespace Session

theorem run_eq_foldl (session : Session) (calls : List Call) :
    (session.run calls).2 = calls.foldl (fun session call => (session.perform call).2) session := by
  induction calls generalizing session with
  | nil => rfl
  | cons call calls ih =>
    rw [List.foldl_cons, ← ih]
    rfl

/-- However a compile ends, its own tokens are gone. -/
theorem Ends.arguments {session : Session} {call : Call} {outcome : Except CompileError Summary}
    {compiler : ExternalCompiler} (ends : session.Ends call outcome compiler) :
    compiler.state.arguments = session.compiler.state.arguments := by
  cases ends with
  | unstaged => rfl
  | refused _ _ => rfl
  | started _ _ => rfl

theorem perform_arguments (session : Session) (call : Call) :
    (session.perform call).2.compiler.state.arguments =
      if call.forgets then [] else session.compiler.state.arguments ++ call.tokens := by
  cases sets : call.setting? with
  | some setting =>
    have remembers : call.forgets = false := by cases call <;> first | rfl | cases sets
    rw [perform_setting sets, remembers, Call.tokens, sets]
    exact session.compiler.state.configure_arguments setting
  | none =>
    cases call with
    | reset => rfl
    | elapse => exact (List.append_nil _).symm
    | compileFile launch path =>
      have compiled : (session.perform (.compileFile launch path)).1 = .compiled _ := rfl
      exact (ends_of_compiled compiled).arguments.trans (List.append_nil _).symm
    | compileBuffer launch source name =>
      have compiled : (session.perform (.compileBuffer launch source name)).1 = .compiled _ := rfl
      exact (ends_of_compiled compiled).arguments.trans (List.append_nil _).symm
    | addArguments | setProfile | setEntry | setCleanup | route | disable | take => cases sets

theorem run_arguments {session : Session} (fresh : session.compiler.state.arguments = [])
    (calls : List Call) :
    (session.run calls).2.compiler.state.arguments = configured Call.forgets Call.tokens calls := by
  rw [run_eq_foldl]
  exact configured_foldl _ _ (fun session : Session => session.compiler.state.arguments) fresh
    perform_arguments calls

/-- A compile has started one child, which got the given tokens, a flag and a path for each artifact that
was asked for, and the source. The summary lists the same. Requests for memory go to new files, one for
each. -/
def Passed (session : Session) (given : List String) (call : Call) (summary : Summary) : Prop :=
  ∃ launch source world exit after, session.Starts call launch source world ∧
    summary.arguments =
      given ++ Staging.options (Staging.requested session.compiler.state.artifacts world) ++ [source] ∧
    launch ⟨session.compiler.command.program, summary.arguments⟩ (session.compiler.launchWorld world) =
      .ok (exit, after) ∧
    summary.exitCode = exit.code ∧ (session.perform call).2.compiler.output = exit.output ∧
    ∀ kind, (session.compiler.state.artifacts.get kind).isMemoryRequest →
      (∃ number, world.nextId ≤ number ∧ number < (session.compiler.launchWorld world).nextId ∧
        Staging.destination session.compiler.state.artifacts world kind =
          some (Path.join world.tempDir (Staging.ownName number kind))) ∧
      ∀ other, (session.compiler.state.artifacts.get other).isMemoryRequest →
        Staging.destination session.compiler.state.artifacts world other =
          Staging.destination session.compiler.state.artifacts world kind → other = kind

theorem passed_of_compiled {session : Session} {call : Call} {summary : Summary}
    (compiled : (session.perform call).1 = .compiled (.ok summary)) :
    session.Passed session.compiler.state.arguments call summary := by
  have ends := ends_of_compiled compiled
  unfold Passed
  generalize (session.perform call).2.compiler = after at ends ⊢
  cases ends with
  | @started launch source world exit after starts ran =>
    refine ⟨launch, source, world, exit, after, starts, ?_, ran, rfl, rfl, fun kind request => ⟨?_, ?_⟩⟩
    · exact congrArg (session.compiler.state.arguments ++ · ++ [source])
        (Staging.arguments_redirected session.compiler.state.artifacts world)
    · obtain ⟨number, lower, upper, path⟩ := Staging.ownPath_fresh request
      exact ⟨number, lower, upper, by rw [Staging.destination_of_request request, path]⟩
    · intro other request' same
      rw [Staging.destination_of_request request, Staging.destination_of_request request'] at same
      exact Staging.ownPath_own (Option.some.inj same)

end Session

namespace LibraryCall

def forgets : LibraryCall → Bool
  | .reset => true
  | _ => false

def tokens : LibraryCall → List String
  | .configure setting => setting.tokens
  | _ => []

end LibraryCall

namespace LibrarySession

variable {τ : Type}

theorem run_eq_foldl (session : LibrarySession τ) (calls : List LibraryCall) :
    (session.run calls).2 = calls.foldl (fun session call => (session.perform call).2) session := by
  induction calls generalizing session with
  | nil => rfl
  | cons call calls ih =>
    rw [List.foldl_cons, ← ih]
    rfl

theorem Ends.arguments {session : LibrarySession τ} {call : LibraryCall}
    {outcome : Except CompileError Summary} {compiler : LibraryCompiler τ} {world : World}
    (ends : session.Ends call outcome compiler world) :
    compiler.state.arguments = session.compiler.state.arguments := by
  cases ends with
  | unloaded _ _ => rfl
  | withoutIncludes _ _ => rfl
  | failed _ _ _ => rfl
  | finished _ _ _ => rfl

theorem perform_arguments (session : LibrarySession τ) (call : LibraryCall) :
    (session.perform call).2.compiler.state.arguments =
      if call.forgets then [] else session.compiler.state.arguments ++ call.tokens := by
  cases call with
  | configure setting => exact session.compiler.state.configure_arguments setting
  | reset => rfl
  | addIncludeDir | elapse => exact (List.append_nil _).symm
  | compileFile path =>
    have compiled : (session.perform (.compileFile path)).1 = .compiled _ := rfl
    exact (ends_of_compiled compiled).arguments.trans (List.append_nil _).symm
  | compileBuffer source name =>
    have compiled : (session.perform (.compileBuffer source name)).1 = .compiled _ := rfl
    exact (ends_of_compiled compiled).arguments.trans (List.append_nil _).symm

theorem run_arguments {session : LibrarySession τ} (fresh : session.compiler.state.arguments = [])
    (calls : List LibraryCall) :
    (session.run calls).2.compiler.state.arguments =
      configured LibraryCall.forgets LibraryCall.tokens calls := by
  rw [run_eq_foldl]
  exact configured_foldl _ _ (fun session : LibrarySession τ => session.compiler.state.arguments) fresh
    perform_arguments calls

/-- A compile has given the library the given tokens and the name of the source, and the summary lists
the same. -/
def Passed (session : LibrarySession τ) (given : List String) (call : LibraryCall)
    (summary : Summary) : Prop :=
  ∃ source name world handler result core, session.Starts call source name world ∧
    summary.arguments = given ++ [name] ∧
    session.compiler.library.compile source summary.arguments handler world session.compiler.core =
      (.ok result, core) ∧
    summary.exitCode = some result.status ∧ (session.perform call).2.compiler.core = core

theorem passed_of_compiled {session : LibrarySession τ} {call : LibraryCall} {summary : Summary}
    (compiled : (session.perform call).1 = .compiled (.ok summary)) :
    session.Passed session.compiler.state.arguments call summary := by
  have ends := ends_of_compiled compiled
  unfold Passed
  generalize (session.perform call).2.compiler = after at ends ⊢
  generalize (session.perform call).2.world = left at ends
  cases ends with
  | @finished source name world handler result core starts _ ran =>
    exact ⟨source, name, world, handler, result, core, starts, rfl, ran, rfl, rfl⟩

end LibrarySession

/-- The arguments of a compiler are always what the calls since the last reset have configured, whatever
was compiled in between, and every compile that succeeds has passed on these and its own tokens. -/
theorem arguments_configured :
    (∀ (path : String) (world : World) (calls : List Call),
      let session := (Session.run ⟨.ofPath path, world⟩ calls).2
      let given := configured Call.forgets Call.tokens calls
      session.compiler.state.arguments = given ∧
        ∀ call summary, (session.perform call).1 = .compiled (.ok summary) →
          session.Passed given call summary) ∧
    ∀ {τ : Type} (library : CompilerLibrary τ) (compiler : LibraryCompiler τ) (world : World)
      (calls : List LibraryCall), LibraryCompiler.create library = .ok compiler →
      let session := (LibrarySession.run ⟨compiler, world⟩ calls).2
      let given := configured LibraryCall.forgets LibraryCall.tokens calls
      session.compiler.state.arguments = given ∧
        ∀ call summary, (session.perform call).1 = .compiled (.ok summary) →
          session.Passed given call summary := by
  constructor
  · intro path world calls session given
    have kept : session.compiler.state.arguments = given := Session.run_arguments rfl calls
    exact ⟨kept, fun call summary compiled => kept ▸ Session.passed_of_compiled compiled⟩
  · intro τ library compiler world calls created session given
    have fresh : compiler.state.arguments = [] := by
      unfold LibraryCompiler.create at created
      split at created
      · cases created
        rfl
      · cases created
    have kept : session.compiler.state.arguments = given := LibrarySession.run_arguments fresh calls
    exact ⟨kept, fun call summary compiled => kept ▸ LibrarySession.passed_of_compiled compiled⟩

/-- A compiler that fails to start once, and a library that is reset once, before a compile that
succeeds. -/
theorem arguments_configured_after_failure :
    let missing : Launcher := fun _ _ => .error (.notStarted .notFound)
    let silent : Launcher := fun _ world => .ok (⟨some 0, []⟩, world)
    let session := (Session.run ⟨.ofPath "dxc", {}⟩
      [.setEntry "main", .route .object .memory, .compileFile missing "a.hlsl", .route .hash (.file "a.hash"),
        .addArguments ["-Zi"]]).2
    let library : CompilerLibrary Unit :=
      { create := .ok (), load := fun _ _ => .ok [], compile := fun _ _ _ _ core => (.ok ⟨0, none, fun _ => none⟩, core) }
    let librarySession := (LibrarySession.run ⟨{ library, core := () }, {}⟩
      [.configure (.addArguments ["-Od"]), .reset, .configure (.setEntry "main")]).2
    (∃ summary, (session.perform (.compileFile silent "a.hlsl")).1 = .compiled (.ok summary) ∧
      session.Passed ["-E", "main", "-Zi"] (.compileFile silent "a.hlsl") summary) ∧
    ∃ summary, (librarySession.perform (.compileFile "a.hlsl")).1 = .compiled (.ok summary) ∧
      librarySession.Passed ["-E", "main"] (.compileFile "a.hlsl") summary := by
  intro missing silent session library librarySession
  constructor
  · refine ⟨_, rfl, ?_⟩
    exact (arguments_configured.1 "dxc" {} _).2 (.compileFile silent "a.hlsl") _ rfl
  · refine ⟨_, rfl, ?_⟩
    exact (arguments_configured.2 library { library, core := () } {} _ rfl).2 (.compileFile "a.hlsl") _ rfl

end ShaderDriver
