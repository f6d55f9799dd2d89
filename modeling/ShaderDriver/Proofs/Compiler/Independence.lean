import ShaderDriver.Proofs.Compiler.Temporaries

namespace ShaderDriver

/-- The binding as a compile sees it. A buffer from earlier is a request like any other. -/
def Binding.emptied : Binding → Binding
  | memory _ => pending
  | binding => binding

namespace ArtifactTable

/-- The tables differ at most in the buffers from earlier. -/
def Alike (one other : ArtifactTable) : Prop :=
  ∀ kind, (one.get kind).emptied = (other.get kind).emptied

namespace Alike

variable {one other : ArtifactTable}

theorem isMemoryRequest (alike : one.Alike other) (kind : ArtifactKind) :
    (one.get kind).isMemoryRequest = (other.get kind).isMemoryRequest := by
  have request (binding : Binding) : binding.isMemoryRequest = binding.emptied.isMemoryRequest := by
    cases binding <;> rfl
  rw [request, alike kind, ← request]

theorem get_eq (alike : one.Alike other) {kind : ArtifactKind}
    (idle : ¬ (one.get kind).isMemoryRequest) : one.get kind = other.get kind := by
  have emptied {binding : Binding} (idle : ¬ binding.isMemoryRequest) : binding.emptied = binding := by
    cases binding <;> first | rfl | exact absurd rfl idle
  have same := alike kind
  rwa [emptied idle, emptied (by rwa [← alike.isMemoryRequest])] at same

theorem set (alike : one.Alike other) (kind : ArtifactKind) {binding binding' : Binding}
    (same : binding.emptied = binding'.emptied) : (one.set kind binding).Alike (other.set kind binding') := by
  intro target
  rw [get_set, get_set]
  split
  · exact same
  · exact alike target

theorem takeBytes (alike : one.Alike other) (kind : ArtifactKind) :
    (one.takeBytes kind).2.Alike (other.takeBytes kind).2 := by
  have taken (table : ArtifactTable) : (table.takeBytes kind).2.Alike table := by
    unfold ArtifactTable.takeBytes
    split
    · rename_i bytes held
      intro target
      rw [toMemory, get_set]
      split
      · rename_i same
        rw [same, held]
        rfl
      · rfl
    · exact fun _ => rfl
  exact fun target => ((taken one target).trans (alike target)).trans (taken other target).symm

end Alike

end ArtifactTable

namespace Staging

section Alike

variable {one other : ArtifactTable} (alike : one.Alike other) (world : World)

include alike

theorem demand_alike (kinds : List ArtifactKind) : demand one kinds = demand other kinds :=
  List.countP_congr fun kind _ => by rw [alike.isMemoryRequest]

theorem ownPath_alike (kind : ArtifactKind) : ownPath one world kind = ownPath other world kind := by
  rw [ownPath, ownPath, demand_alike alike]

theorem named_alike (kinds : List ArtifactKind) : named one world kinds = named other world kinds := by
  rw [named, named, demand_alike alike]

theorem destination_alike (kind : ArtifactKind) :
    destination one world kind = destination other world kind := by
  by_cases request : (one.get kind).isMemoryRequest
  · have request' : (other.get kind).isMemoryRequest := by rwa [← alike.isMemoryRequest]
    rw [destination_of_request request, destination_of_request request', ownPath_alike alike]
  · rw [destination, destination, alike.get_eq request, ownPath_alike alike]

theorem arguments_alike :
    arguments (redirected one world ArtifactKind.all) = arguments (redirected other world ArtifactKind.all) := by
  have same : requested one world = requested other world :=
    List.filterMap_congr fun kind _ => by rw [destination_alike alike]
  rw [arguments_redirected, arguments_redirected, same]

theorem paths_alike :
    (ArtifactKind.all.filterMap (kept one world)).map Staged.path =
      (ArtifactKind.all.filterMap (kept other world)).map Staged.path := by
  rw [List.map_filterMap, List.map_filterMap]
  refine List.filterMap_congr fun kind _ => ?_
  rw [kept, kept, alike.isMemoryRequest, ownPath_alike alike]
  split <;> rfl

/-- The child's outputs are all that is kept of the requests for memory. -/
theorem returned_alike (after : World) : returned one world after = returned other world after := by
  ext kind
  simp only [returned, ownPath_alike alike world kind]
  by_cases request : (one.get kind).isMemoryRequest
  · have request' : (other.get kind).isMemoryRequest := by rwa [← alike.isMemoryRequest]
    simp only [if_pos request, if_pos request']
  · have request' : ¬ (other.get kind).isMemoryRequest := by rwa [← alike.isMemoryRequest]
    rw [if_neg request, if_neg request', alike.get_eq request]

end Alike

end Staging

namespace ExternalCompiler

/-- Compilers that differ only in what earlier compiles have left. -/
structure Akin (one other : ExternalCompiler) : Prop where
  command : one.command = other.command
  arguments : one.state.arguments = other.state.arguments
  cleanup : one.state.cleanup = other.state.cleanup
  artifacts : one.state.artifacts.Alike other.state.artifacts

/-- The last compile has left the same in both. -/
structure SameResults (one other : ExternalCompiler) : Prop where
  artifacts : one.state.artifacts = other.state.artifacts
  messages : one.state.messages = other.state.messages
  sourcePath : one.state.sourcePath = other.state.sourcePath
  output : one.output = other.output

/-- Two compiles that come to the same, with compilers that stay akin. -/
structure Agree (one other : Outcome) : Prop where
  answer : one.1 = other.1
  world : one.2.2 = other.2.2
  akin : one.2.1.Akin other.2.1
  results (summary : Summary) (compiled : one.1 = .ok summary) : one.2.1.SameResults other.2.1

section Akin

variable {one other : ExternalCompiler} (akin : one.Akin other)

include akin

theorem Akin.launchWorld (world : World) : one.launchWorld world = other.launchWorld world :=
  Staging.named_alike akin.artifacts world ArtifactKind.all

theorem Akin.invocation (source : String) (world : World) :
    one.invocation source world = other.invocation source world := by
  unfold ExternalCompiler.invocation launchTable
  rw [akin.command, akin.arguments, Staging.arguments_alike akin.artifacts]

theorem Akin.left (launch : Launcher) (source : String) (world : World) :
    one.left launch source world = other.left launch source world := by
  unfold ExternalCompiler.left
  rw [akin.invocation, akin.launchWorld]

/-- The child is started in the same way, and what it leaves is taken in the same way. -/
theorem Akin.run (launch : Launcher) (source : String) (name : Option String) (world : World) :
    Agree (run launch source name one world) (run launch source name other world) := by
  have sameWorld : (ExternalCompiler.run launch source name one world).2.2 =
      (ExternalCompiler.run launch source name other world).2.2 := by
    rw [run_world, run_world, akin.cleanup, akin.left, staged, staged, Staging.paths_alike akin.artifacts]
  -- Both children are started with one invocation in one world, so a single case split serves both runs.
  cases ran : launch (one.invocation source world) (one.launchWorld world) with
  | error refusal =>
    have ran' := ran
    rw [akin.invocation, akin.launchWorld] at ran'
    refine ⟨?_, sameWorld, ?_, ?_⟩
    · rw [run_refused name ran, run_refused name ran', akin.command]
    · rw [run_refused name ran, run_refused name ran']
      exact ⟨akin.command, akin.arguments, akin.cleanup, akin.artifacts⟩
    · intro summary compiled
      rw [run_refused name ran] at compiled
      cases compiled
  | ok ended =>
    obtain ⟨exit, after⟩ := ended
    have ran' := ran
    rw [akin.invocation, akin.launchWorld] at ran'
    have returned := Staging.returned_alike akin.artifacts world after
    refine ⟨?_, sameWorld, ?_, ?_⟩
    · rw [run_started name ran, run_started name ran', akin.invocation]
      rfl
    · rw [run_started name ran, run_started name ran']
      refine ⟨akin.command, akin.arguments, akin.cleanup, ?_⟩
      simp only [returned]
      exact fun _ => rfl
    · intro summary _
      rw [run_started name ran, run_started name ran']
      exact ⟨returned, rfl, rfl, rfl⟩

theorem Akin.compileBuffer (launch : Launcher) (source : Bytes) (name : Option String) (world : World) :
    Agree (compileBuffer launch source name one world) (compileBuffer launch source name other world) := by
  cases written : (Staging.sourcePath world).2.writeFile (Staging.sourcePath world).1 source with
  | error fault =>
    rw [compileBuffer_unstaged launch name written, compileBuffer_unstaged launch name written]
    refine ⟨rfl, rfl, akin, ?_⟩
    intro summary compiled
    cases compiled
  | ok staged =>
    have agree := akin.run launch (Staging.sourcePath world).1 (CompilerState.properName name) staged
    rw [compileBuffer_staged launch name written, compileBuffer_staged launch name written]
    refine ⟨agree.answer, ?_, agree.akin, agree.results⟩
    simp only [akin.cleanup, agree.world]

end Akin

end ExternalCompiler

namespace Session

/-- Compilers that differ only in their past, in one world. -/
structure Akin (one other : Session) : Prop where
  compiler : one.compiler.Akin other.compiler
  world : one.world = other.world

end Session

/-- Answers that agree on what a compile came to. Buffers that are handed over may be from earlier. -/
inductive Answer.Agree : Answer → Answer → Prop
  | done : Agree .done .done
  | bytes (found found' : Option Bytes) : Agree (.bytes found) (.bytes found')
  | compiled (outcome : Except CompileError Summary) : Agree (.compiled outcome) (.compiled outcome)

namespace Session

section Akin

variable {one other : Session}

theorem Akin.withState (akin : one.Akin other) {state state' : CompilerState}
    (arguments : state.arguments = state'.arguments) (cleanup : state.cleanup = state'.cleanup)
    (artifacts : state.artifacts.Alike state'.artifacts) : (one.withState state).Akin (other.withState state') :=
  ⟨⟨akin.compiler.command, arguments, cleanup, artifacts⟩, akin.world⟩

/-- A compile in both is one compile. -/
theorem Akin.compile (akin : one.Akin other) {call : Call} {outcome : Except CompileError Summary}
    (compiled : (one.perform call).1 = .compiled outcome) :
    ∃ ran ran' : ExternalCompiler.Outcome, ExternalCompiler.Agree ran ran' ∧
      one.perform call = (.compiled ran.1, ⟨ran.2.1, ran.2.2⟩) ∧
      other.perform call = (.compiled ran'.1, ⟨ran'.2.1, ran'.2.2⟩) := by
  cases call with
  | compileFile launch path =>
    refine ⟨_, _, akin.compiler.run launch path none one.world, rfl, ?_⟩
    rw [akin.world]
    rfl
  | compileBuffer launch source name =>
    refine ⟨_, _, akin.compiler.compileBuffer launch source name one.world, rfl, ?_⟩
    rw [akin.world]
    rfl
  | addArguments | setProfile | setEntry | setCleanup | route | disable | take | reset | elapse =>
    cases compiled

theorem Akin.compile_agrees (akin : one.Akin other) {call : Call} {outcome : Except CompileError Summary}
    (compiled : (one.perform call).1 = .compiled outcome) :
    (one.perform call).2.Akin (other.perform call).2 ∧ (other.perform call).1 = .compiled outcome := by
  obtain ⟨ran, ran', agree, whole, whole'⟩ := akin.compile compiled
  rw [whole] at compiled ⊢
  cases compiled
  rw [whole', agree.answer]
  exact ⟨⟨agree.akin, agree.world⟩, rfl⟩

/-- One call, whatever it is, keeps the compilers akin. -/
theorem Akin.perform (akin : one.Akin other) (call : Call) :
    (one.perform call).2.Akin (other.perform call).2 ∧
      Answer.Agree (one.perform call).1 (other.perform call).1 := by
  have same := akin.compiler
  cases call with
  | addArguments arguments =>
    exact ⟨akin.withState (congrArg (· ++ arguments) same.arguments) same.cleanup same.artifacts, .done⟩
  | setProfile profile =>
    exact ⟨akin.withState (congrArg (· ++ ["-T", profile.display]) same.arguments) same.cleanup
      same.artifacts, .done⟩
  | setEntry entry =>
    exact ⟨akin.withState (congrArg (· ++ ["-E", entry]) same.arguments) same.cleanup same.artifacts, .done⟩
  | setCleanup cleanup => exact ⟨akin.withState same.arguments rfl same.artifacts, .done⟩
  | route kind sink =>
    refine ⟨akin.withState same.arguments same.cleanup ?_, .done⟩
    cases sink with
    | memory => exact same.artifacts.set kind rfl
    | file path => exact same.artifacts.set kind rfl
  | disable kind => exact ⟨akin.withState same.arguments same.cleanup (same.artifacts.set kind rfl), .done⟩
  | take kind =>
    exact ⟨akin.withState same.arguments same.cleanup (same.artifacts.takeBytes kind), .bytes _ _⟩
  | reset => exact ⟨⟨⟨same.command, rfl, same.cleanup, fun _ => rfl⟩, akin.world⟩, .done⟩
  | elapse change => exact ⟨⟨same, congrArg change akin.world⟩, .done⟩
  | compileFile launch path =>
    have compiled : (one.perform (.compileFile launch path)).1 = .compiled _ := rfl
    obtain ⟨after, answered⟩ := akin.compile_agrees compiled
    refine ⟨after, ?_⟩
    rw [answered]
    exact .compiled _
  | compileBuffer launch source name =>
    have compiled : (one.perform (.compileBuffer launch source name)).1 = .compiled _ := rfl
    obtain ⟨after, answered⟩ := akin.compile_agrees compiled
    refine ⟨after, ?_⟩
    rw [answered]
    exact .compiled _

/-- So do calls in any number and order: every compile among them comes to the same. -/
theorem Akin.run (akin : one.Akin other) (calls : List Call) :
    (one.run calls).2.Akin (other.run calls).2 ∧
      List.Forall₂ Answer.Agree (one.run calls).1 (other.run calls).1 := by
  induction calls generalizing one other with
  | nil => exact ⟨akin, .nil⟩
  | cons call calls ih =>
    obtain ⟨after, agrees⟩ := akin.perform call
    obtain ⟨last, later⟩ := ih after
    exact ⟨last, .cons agrees later⟩

/-- What a compile comes to does not depend on what earlier compiles have left: the buffers, the messages,
the source path and the raw output. It fails with one error, or it gives one summary and leaves one table,
and the compilers stay akin. -/
theorem compile_independent (akin : one.Akin other) {call : Call} {outcome : Except CompileError Summary}
    (compiled : (one.perform call).1 = .compiled outcome) :
    (other.perform call).1 = .compiled outcome ∧ (one.perform call).2.Akin (other.perform call).2 ∧
      ∀ summary, outcome = .ok summary →
        (one.perform call).2.compiler.SameResults (other.perform call).2.compiler := by
  obtain ⟨after, answered⟩ := akin.compile_agrees compiled
  refine ⟨answered, after, ?_⟩
  rintro summary rfl
  obtain ⟨ran, ran', agree, whole, whole'⟩ := akin.compile compiled
  rw [whole] at compiled ⊢
  rw [whole']
  exact agree.results summary (Answer.compiled.inj compiled)

end Akin

/-- A compiler with a buffer, a message, a source path and raw output from an earlier compile. -/
def used : Session where
  compiler :=
    { command := ⟨"dxc", "dxc"⟩
      state :=
        { sourcePath := some "a.hlsl"
          messages := [.unstructured "remark"]
          artifacts := ArtifactTable.empty.set .object (.memory [9]) }
      output := [7] }
  world := buffered.world

theorem compile_independent_used :
    let call := Call.compileFile objectWriter "b.hlsl"
    ∃ summary, (used.perform call).1 = .compiled (.ok summary) ∧
      (buffered.perform call).1 = .compiled (.ok summary) ∧
      (used.perform call).2.compiler.SameResults (buffered.perform call).2.compiler := by
  intro call
  have akin : used.Akin buffered := by
    refine ⟨⟨rfl, rfl, rfl, ?_⟩, rfl⟩
    intro kind
    cases kind <;> rfl
  have compiled : ∃ summary, (used.perform call).1 = .compiled (.ok summary) := ⟨_, rfl⟩
  obtain ⟨summary, compiled⟩ := compiled
  obtain ⟨compiled', -, results⟩ := compile_independent akin compiled
  exact ⟨summary, compiled, compiled', results summary rfl⟩

end Session

end ShaderDriver
