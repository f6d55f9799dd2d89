import ShaderDriver.Proofs.Compiler.Interfaces
import ShaderDriver.Proofs.Compiler.Session
import ShaderDriver.Proofs.Text.Utf8

namespace ShaderDriver.AbstractCompiler

variable (compiler : AbstractCompiler)

/-- No file of a compile gets in the way of another, temporary files are new, and all that is produced can
be written. -/
structure Ready (source : Bytes) (table : ArtifactTable) (world : World) : Prop where
  sinks_apart : ArtifactKind.Apart world table.sinkPath
  temporaries_apart : ∀ kind other path, table.sinkPath kind = some path →
    (table.get other).isMemoryRequest → world.Distinct path (Staging.ownPath table world other)
  temporaries_new : ∀ kind, (table.get kind).isMemoryRequest →
    world.found (Staging.ownPath table world kind) = none
  writable : ∀ write ∈ ArtifactKind.writes (compiler.output source) (Staging.requested table world),
    world.Writable write.1

instance (source : Bytes) (table : ArtifactTable) (world : World) :
    Decidable (compiler.Ready source table world) :=
  decidable_of_iff (ArtifactKind.Apart world table.sinkPath ∧
      (∀ kind ∈ ArtifactKind.all, ∀ other ∈ ArtifactKind.all, ∀ path ∈ table.sinkPath kind,
        (table.get other).isMemoryRequest → world.Distinct path (Staging.ownPath table world other)) ∧
      (∀ kind ∈ ArtifactKind.all, (table.get kind).isMemoryRequest →
        world.found (Staging.ownPath table world kind) = none) ∧
      ∀ write ∈ ArtifactKind.writes (compiler.output source) (Staging.requested table world),
        world.Writable write.1)
    ⟨fun ⟨sinks, temporaries, new, writable⟩ =>
        ⟨sinks, fun kind other path sink request =>
            temporaries kind kind.mem_all other other.mem_all path sink request,
          fun kind request => new kind kind.mem_all request, writable⟩,
      fun ready =>
        ⟨ready.sinks_apart, fun kind _ other _ path sink request =>
            ready.temporaries_apart kind other path sink request,
          fun kind _ request => ready.temporaries_new kind request, ready.writable⟩⟩

/-- What a compile of a source under a name has to come to. -/
structure Compiled (source : Bytes) (name : String) (table : ArtifactTable) (before : World)
    (summary : Summary) (state : CompilerState) (after : World) : Prop where
  exitCode_eq : summary.exitCode = some (compiler.status source)
  messages_eq : summary.messages = Diagnostic.parse (compiler.text source name)
  recorded_eq : state.messages = summary.messages
  artifacts_eq : state.artifacts = table.filled (compiler.output source) ArtifactKind.all
  sinks_eq : ∀ kind path, table.sinkPath kind = some path →
    after.found path = (compiler.output source kind).or (before.found path)

/-- Both compiles come to what the compiler gives, and so to the same. -/
inductive Agree {τ : Type} (source : Bytes) (name : String) (table : ArtifactTable) (before : World) :
    ExternalCompiler.Outcome → LibraryCompiler.Outcome τ → Prop
  | compiled {summary summary' external library after after'} :
      compiler.Compiled source name table before summary external.state after →
      external.state.artifacts = library.state.artifacts →
      external.state.messages = library.state.messages →
      summary.messages = summary'.messages →
      summary.exitCode = summary'.exitCode →
      summary.errorCount = summary'.errorCount →
      summary.warningCount = summary'.warningCount →
      (∀ kind path, table.get kind = .file path → after.found path = after'.found path) →
      Agree source name table before (.ok summary, external, after) (.ok summary', library, after')

variable {compiler}

theorem Compiled.agree {τ : Type} {source : Bytes} {name : String} {table : ArtifactTable}
    {before after after' : World} {summary summary' : Summary} {external : ExternalCompiler}
    {library : LibraryCompiler τ}
    (child : compiler.Compiled source name table before summary external.state after)
    (called : compiler.Compiled source name table before summary' library.state after') :
    compiler.Agree source name table before (.ok summary, external, after) (.ok summary', library, after') := by
  have messages : summary.messages = summary'.messages := child.messages_eq.trans called.messages_eq.symm
  refine .compiled child (child.artifacts_eq.trans called.artifacts_eq.symm)
    (child.recorded_eq.trans (messages.trans called.recorded_eq.symm)) messages
    (child.exitCode_eq.trans called.exitCode_eq.symm) ?_ ?_ ?_
  · rw [Summary.errorCount, messages, Summary.errorCount]
  · rw [Summary.warningCount, messages, Summary.warningCount]
  · intro kind path bound
    have sink := ArtifactTable.sinkPath_eq_some.2 bound
    rw [child.sinks_eq kind path sink, called.sinks_eq kind path sink]

/-- Only what is read at the files asked for counts. -/
theorem Compiled.seen {source : Bytes} {name : String} {table : ArtifactTable}
    {before before' after after' : World} {summary : Summary} {state : CompilerState}
    (compiled : compiler.Compiled source name table before summary state after)
    (earlier : ∀ kind path, table.sinkPath kind = some path → before'.found path = before.found path)
    (later : ∀ kind path, table.sinkPath kind = some path → after'.found path = after.found path) :
    compiler.Compiled source name table before' summary state after' where
  exitCode_eq := compiled.exitCode_eq
  messages_eq := compiled.messages_eq
  recorded_eq := compiled.recorded_eq
  artifacts_eq := compiled.artifacts_eq
  sinks_eq kind path sink := by
    rw [later kind path sink, earlier kind path sink]
    exact compiled.sinks_eq kind path sink

/-- All that a child is asked for goes to different places. -/
theorem Ready.apart {source : Bytes} {table : ArtifactTable} {world : World}
    (ready : compiler.Ready source table world) :
    ArtifactKind.Apart world (Staging.destination table world) := by
  intro kind other path path' different goes goes'
  rcases Staging.destination_eq_some.1 goes with sink | ⟨request, rfl⟩
  · rcases Staging.destination_eq_some.1 goes' with sink' | ⟨request', rfl⟩
    · exact ready.sinks_apart kind other path path' different sink sink'
    · exact ready.temporaries_apart kind other path sink request'
  · rcases Staging.destination_eq_some.1 goes' with sink' | ⟨_, rfl⟩
    · exact (ready.temporaries_apart other kind path' sink' request).symm
    · exact Staging.ownPath_apart different world

/-- The invocation of a compile asks for every artifact at its destination. -/
theorem invocation_eq (external : ExternalCompiler) (path : String) (world : World) :
    external.invocation path world =
      ⟨external.command.program, external.state.arguments ++
        tokens (Staging.requested external.state.artifacts world) ++ [path]⟩ := by
  rw [ExternalCompiler.invocation, ExternalCompiler.launchTable, Staging.arguments_redirected,
    options_eq_tokens]

/-- A compile with a child that works as the compiler comes to what the compiler gives. -/
theorem child_compiled {launch : Launcher} {external : ExternalCompiler} {source : Bytes} {path : String}
    {world : World} (name : Option String) {shown : String}
    (drives : compiler.DrivesChild external.state.arguments launch)
    (there : world.found path = some source)
    (said : name.elim (compiler.text source path)
      (CompilerState.substituteName (compiler.text source path) path) = compiler.text source shown)
    (ready : compiler.Ready source external.state.artifacts world) :
    ∃ summary after last, ExternalCompiler.run launch path name external world = (.ok summary, after, last) ∧
      compiler.Compiled source shown external.state.artifacts world summary after.state last ∧
      World.SamePlaces world last := by
  obtain ⟨order, after, permuted, written, started⟩ :=
    drives external.command.program (Staging.requested external.state.artifacts world) path source
      (external.launchWorld world) there ready.writable
  rw [← invocation_eq] at started
  have ran := ExternalCompiler.run_started name started
  have moved := World.samePlaces_writeAll written
  have places : World.SamePlaces world after := moved
  have found {kind : ArtifactKind} {file : String}
      (goes : Staging.destination external.state.artifacts world kind = some file) :
      after.found file = (compiler.output source kind).or (world.found file) :=
    ArtifactKind.found_written permuted written ready.apart goes
  refine ⟨_, _, _, ran, ⟨rfl, ?_, rfl, ?_, ?_⟩, ?_⟩
  · simp only [CompilerState.record, Utf8.decodeLossy_encode, String.ofList_toList]
    rw [← said]
    cases name <;> rfl
  · ext kind
    simp only [Staging.returned, ArtifactTable.filled, kind.mem_all, true_and]
    split
    · rename_i request
      -- Nothing was at the temporary file, so what is read back is what the child wrote.
      rw [found (Staging.destination_of_request request), ready.temporaries_new kind request, Option.or_none]
    · rfl
  · intro kind file sink
    rw [Staging.found_reconcile, found (Staging.destination_eq_some.2 (Or.inl sink))]
    intro one member
    obtain ⟨request, path, _⟩ := Staging.mem_kept.1 member
    rw [path]
    exact (ready.temporaries_apart kind one.kind file sink request).symm.transfer places
  · exact places.trans (Staging.samePlaces_reconcile _ _ _ _)

/-- A compile with a library that works as the compiler comes to what the compiler gives. -/
theorem library_compiled {τ : Type} {library : LibraryCompiler τ} {source : Bytes} {world : World}
    (name : String) (drives : compiler.DrivesLibrary library.state.arguments library.library)
    (apart : ArtifactKind.Apart world library.state.artifacts.sinkPath)
    (writable : ∀ write ∈ ArtifactKind.writes (compiler.output source)
      (ArtifactKind.listing ArtifactKind.all library.state.artifacts.sinkPath), world.Writable write.1) :
    ∃ summary after last, LibraryCompiler.run source name library world = (.ok summary, after, last) ∧
      compiler.Compiled source name library.state.artifacts world summary after.state last := by
  obtain ⟨handler, included⟩ := drives.includes library.includeDirs
  obtain ⟨result, core, compiled, status, errors, outputs⟩ :=
    drives.compile source name handler world library.core
  have artifact : result.artifact = compiler.output source := by
    funext kind
    rw [← outputs kind, published_eq, LibraryResult.artifact]
  obtain ⟨after, written⟩ := World.writeAll_of_writable writable
  rw [← artifact] at written
  refine ⟨_, _, _, LibraryCompiler.run_finished included compiled, ⟨?_, ?_, rfl, ?_, ?_⟩⟩
  · exact congrArg some status
  · simp only [CompilerState.record, errors]
  · simp only [LibraryCompiler.deliverAll_eq, artifact]
  · intro kind path sink
    simp only [LibraryCompiler.deliverAll_eq, World.attemptAll_of_writeAll written]
    have found := ArtifactKind.found_written (List.Perm.refl _) written apart sink
    rwa [artifact] at found

theorem Ready.sinks_writable {source : Bytes} {table : ArtifactTable} {world : World}
    (ready : compiler.Ready source table world) :
    ∀ write ∈ ArtifactKind.writes (compiler.output source)
      (ArtifactKind.listing ArtifactKind.all table.sinkPath), world.Writable write.1 := by
  intro write member
  obtain ⟨kind, sink, produced⟩ := ArtifactKind.mem_writes.1 member
  exact ready.writable write
    (ArtifactKind.mem_writes.2 ⟨kind, Staging.destination_eq_some.2 (Or.inl sink), produced⟩)

/-- A child and a library that work as one compiler give the same artifacts, messages, exit code and
counts, and leave the same in every file that was asked for: for a file, and for a buffer under a name if
the compiler says of the name what it says of the file that the buffer is staged in. -/
theorem interfaces_agree {τ : Type} {launch : Launcher} (external : ExternalCompiler)
    (library : LibraryCompiler τ) (child : compiler.DrivesChild external.state.arguments launch)
    (called : compiler.DrivesLibrary library.state.arguments library.library)
    (table : library.state.artifacts = external.state.artifacts) (world : World) :
    (∀ path source, world.found path = some source →
      compiler.Ready source external.state.artifacts world →
      compiler.Agree source path external.state.artifacts world
        (external.compileFile launch path world) (library.compileFile path world)) ∧
    ∀ source name staged, name ≠ "" →
      (Staging.sourcePath world).2.writeFile (Staging.sourcePath world).1 source = .ok staged →
      CompilerState.substituteName (compiler.text source (Staging.sourcePath world).1)
        (Staging.sourcePath world).1 name = compiler.text source name →
      (∀ kind path, external.state.artifacts.get kind = .file path →
        staged.Distinct (Staging.sourcePath world).1 path) →
      compiler.Ready source external.state.artifacts staged →
      compiler.Agree source name external.state.artifacts world
        (external.compileBuffer launch source (some name) world)
        (library.compileBuffer source (some name) world) := by
  constructor
  · intro path source there ready
    obtain ⟨summary, after, last, ran, compiled, _⟩ := child_compiled none child there rfl ready
    obtain ⟨summary', after', last', ran', compiled'⟩ := library_compiled path called
      (table ▸ ready.sinks_apart) (table ▸ ready.sinks_writable)
    rw [ExternalCompiler.compileFile, ran, LibraryCompiler.compileFile, called.load world path source there]
    simp only [ran']
    exact compiled.agree (table ▸ compiled')
  · intro source name staged named written said apart ready
    have places := World.samePlaces_writeFile written
    obtain ⟨summary, after, last, ran, compiled, moved⟩ :=
      child_compiled (some name) child (World.found_writeFile_self written) said ready
    -- The library reads the buffer as it is, in the world without the staged file.
    have sinks_apart : ArtifactKind.Apart world external.state.artifacts.sinkPath :=
      fun kind other path path' different sink sink' =>
        (ready.sinks_apart kind other path path' different sink sink').transfer places.symm
    have sinks_writable : ∀ write ∈ ArtifactKind.writes (compiler.output source)
        (ArtifactKind.listing ArtifactKind.all external.state.artifacts.sinkPath),
        world.Writable write.1 :=
      fun write member => (World.writable_writeFile written).1 (ready.sinks_writable write member)
    obtain ⟨summary', after', last', ran', compiled'⟩ :=
      library_compiled name called (table ▸ sinks_apart) (table ▸ sinks_writable)
    have proper : CompilerState.properName (some name) = some name := by
      simp [CompilerState.properName, named]
    rw [ExternalCompiler.compileBuffer_staged launch (some name) written, LibraryCompiler.compileBuffer]
    simp only [proper, ran, ran']
    have away (kind : ArtifactKind) (path : String)
        (sink : external.state.artifacts.sinkPath kind = some path) :
        staged.Distinct (Staging.sourcePath world).1 path :=
      apart kind path (ArtifactTable.sinkPath_eq_some.1 sink)
    refine Compiled.agree (compiled.seen ?_ ?_) (table ▸ compiled')
    · intro kind path sink
      exact (World.found_writeFile written ((away kind path sink).transfer places.symm)).symm
    · intro kind path sink
      exact Staging.found_discard ((away kind path sink).transfer moved)

/-- A compiler that finds an error in every source, and has an object and a hash of it all the same. -/
def complaining : AbstractCompiler where
  status _ := 1
  output source
    | .object => some source
    | .hash => some [104]
    | _ => none
  text _ name := name ++ ":3:5: error: undeclared identifier\n"

/-- Objects go to a file, and a hash from an earlier compile is held. -/
def objectAndHash : ArtifactTable := (ArtifactTable.empty.toFile .object "lit.o").set .hash (.memory [9])

def workplace : World where
  tree := ⟨[(["tmp"], .directory), (["lit.hlsl"], .file [1, 2] false)]⟩

/-- The workplace with the source staged. -/
def stagedWorkplace : World :=
  { workplace with
    tree := workplace.tree.insert ["tmp", "shader-00000000000000000000000000000000.hlsl"]
      (.file [1, 2] false)
    nextId := 1 }

theorem workplace_staged :
    (Staging.sourcePath workplace).2.writeFile (Staging.sourcePath workplace).1 [1, 2] =
      .ok stagedWorkplace := by
  with_unfolding_all rfl

theorem interfaces_agree_complaining :
    let state : CompilerState := { arguments := ["-Zi"], artifacts := objectAndHash }
    let launch := complaining.child ["-Zi"]
    let external : ExternalCompiler := { command := ⟨"dxc", "dxc"⟩, state }
    let library : LibraryCompiler Unit := { library := complaining.library, core := (), state }
    let path := (Staging.sourcePath workplace).1
    (complaining.DrivesChild external.state.arguments launch ∧
      complaining.DrivesLibrary library.state.arguments library.library) ∧
    (workplace.found "lit.hlsl" = some [1, 2] ∧ complaining.Ready [1, 2] objectAndHash workplace ∧
      complaining.Agree [1, 2] "lit.hlsl" objectAndHash workplace
        (external.compileFile launch "lit.hlsl" workplace) (library.compileFile "lit.hlsl" workplace)) ∧
    (Staging.sourcePath workplace).2.writeFile path [1, 2] = .ok stagedWorkplace ∧
      CompilerState.substituteName (complaining.text [1, 2] path) path "lit" =
        complaining.text [1, 2] "lit" ∧
      (∀ kind file, objectAndHash.get kind = .file file → stagedWorkplace.Distinct path file) ∧
      complaining.Ready [1, 2] objectAndHash stagedWorkplace ∧
      complaining.Agree [1, 2] "lit" objectAndHash workplace
        (external.compileBuffer launch [1, 2] (some "lit") workplace)
        (library.compileBuffer [1, 2] (some "lit") workplace) := by
  intro state launch external library path
  have child := complaining.child_drives ["-Zi"]
  have called := complaining.library_drives ["-Zi"]
  have agree := interfaces_agree external library child called rfl workplace
  have there : workplace.found "lit.hlsl" = some [1, 2] := by decide +kernel
  have ready : complaining.Ready [1, 2] objectAndHash workplace := by decide +kernel
  have said : CompilerState.substituteName (complaining.text [1, 2] path) path "lit" =
      complaining.text [1, 2] "lit" := by decide +kernel
  have apart : ∀ kind file, objectAndHash.get kind = .file file →
      stagedWorkplace.Distinct path file := by
    intro kind file bound
    have object : file = "lit.o" := by
      cases kind <;> cases bound
      rfl
    rw [object]
    decide +kernel
  have staged : complaining.Ready [1, 2] objectAndHash stagedWorkplace := by decide +kernel
  exact ⟨⟨child, called⟩, ⟨there, ready, agree.1 "lit.hlsl" [1, 2] there ready⟩,
    workplace_staged, said, apart, staged,
    agree.2 [1, 2] "lit" stagedWorkplace (by decide) workplace_staged said apart staged⟩

end ShaderDriver.AbstractCompiler
