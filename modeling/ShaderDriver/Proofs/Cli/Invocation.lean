import ShaderDriver.Cli.Run
import ShaderDriver.Proofs.Cli.Preparation
import ShaderDriver.Proofs.Compiler.Arguments
import ShaderDriver.Proofs.Compiler.Temporaries

namespace ShaderDriver.Cli

/-- An attempt to start a child: what is started in which world, the path of the source, the path that an
artifact for memory is written to on its way, and the temporary files with what becomes of them. -/
structure Attempt where
  invocation : Invocation
  before : World
  source : String
  temporary : ArtifactKind → String
  temporaries : List String
  cleanup : Cleanup

namespace Attempt

/-- The world when the temporary files of the attempt have been dealt with. -/
def cleared (attempt : Attempt) (world : World) : World :=
  Staging.discardAll attempt.cleanup attempt.temporaries world

/-- The attempt is the one that was asked for. The arguments are the configured ones and those behind them on
the command line, the profile, the entry point, an option and a path for each artifact in the order of kinds,
and the source: the file itself, or a copy of it if it goes by another name. -/
structure Assembled (world : World) (config : Config) (options : CompileOptions)
    (sinks : List (ArtifactKind × Sink)) (attempt : Attempt) : Prop where
  merged : Settings.mergeArtifacts config options.artifacts = .ok sinks
  ordered : (sinks.map Prod.fst).Sublist ArtifactKind.all
  program : ∃ executable, Settings.resolveExecutable world config.compiler = .ok executable ∧
    attempt.invocation.program = (Command.ofString executable).program
  arguments : attempt.invocation.arguments = askedArguments config options ++
    sinks.flatMap (fun entry => [entry.1.flag, entry.2.destination (attempt.temporary entry.1)]) ++
    [attempt.source]
  temporary_own (kind other : ArtifactKind) : attempt.temporary kind = attempt.temporary other → kind = other
  temporary_new (kind : ArtifactKind) : (kind, .memory) ∈ sinks →
    ∃ number, world.nextId ≤ number ∧ number < attempt.before.nextId ∧
      attempt.temporary kind = Path.join world.tempDir (Staging.ownName number kind)
  temporaries (path : String) : path ∈ attempt.temporaries ↔
    (∃ kind, (kind, .memory) ∈ sinks ∧ path = attempt.temporary kind) ∨
      options.name.isSome ∧ path = attempt.source
  file : options.name = none →
    attempt.source = options.file ∧ ∃ nextId, attempt.before = { world with nextId }
  copied (name : String) : options.name = some name →
    attempt.source = (Staging.sourcePath world).1 ∧ World.ChangedAt [attempt.source] world attempt.before ∧
      ∃ bytes, world.readBytes options.file = .ok bytes ∧ attempt.before.found attempt.source = some bytes
  cleanup : attempt.cleanup = .keep ↔ options.keepTemps ∨ config.cleanup = .keep

/-- What is made of the answer to an attempt. If there is no child, the compile fails with the reason; if
there is one, its summary lists the arguments and the exit code. Either way the temporary files are dealt
with. -/
structure Answered (attempt : Attempt)
    (answer : Except Refusal (Exit × World) → Except Failure (Job × Summary × ArtifactTable) × World) :
    Prop where
  refused (refusal : Refusal) : ∃ shown, answer (.error refusal) =
    (.error (.compile (.process (.ofRefusal shown refusal))), attempt.cleared attempt.before)
  started (exit : Exit) (after : World) : ∃ job summary table,
    answer (.ok (exit, after)) = (.ok (job, summary, table), attempt.cleared after) ∧
      summary.arguments = attempt.invocation.arguments ∧ summary.exitCode = exit.code

end Attempt

namespace Job

/-- The compile of a job as a call on its compiler. -/
def call (launch : Launcher) (job : Job) : Call :=
  match job.source with
  | .file path => .compileFile launch path
  | .named bytes name => .compileBuffer launch bytes (some name)

theorem perform_call (launch : Launcher) (job : Job) (world : World) :
    Session.perform ⟨job.compiler, world⟩ (job.call launch) =
      (.compiled (job.run launch world).1, ⟨(job.run launch world).2.1, (job.run launch world).2.2⟩) := by
  cases source : job.source with
  | file path => simp only [call, run, source, Session.perform]
  | named bytes name => simp only [call, run, source, Session.perform]

def stagedSource (source : String) (job : Job) : List String :=
  match job.source with
  | .file _ => []
  | .named _ _ => [source]

/-- The name under which messages refer to the source, if it is not that of its file. -/
def shownName (job : Job) : Option String :=
  match job.source with
  | .file _ => none
  | .named _ name => CompilerState.properName (some name)

/-- The attempt of a job whose source is at a path in a world. -/
def attempt (job : Job) (source : String) (world : World) : Attempt where
  invocation := job.compiler.invocation source world
  before := job.compiler.launchWorld world
  source := source
  temporary := Staging.ownPath job.state.artifacts world
  temporaries := (job.compiler.staged world).map Staging.Staged.path ++ job.stagedSource source
  cleanup := job.state.cleanup

/-- What a job makes of the answer to its attempt. -/
def answer (job : Job) (source : String) (world : World) :
    Except Refusal (Exit × World) → Except Failure (Job × Summary × ArtifactTable) × World
  | .error refusal =>
    (.error (.compile (.process (.ofRefusal job.compiler.command.shown refusal))),
      (job.attempt source world).cleared (job.attempt source world).before)
  | .ok (exit, after) =>
    (.ok (job,
        (job.state.record exit.code (job.attempt source world).invocation.arguments
          (String.ofList (Utf8.decodeLossy exit.output)) source job.shownName).1,
        Staging.returned job.state.artifacts world after),
      (job.attempt source world).cleared after)

/-- The source of a job is at a path in a world: where it was, or in a file that was written for it. -/
inductive Placed (job : Job) (world : World) : String → World → Prop
  | file {path} : job.source = .file path → job.Placed world path world
  | copy {bytes name before} : job.source = .named bytes name →
      (Staging.sourcePath world).2.writeFile (Staging.sourcePath world).1 bytes = .ok before →
      job.Placed world (Staging.sourcePath world).1 before

/-- The source of a job is placed, or the job fails without a child. -/
theorem placed_cases (job : Job) (world : World) :
    (∃ bytes name fault, job.source = .named bytes name ∧
      (Staging.sourcePath world).2.writeFile (Staging.sourcePath world).1 bytes = .error fault ∧
      ∀ launch, job.run launch world = (.error (.fileSystem (Staging.sourcePath world).1 fault),
        job.compiler, (Staging.sourcePath world).2)) ∨
    ∃ source before, job.Placed world source before := by
  cases kind : job.source with
  | file path => exact Or.inr ⟨path, world, .file kind⟩
  | named bytes name =>
    cases written : (Staging.sourcePath world).2.writeFile (Staging.sourcePath world).1 bytes with
    | ok before => exact Or.inr ⟨_, before, .copy kind written⟩
    | error fault =>
      refine Or.inl ⟨bytes, name, fault, rfl, written, fun launch => ?_⟩
      simp only [run, kind]
      exact ExternalCompiler.compileBuffer_unstaged launch (some name) written

section Placed

variable {job : Job} {world before : World} {source : String} (placed : job.Placed world source before)

include placed

theorem Placed.starts (launch : Launcher) :
    Session.Starts ⟨job.compiler, world⟩ (job.call launch) launch source before := by
  cases placed with
  | file kind =>
    simp only [call, kind]
    exact .file
  | copy kind written =>
    simp only [call, kind]
    exact .buffer written

theorem Placed.run_world (launch : Launcher) :
    (job.run launch world).2.2 =
      (job.attempt source before).cleared (job.compiler.left launch source before) := by
  have ended := (placed.starts launch).world_eq
  have staged : (job.call launch).stagedSource source = job.stagedSource source := by
    unfold call stagedSource
    cases job.source <;> rfl
  rw [perform_call, Session.temporaries, staged] at ended
  exact ended

/-- A job asks once for a child, and what it comes to is made of the answer. -/
theorem Placed.run_answer (launch : Launcher) :
    let outcome := job.run launch world
    let attempt := job.attempt source before
    ((outcome.1.mapError .compile).map fun summary => (job, summary, outcome.2.1.state.artifacts),
      outcome.2.2) = job.answer source before (launch attempt.invocation attempt.before) := by
  intro outcome attempt
  obtain ⟨answered, compiler⟩ := (placed.starts launch).perform_eq
  have left := placed.run_world launch
  have shown : (job.call launch).sourceName = job.shownName := by
    unfold call shownName
    cases job.source <;> rfl
  rw [perform_call, shown] at answered compiler
  simp only [Answer.compiled.injEq] at answered compiler
  -- The run and the answer now split by one and the same question to the launcher.
  have asked : launch attempt.invocation attempt.before =
      launch (job.compiler.invocation source before) (job.compiler.launchWorld before) := rfl
  rw [asked]
  cases ran : launch (job.compiler.invocation source before) (job.compiler.launchWorld before) with
  | error refusal =>
    rw [ExternalCompiler.run_refused _ ran] at answered compiler
    rw [ExternalCompiler.left, ran] at left
    simp only [outcome, answered, left]
    rfl
  | ok ended =>
    obtain ⟨exit, after⟩ := ended
    rw [ExternalCompiler.run_started _ ran] at answered compiler
    rw [ExternalCompiler.left, ran] at left
    simp only [outcome, answered, compiler, left]
    rfl

end Placed

theorem answered (job : Job) (source : String) (before : World) :
    (job.attempt source before).Answered (job.answer source before) where
  refused _ := ⟨job.compiler.command.shown, rfl⟩
  started _ _ := ⟨job, _, _, rfl, rfl, rfl⟩

end Job

/-- The options and paths of a compile are those of the sinks. -/
theorem requested_routed (artifacts : ArtifactsConfig) (world : World) :
    let table := ArtifactTable.empty.routed artifacts.entries
    Staging.requested table world = artifacts.entries.map fun entry =>
      (entry.1, entry.2.destination (Staging.ownPath table world entry.1)) := by
  intro table
  rw [ArtifactsConfig.entries, List.map_filterMap]
  refine List.filterMap_congr fun kind _ => ?_
  rw [Staging.destination, ArtifactTable.get_routed_entries]
  rcases artifacts.sink kind with _ | _ | path <;> rfl

/-- Placing the source takes at most a name, and writes at most to the path of the source. -/
theorem Job.Placed.supply {job : Job} {world before : World} {source : String}
    (placed : job.Placed world source before) :
    before.tempDir = world.tempDir ∧ world.nextId ≤ before.nextId := by
  cases placed with
  | file => exact ⟨rfl, le_rfl⟩
  | copy _ written =>
    obtain ⟨place, executable, -, -, rfl⟩ := World.writeFile_eq_ok written
    exact ⟨rfl, Nat.le_succ _⟩

section Prepared

variable {world before : World} {config : Config} {options : CompileOptions} {artifacts : ArtifactsConfig}
variable {job : Job} {source : String} (prepared : Prepared world config options artifacts job)

include prepared

theorem Prepared.table : job.compiler.state.artifacts = ArtifactTable.empty.routed artifacts.entries :=
  congrArg CompilerState.artifacts prepared.state

theorem Prepared.arguments (before : World) (source : String) :
    (job.attempt source before).invocation.arguments = askedArguments config options ++
      artifacts.entries.flatMap (fun entry =>
        [entry.1.flag, entry.2.destination ((job.attempt source before).temporary entry.1)]) ++
      [source] := by
  have configured : job.compiler.state.arguments = askedArguments config options :=
    congrArg CompilerState.arguments prepared.state
  have temporary : (job.attempt source before).temporary =
      Staging.ownPath (ArtifactTable.empty.routed artifacts.entries) before :=
    congrArg (Staging.ownPath · before) prepared.table
  have requested : Staging.arguments (job.compiler.launchTable before) =
      Staging.options (Staging.requested (ArtifactTable.empty.routed artifacts.entries) before) := by
    rw [ExternalCompiler.launchTable, prepared.table, Staging.arguments_redirected]
  rw [requested_routed, Staging.options, List.flatMap_map] at requested
  rw [temporary, ← requested, ← configured]
  rfl

theorem Prepared.memory {kind : ArtifactKind} :
    (job.compiler.state.artifacts.get kind).isMemoryRequest ↔ (kind, .memory) ∈ artifacts.entries := by
  rw [prepared.table]
  exact ArtifactTable.isMemoryRequest_routed

theorem Prepared.temporaries (before : World) (source : String) {path : String} :
    path ∈ (job.attempt source before).temporaries ↔
      (∃ kind, (kind, .memory) ∈ artifacts.entries ∧
        path = (job.attempt source before).temporary kind) ∨
        options.name.isSome ∧ path = source := by
  have staged : path ∈ job.stagedSource source ↔ options.name.isSome ∧ path = source := by
    have asked := prepared.source
    unfold Job.stagedSource
    cases kind : job.source with
    | file file =>
      rw [kind] at asked
      cases asked with
      | file unnamed => simp [unnamed]
    | named bytes name =>
      rw [kind] at asked
      cases asked with
      | named called _ => simp [called]
  simp only [Job.attempt, List.mem_append, List.mem_map, staged]
  refine or_congr ⟨?_, ?_⟩ Iff.rfl
  · rintro ⟨one, member, rfl⟩
    obtain ⟨request, path, -⟩ := Staging.mem_kept.1 member
    exact ⟨one.kind, prepared.memory.1 request, path⟩
  · rintro ⟨kind, asked, rfl⟩
    let one : Staging.Staged :=
      ⟨kind, Staging.ownPath job.compiler.state.artifacts before kind,
        job.compiler.state.artifacts.get kind⟩
    exact ⟨one, Staging.mem_kept.2 ⟨prepared.memory.2 asked, rfl, rfl⟩, rfl⟩

variable (placed : job.Placed world source before)

include placed

/-- The source is the file that was named, in the world as it was, or the copy of a file that goes by another
name. -/
theorem Prepared.placed_cases :
    (options.name = none ∧ source = options.file ∧ before = world) ∨
    ∃ name bytes, options.name = some name ∧ world.readBytes options.file = .ok bytes ∧
      source = (Staging.sourcePath world).1 ∧
      (Staging.sourcePath world).2.writeFile source bytes = .ok before := by
  have asked := prepared.source
  cases placed with
  | file kind =>
    rw [kind] at asked
    cases asked with
    | file unnamed => exact Or.inl ⟨unnamed, rfl, rfl⟩
  | copy kind written =>
    rw [kind] at asked
    cases asked with
    | named called read => exact Or.inr ⟨_, _, called, read, rfl, written⟩

theorem Prepared.copied {name : String} (called : options.name = some name) :
    source = (Staging.sourcePath world).1 ∧
      World.ChangedAt [source] world (job.attempt source before).before ∧
      ∃ bytes, world.readBytes options.file = .ok bytes ∧
        (job.attempt source before).before.found source = some bytes := by
  rcases prepared.placed_cases placed with ⟨unnamed, -, -⟩ | ⟨_, bytes, -, read, path, written⟩
  · cases unnamed.symm.trans called
  · have first := World.changedAt_freshId [source] world (world.nextId + 1)
    have last := World.changedAt_freshId [] before (job.compiler.launchWorld before).nextId
    refine ⟨path, ?_, bytes, read, ?_⟩
    · exact (first.trans (World.changedAt_writeFile written)).trans (last.mono (List.nil_subset _))
    · exact (last.found nofun).trans (World.found_writeFile_self written)

theorem Prepared.assembled :
    (job.attempt source before).Assembled world config options artifacts.entries where
  merged := prepared.merged
  ordered := artifacts.kinds_entries
  program := ⟨job.executable, prepared.executable, rfl⟩
  arguments := prepared.arguments before source
  temporary_own _ _ same := Staging.ownPath_own same
  temporary_new := by
    intro kind asked
    obtain ⟨tempDir, nextId⟩ := placed.supply
    obtain ⟨number, lower, upper, path⟩ := Staging.ownPath_fresh (prepared.memory.2 asked)
    rw [tempDir] at path
    exact ⟨number, nextId.trans lower, upper, path⟩
  temporaries _ := prepared.temporaries before source
  file := by
    intro unnamed
    rcases prepared.placed_cases placed with ⟨-, path, rfl⟩ | ⟨_, _, called, -, -, -⟩
    · exact ⟨path, _, rfl⟩
    · cases unnamed.symm.trans called
  copied name called := prepared.copied placed called
  cleanup := by
    have same : (job.attempt source before).cleanup = askedCleanup config options :=
      congrArg CompilerState.cleanup prepared.state
    rw [same]
    exact askedCleanup_eq_keep

end Prepared

/-- The copy of a source that goes by another name cannot be written. -/
inductive Uncopied (world : World) (options : CompileOptions) : Failure → Prop
  | intro {name bytes fault} : options.name = some name → world.readBytes options.file = .ok bytes →
      (Staging.sourcePath world).2.writeFile (Staging.sourcePath world).1 bytes = .error fault →
      Uncopied world options (.compile (.fileSystem (Staging.sourcePath world).1 fault))

/-- A compile that is prepared either has its source placed, and is then what its job makes of the answer to
its attempt, or it fails without a child. -/
theorem compileConfigured_cases {world : World} {config : Config} {options : CompileOptions}
    {artifacts : ArtifactsConfig} {job : Job} (known : Job.prepare world config options = .ok job)
    (prepared : Prepared world config options artifacts job) :
    (∃ failure, Uncopied world options failure ∧
      ∀ launch, compileConfigured launch config options world =
        (.error failure, (Staging.sourcePath world).2)) ∨
    ∃ source before, job.Placed world source before ∧
      ∀ launch, compileConfigured launch config options world =
        job.answer source before
          (launch (job.attempt source before).invocation (job.attempt source before).before) := by
  rcases job.placed_cases world with
    ⟨bytes, name, fault, kind, refused, failed⟩ | ⟨source, before, placed⟩
  · refine Or.inl ⟨.compile (.fileSystem (Staging.sourcePath world).1 fault), ?_, fun launch => ?_⟩
    · have asked := prepared.source
      rw [kind] at asked
      cases asked with
      | named called read => exact .intro called read refused
    · simp only [compileConfigured, known, failed]
      rfl
  · refine Or.inr ⟨source, before, placed, fun launch => ?_⟩
    simp only [compileConfigured, known]
    exact placed.run_answer launch

end ShaderDriver.Cli
