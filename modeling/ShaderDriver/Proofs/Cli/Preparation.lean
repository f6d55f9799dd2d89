import ShaderDriver.Cli.Job
import ShaderDriver.Proofs.Cli.Merging

namespace ShaderDriver

namespace Sink

/-- The binding that asks for a sink. -/
def binding : Sink → Binding
  | memory => .pending
  | file path => .file path

/-- The path that an artifact is written to on its way to a sink. -/
def destination (temporary : String) : Sink → String
  | memory => temporary
  | file path => path

end Sink

namespace ArtifactTable

/-- The table in which sinks are asked for, one after the other. -/
def routed (table : ArtifactTable) (sinks : List (ArtifactKind × Sink)) : ArtifactTable :=
  sinks.foldl (fun table entry => table.route entry.1 entry.2) table

theorem get_route (table : ArtifactTable) (kind other : ArtifactKind) (sink : Sink) :
    (table.route kind sink).get other = if other = kind then sink.binding else table.get other := by
  cases sink <;> rfl

theorem get_routed (table : ArtifactTable) (asked : ArtifactKind → Option Sink)
    (kinds : List ArtifactKind) (kind : ArtifactKind) :
    (table.routed (kinds.filterMap fun kind => (asked kind).map fun sink => (kind, sink))).get kind =
      if kind ∈ kinds then (asked kind).elim (table.get kind) Sink.binding else table.get kind := by
  induction kinds generalizing table with
  | nil => rfl
  | cons first kinds ih =>
    cases wanted : asked first with
    | none =>
      rw [List.filterMap_cons_none (by rw [wanted]; rfl), ih]
      by_cases same : kind = first
      · simp [same, wanted]
      · simp [same]
    | some sink =>
      rw [List.filterMap_cons_some (by rw [wanted]; rfl), routed, List.foldl_cons, ← routed, ih, get_route]
      by_cases same : kind = first
      · simp [same, wanted]
      · simp [same]

variable {artifacts : ArtifactsConfig} {kind : ArtifactKind}

theorem get_routed_entries (artifacts : ArtifactsConfig) (kind : ArtifactKind) :
    (empty.routed artifacts.entries).get kind = (artifacts.sink kind).elim .empty Sink.binding := by
  rw [ArtifactsConfig.entries, get_routed, if_pos kind.mem_all]
  rfl

theorem isMemoryRequest_routed :
    ((empty.routed artifacts.entries).get kind).isMemoryRequest ↔ (kind, .memory) ∈ artifacts.entries := by
  rw [get_routed_entries, ArtifactsConfig.mem_entries]
  rcases artifacts.sink kind with _ | _ | path <;> simp [Sink.binding, Binding.isMemoryRequest]

end ArtifactTable

namespace Cli

/-- What stands against a compile before anything runs. -/
inductive Hindrance (world : World) (config : Config) (options : CompileOptions) : Failure → Prop
  | backend : config.compiler.backend = .library → Hindrance world config options .libraryBackend
  | executable {e} : Settings.resolveExecutable world config.compiler = .error e →
      Hindrance world config options (.toolchain e)
  | profile {text reason} : options.profile = some text → Settings.parseProfile text = .error reason →
      Hindrance world config options (.settings reason)
  | artifact {spec reason} : spec ∈ options.artifacts → Settings.parseArtifact spec = .error reason →
      Hindrance world config options (.settings reason)
  | source {name fault} : options.name = some name → world.readBytes options.file = .error fault →
      Hindrance world config options (.unreadableSource options.file fault)

/-- The profile asked for: that of the command line, if it gives one, else the configured one. -/
def askedProfile (config : Config) (options : CompileOptions) : Option Profile :=
  options.profile.elim config.shader.profile Profile.read?

def askedEntry (config : Config) (options : CompileOptions) : Option String :=
  options.entry.or config.shader.entry

/-- The arguments asked for, without those of a single compile. -/
def askedArguments (config : Config) (options : CompileOptions) : List String :=
  config.shader.args ++ options.extra ++
    (askedProfile config options).elim [] (fun profile => ["-T", profile.display]) ++
    (askedEntry config options).elim [] (fun entry => ["-E", entry])

def askedCleanup (config : Config) (options : CompileOptions) : Cleanup :=
  if options.keepTemps then .keep else config.cleanup

theorem askedCleanup_eq_keep {config : Config} {options : CompileOptions} :
    askedCleanup config options = .keep ↔ options.keepTemps ∨ config.cleanup = .keep := by
  unfold askedCleanup
  cases options.keepTemps <;> simp

/-- The source asked for: a file where it is, or its bytes if it goes by another name. -/
inductive AskedSource (world : World) (options : CompileOptions) : Source → Prop
  | file : options.name = none → AskedSource world options (.file options.file)
  | named {name bytes} : options.name = some name → world.readBytes options.file = .ok bytes →
      AskedSource world options (.named bytes name)

/-- A compile that nothing stands against, configured with all that was asked for. -/
structure Prepared (world : World) (config : Config) (options : CompileOptions)
    (artifacts : ArtifactsConfig) (job : Job) : Prop where
  unhindered : ∀ failure, ¬ Hindrance world config options failure
  merged : Settings.mergeArtifacts config options.artifacts = .ok artifacts.entries
  executable : Settings.resolveExecutable world config.compiler = .ok job.executable
  state : job.state =
    { arguments := askedArguments config options
      profile := askedProfile config options
      entry := askedEntry config options
      artifacts := ArtifactTable.empty.routed artifacts.entries
      cleanup := askedCleanup config options }
  source : AskedSource world options job.source

namespace Job

theorem foldl_route (sinks : List (ArtifactKind × Sink)) (state : CompilerState) :
    sinks.foldl (fun state (kind, sink) => state.route kind sink) state =
      { state with artifacts := state.artifacts.routed sinks } := by
  induction sinks generalizing state with
  | nil => rfl
  | cons entry sinks ih =>
    rw [List.foldl_cons, ih]
    rfl

theorem profileOf_cases (world : World) (config : Config) (options : CompileOptions) :
    (∃ failure, profileOf config options = .error failure ∧ Hindrance world config options failure) ∨
    profileOf config options = .ok (askedProfile config options) ∧
      ∀ text, options.profile = some text → ∃ profile, Settings.parseProfile text = .ok profile := by
  unfold profileOf askedProfile
  cases given : options.profile with
  | none => exact Or.inr ⟨rfl, nofun⟩
  | some text =>
    rw [Option.elim_some]
    cases read : Profile.read? text with
    | none =>
      have refused : Settings.parseProfile text = .error (Profile.unsupportedText text) := by
        rw [Settings.parseProfile, read]
      exact Or.inl ⟨_, by simp only [refused]; rfl, .profile given refused⟩
    | some profile =>
      have parsed : Settings.parseProfile text = .ok profile := by rw [Settings.parseProfile, read]
      refine Or.inr ⟨by simp only [parsed]; rfl, ?_⟩
      rintro other same
      cases same
      exact ⟨profile, parsed⟩

theorem sourceOf_cases (world : World) (config : Config) (options : CompileOptions) :
    (∃ failure, sourceOf world options = .error failure ∧ Hindrance world config options failure) ∨
    ∃ source, sourceOf world options = .ok source ∧ AskedSource world options source := by
  unfold sourceOf
  cases called : options.name with
  | none => exact Or.inr ⟨_, rfl, .file called⟩
  | some name =>
    cases read : world.readBytes options.file with
    | error fault => exact Or.inl ⟨_, rfl, .source called read⟩
    | ok bytes => exact Or.inr ⟨_, rfl, .named called read⟩

theorem stateOf_eq (config : Config) (options : CompileOptions) (sinks : List (ArtifactKind × Sink)) :
    stateOf config options (askedProfile config options) sinks =
      { arguments := askedArguments config options
        profile := askedProfile config options
        entry := askedEntry config options
        artifacts := ArtifactTable.empty.routed sinks
        cleanup := askedCleanup config options } := by
  unfold stateOf askedArguments
  rw [foldl_route, ← askedEntry, ← askedCleanup]
  rcases askedProfile config options with _ | profile <;>
    rcases askedEntry config options with _ | entry <;>
    simp [CompilerState.addArguments, CompilerState.setProfile, CompilerState.setEntry,
      CompilerState.setCleanup]

/-- A compile is prepared as it was asked for, or it fails with something that stands against it. -/
theorem prepare_cases (world : World) (config : Config) (options : CompileOptions) :
    (∃ failure, prepare world config options = .error failure ∧ Hindrance world config options failure) ∨
    ∃ artifacts job, prepare world config options = .ok job ∧
      Prepared world config options artifacts job := by
  unfold prepare
  by_cases backend : config.compiler.backend = .library
  · exact Or.inl ⟨.libraryBackend, by rw [if_pos backend]; rfl, .backend backend⟩
  rw [if_neg backend]
  cases resolved : Settings.resolveExecutable world config.compiler with
  | error e => exact Or.inl ⟨.toolchain e, rfl, .executable resolved⟩
  | ok executable =>
    rcases profileOf_cases world config options with ⟨failure, refused, hindrance⟩ | ⟨known, parsed⟩
    · exact Or.inl ⟨failure, by rw [refused]; rfl, hindrance⟩
    rcases Settings.mergeArtifacts_cases config options.artifacts with
      ⟨artifacts, merged, all, -⟩ | ⟨reason, unmerged, before, spec, after, whole, -, refused⟩
    rotate_left
    · have member : spec ∈ options.artifacts := by simp [whole]
      exact Or.inl ⟨.settings reason, by rw [known, unmerged]; rfl, .artifact member refused.parse⟩
    rcases sourceOf_cases world config options with
      ⟨failure, refused, hindrance⟩ | ⟨source, found, asked⟩
    · exact Or.inl ⟨failure, by rw [known, merged, refused]; rfl, hindrance⟩
    refine Or.inr ⟨artifacts, ⟨executable, stateOf config options (askedProfile config options)
      artifacts.entries, source⟩, by rw [known, merged, found]; rfl, ?_⟩
    refine ⟨?_, merged, resolved, stateOf_eq config options artifacts.entries, asked⟩
    -- Each hindrance is the failure of a check that has passed.
    rintro failure hindrance
    cases hindrance with
    | backend library => exact backend library
    | executable failed =>
      rw [resolved] at failed
      cases failed
    | profile given refused =>
      obtain ⟨profile, parsed⟩ := parsed _ given
      rw [parsed] at refused
      cases refused
    | artifact member refused =>
      obtain ⟨kind, sink, asks⟩ := all _ member
      rw [asks.parse] at refused
      cases refused
    | source called unread =>
      cases asked with
      | file unnamed =>
        rw [called] at unnamed
        cases unnamed
      | named _ read =>
        rw [read] at unread
        cases unread

end Job

end Cli

end ShaderDriver
