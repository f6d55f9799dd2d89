import ShaderDriver.Proofs.Cli.Invocation
import ShaderDriver.Proofs.Config.Resolution

namespace ShaderDriver

namespace Path

/-- A path that is seen from a directory stands at the end. -/
theorem join_eq_append (base path : String) : ∃ front, join base path = front ++ path := by
  unfold join
  split
  · exact ⟨"", String.empty_append.symm⟩
  · split
    · exact ⟨base, rfl⟩
    · exact ⟨base ++ "/", rfl⟩

theorem join_nonempty {path : String} (nonempty : path ≠ "") (base : String) : join base path ≠ "" := by
  obtain ⟨front, whole⟩ := join_eq_append base path
  rw [whole]
  exact fun empty => nonempty (String.append_eq_empty_iff.1 empty).2

end Path

theorem Profile.display_nonempty (profile : Profile) : profile.display ≠ "" := by
  change profile.stage.name ++ "_6_" ++ toString profile.minor ≠ ""
  simp

theorem ArtifactKind.flag_nonempty (kind : ArtifactKind) : kind.flag ≠ "" := by cases kind <;> decide

theorem Staging.sourcePath_nonempty (world : World) : (sourcePath world).1 ≠ "" := by
  refine Path.join_nonempty ?_ world.tempDir
  change "shader-" ++ World.idDigits world.nextId ++ ".hlsl" ≠ ""
  simp

namespace Config

theorem resolvePath_nonempty {path : String} (nonempty : path ≠ "") (base : String) :
    resolvePath base path ≠ "" := by
  unfold resolvePath
  split
  · exact nonempty
  · exact Path.join_nonempty nonempty base

/-- Resolving the paths of a configuration leaves it usable. -/
theorem Usable.resolvePaths {config : Config} (usable : config.Usable) (base : String) :
    (config.resolvePaths base).Usable where
  compiler := usable.compiler.imp (congrArg (Option.map (resolvePath base)))
    (congrArg (Option.map (resolvePath base)))
  entry := usable.entry
  args := usable.args
  artifacts kind := by
    rw [sink_resolvePaths]
    intro empty
    obtain ⟨sink, configured, resolved⟩ := Option.map_eq_some_iff.1 empty
    cases sink with
    | memory => cases resolved
    | file path =>
      have nonempty : path ≠ "" := fun none => usable.artifacts kind (none ▸ configured)
      exact resolvePath_nonempty nonempty base (Sink.file.inj resolved)

theorem usable_of_parse {content origin : String} {config : Config}
    (parsed : parse content origin = .ok config) : config.Usable := by
  unfold parse at parsed
  split at parsed
  · cases parsed
  · split at parsed
    · cases parsed
    · next decoded _ =>
      cases checked : decoded.validate with
      | error reason =>
        rw [checked] at parsed
        cases parsed
      | ok =>
        rw [checked] at parsed
        cases parsed
        exact validate_eq_ok_iff.1 checked

theorem usable_of_loadFile {world : World} {path : String} {config : Config}
    (loaded : loadFile world path = .ok config) : config.Usable := by
  unfold loadFile at loaded
  split at loaded
  · cases loaded
  · split at loaded
    · cases loaded
    · next parsed _ =>
      cases loaded
      exact usable_of_parse parsed
    · next parsed _ =>
      cases loaded
      exact (usable_of_parse parsed).resolvePaths _

/-- A configuration that was read from a directory, a file or a text, wherever these are. -/
inductive Loaded (config : Config) : Prop
  | directory {world : World} {directory : String} : load world directory = .ok config → Loaded config
  | file {world : World} {path : String} : loadFile world path = .ok config → Loaded config
  | text {content : String} : ofString content = .ok config → Loaded config

theorem Loaded.usable {config : Config} (loaded : config.Loaded) : config.Usable := by
  cases loaded with
  | directory read => exact usable_of_loadFile read
  | file read => exact usable_of_loadFile read
  | text read => exact usable_of_parse read

end Config

theorem Settings.Asks.nonempty {spec : String} {kind : ArtifactKind} {sink : Sink} (asks : Asks spec kind sink) :
    sink ≠ .file "" := by
  cases asks with
  | memory => exact nofun
  | file _ nonempty _ => exact fun empty => nonempty (Sink.file.inj empty)

/-- An empty path is no sink that counts, whether it is configured or comes from the command line. -/
theorem Settings.Counts.nonempty {config : Config} (usable : config.Usable) {specs : List String}
    {kind : ArtifactKind} {sink : Sink} (counts : Counts config.artifacts specs kind sink) : sink ≠ .file "" := by
  rcases counts with ⟨_, _, _, _, asks, _⟩ | ⟨_, configured⟩
  · exact asks.nonempty
  · exact fun empty => usable.artifacts kind (empty ▸ configured)

namespace Cli

/-- How many empty tokens the command line itself gives: behind the separator, as the entry point, and as the
source that goes by its own name. -/
def emptyTokens (options : CompileOptions) : Nat :=
  options.extra.count "" + (if options.entry = some "" then 1 else 0) +
    if options.name = none ∧ options.file = "" then 1 else 0

theorem count_askedArguments {config : Config} (usable : config.Usable) (options : CompileOptions) :
    (askedArguments config options).count "" =
      options.extra.count "" + if options.entry = some "" then 1 else 0 := by
  have args : config.shader.args.count "" = 0 := List.count_eq_zero.2 usable.args
  have profile : ((askedProfile config options).elim [] fun profile => ["-T", profile.display]).count "" = 0 := by
    cases askedProfile config options with
    | none => rfl
    | some profile => simp [profile.display_nonempty]
  have entry : ((askedEntry config options).elim [] fun entry => ["-E", entry]).count "" =
      if options.entry = some "" then 1 else 0 := by
    unfold askedEntry
    cases options.entry with
    | some entry => simp [List.count_cons]
    | none =>
      cases configured : config.shader.entry with
      | none => rfl
      | some entry =>
        have nonempty : entry ≠ "" := fun empty => usable.entry (empty ▸ configured)
        simp [nonempty]
  rw [askedArguments, List.count_append, List.count_append, List.count_append, args, profile, entry]
  omega

namespace Attempt

section Assembled

variable {world : World} {config : Config} {options : CompileOptions} {sinks : List (ArtifactKind × Sink)}
variable {attempt : Attempt} (assembled : attempt.Assembled world config options sinks)

include assembled

theorem Assembled.destination_nonempty (usable : config.Usable) {entry : ArtifactKind × Sink}
    (member : entry ∈ sinks) : entry.2.destination (attempt.temporary entry.1) ≠ "" := by
  obtain ⟨kind, sink⟩ := entry
  cases sink with
  | memory =>
    obtain ⟨number, -, -, path⟩ := assembled.temporary_new kind member
    have named : Staging.ownName number kind ≠ "" := by
      rw [ne_eq, ← String.toList_eq_nil_iff]
      exact (Staging.ownName_isName number kind).nonempty
    rw [Sink.destination, path]
    exact Path.join_nonempty named world.tempDir
  | file path =>
    have merged := (Settings.mergeArtifacts_eq_ok_iff.1 assembled.merged).2
    have counts := (merged.counts kind (.file path)).1 member
    exact fun empty => counts.nonempty usable (congrArg Sink.file empty)

theorem Assembled.source_eq_empty : attempt.source = "" ↔ options.name = none ∧ options.file = "" := by
  cases called : options.name with
  | none => simp [(assembled.file called).1]
  | some name =>
    rw [(assembled.copied name called).1]
    exact iff_of_false (Staging.sourcePath_nonempty world) nofun

/-- Every empty token of a compile under a usable configuration was given on the command line. -/
theorem Assembled.count_arguments (usable : config.Usable) :
    attempt.invocation.arguments.count "" = emptyTokens options := by
  have artifacts : (sinks.flatMap fun entry =>
      [entry.1.flag, entry.2.destination (attempt.temporary entry.1)]).count "" = 0 := by
    rw [List.count_eq_zero, List.mem_flatMap]
    rintro ⟨entry, member, empty⟩
    rcases List.mem_pair.1 empty with flag | path
    · exact entry.1.flag_nonempty flag.symm
    · exact assembled.destination_nonempty usable member path.symm
  have source : [attempt.source].count "" = if options.name = none ∧ options.file = "" then 1 else 0 := by
    rw [List.count_singleton]
    simp only [beq_iff_eq, assembled.source_eq_empty]
  rw [assembled.arguments, List.count_append, List.count_append, count_askedArguments usable, artifacts, source,
    emptyTokens]
  omega

end Assembled

end Attempt

end Cli

namespace Config

open Cli

/-- Validation accepts the usable configurations and blames the others for the first thing that is wrong with
them. A configuration that was loaded is usable. A compile under it comes to one invocation at most, in which
no artifact goes to an empty path, and all empty tokens are the command line's own. -/
theorem validation_guards :
    (∀ config : Config, (config.validate = .ok () ↔ config.Usable) ∧
      ∀ e, config.validate = .error e ↔ config.Blamed e) ∧
    ∀ config : Config, config.Loaded → config.Usable ∧ ∀ world options,
      (∃ failure left, ∀ launch, compileConfigured launch config options world = (.error failure, left)) ∨
      ∃ sinks attempt answer, Attempt.Assembled world config options sinks attempt ∧
        attempt.Answered answer ∧
        (∀ launch, compileConfigured launch config options world =
          answer (launch attempt.invocation attempt.before)) ∧
        (∀ entry ∈ sinks, entry.2.destination (attempt.temporary entry.1) ≠ "") ∧
        attempt.invocation.arguments.count "" = emptyTokens options := by
  refine ⟨fun config => ⟨validate_eq_ok_iff, fun _ => validate_eq_error_iff⟩, ?_⟩
  intro config loaded
  have usable := loaded.usable
  refine ⟨usable, fun world options => ?_⟩
  rcases Job.prepare_cases world config options with
    ⟨failure, refused, -⟩ | ⟨artifacts, job, known, prepared⟩
  · refine .inl ⟨failure, world, fun launch => ?_⟩
    simp only [compileConfigured, refused]
  · rcases compileConfigured_cases known prepared with
      ⟨failure, -, failed⟩ | ⟨source, before, placed, answers⟩
    · exact .inl ⟨failure, _, failed⟩
    · have assembled := prepared.assembled placed
      exact .inr ⟨_, _, _, assembled, job.answered source before, answers,
        fun _ => assembled.destination_nonempty usable, assembled.count_arguments usable⟩

/-- A file that is read from its directory, and a command line that gives an empty token and an empty source. -/
theorem validation_guards_empty_source :
    let content := "[shader]\nentry = 'main'\nargs = ['-Zi']\n[artifacts]\nobject = 'a'\nhash = 'memory'\n"
    let world : World := { tree := ⟨[(["lib"], .directory),
      (["lib", "shc.toml"], .file (Utf8.encode content.toList) false)]⟩ }
    let options : CompileOptions := { file := "", extra := ["", "-Od"] }
    ∃ config sinks attempt, load world "/lib" = .ok config ∧
      Attempt.Assembled world config options sinks attempt ∧
      attempt.invocation.arguments.count "" = 2 := by
  intro content world options
  let silent : Launcher := fun _ world => .ok (⟨some 0, []⟩, world)
  have told : (load world "/lib").toOption.map (fun config =>
      (compileConfigured silent config options world).1.toOption.isSome) = some true := by decide +kernel
  cases read : load world "/lib" with
  | error reason =>
    rw [read] at told
    cases told
  | ok config =>
    rw [read] at told
    replace told : (compileConfigured silent config options world).1.toOption.isSome = true :=
      Option.some.inj told
    obtain ⟨-, runs⟩ := validation_guards.2 config (.directory read)
    rcases runs world options with
      ⟨failure, left, failed⟩ | ⟨sinks, attempt, -, assembled, -, -, -, counted⟩
    · rw [failed] at told
      cases told
    · exact ⟨config, sinks, attempt, rfl, assembled, counted⟩

end Config

end ShaderDriver
