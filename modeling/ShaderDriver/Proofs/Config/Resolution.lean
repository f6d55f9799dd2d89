import ShaderDriver.Config.Load
import ShaderDriver.Proofs.Config.Validation
import ShaderDriver.Proofs.Text.Utf8
import ShaderDriver.Proofs.World.Parents

namespace ShaderDriver

/-- The path of a file sink. -/
def Sink.path? : Sink → Option String
  | .memory => none
  | .file path => some path

/-- The keys of a configuration under which a path may stand. -/
inductive PathKey where
  | compiler
  | toolchainDir
  | artifact (kind : ArtifactKind)

namespace ArtifactsConfig

theorem sink_ofSlots_slots (artifacts : ArtifactsConfig) (change : Option Sink → Option Sink)
    (kind : ArtifactKind) :
    (ofSlots (artifacts.slots.map change)).sink kind = change (artifacts.sink kind) := by
  have there : ArtifactKind.all[kind.index]? = some kind := ArtifactKind.getElem?_all.2 rfl
  simp only [ofSlots, slots, List.map_map, List.getElem?_map, there]
  rfl

end ArtifactsConfig

namespace World

theorem readText_eq_ok {world : World} {path content : String} (read : world.readText path = .ok content) :
    ∃ place bytes executable, world.locate path = .ok place ∧
      world.tree.find? place = some (.file bytes executable) := by
  unfold readText readBytes at read
  cases there : world.entry path with
  | error fault => rw [there] at read; cases read
  | ok entry =>
    obtain ⟨place, located, found⟩ := entry_eq_ok.1 there
    cases entry with
    | directory => rw [there] at read; cases read
    | file bytes executable => exact ⟨place, bytes, executable, located, found⟩

theorem readText_encoded {world : World} {path content : String} {executable : Bool}
    (there : world.entry path = .ok (.file (Utf8.encode content.toList) executable)) :
    world.readText path = .ok content := by
  simp [readText, readBytes, there, Utf8.decode?_encode, bind, Except.bind, pure, Except.pure]

end World

namespace ConfigError

/-- An error with the origin of the text that it is about, if it tells one. -/
def withOrigin (origin : String) : ConfigError → ConfigError
  | .malformed _ => .malformed origin
  | .mismatch _ reason => .mismatch origin reason
  | error => error

end ConfigError

namespace Config

/-- The path that stands under a key, if there is one. -/
def pathAt (config : Config) : PathKey → Option String
  | .compiler => config.compiler.path
  | .toolchainDir => config.compiler.toolchainDir
  | .artifact kind => (config.artifacts.sink kind).bind Sink.path?

/-- A path before and after it was seen from a directory. A relative path leads where it leads for who works
in the directory. -/
structure SeenFrom (base path seen : String) : Prop where
  absolute : Path.isAbsolute seen = true
  kept : Path.isAbsolute path = true → seen = path
  joined : Path.isAbsolute path = false → seen = Path.join base path
  leads : Path.isAbsolute path = false → path ≠ "" → ∀ (world : World) (place : Place),
    world.locate seen = .ok place ↔ ∃ above, world.locate base = .ok above ∧
      world.tree.find? above = some .directory ∧ { world with workingDir := above }.locate path = .ok place

/-- A configuration before and after it was seen from a directory: nothing but the paths has changed, and
they stay as they are from now on. -/
structure Resolved (base : String) (before after : Config) : Prop where
  paths (key : PathKey) : Option.Rel (SeenFrom base) (before.pathAt key) (after.pathAt key)
  memory (kind : ArtifactKind) :
    after.artifacts.sink kind = some .memory ↔ before.artifacts.sink kind = some .memory
  absent (kind : ArtifactKind) : after.artifacts.sink kind = none ↔ before.artifacts.sink kind = none
  backend : after.compiler.backend = before.compiler.backend
  shader : after.shader = before.shader
  cleanup : after.cleanup = before.cleanup
  settled (other : String) : after.resolvePaths other = after

theorem Resolved.exists_seenFrom {base path : String} {before after : Config} {key : PathKey}
    (resolved : Resolved base before after) (there : before.pathAt key = some path) :
    ∃ seen, after.pathAt key = some seen ∧ SeenFrom base path seen := by
  have related := resolved.paths key
  rw [there] at related
  cases now : after.pathAt key with
  | none =>
    rw [now] at related
    cases related
  | some seen =>
    rw [now] at related
    cases related with
    | some view => exact ⟨seen, rfl, view⟩

theorem resolvePath_of_absolute {path : String} (absolute : Path.isAbsolute path = true) (base : String) :
    resolvePath base path = path := if_pos absolute

theorem resolvePath_seenFrom {base : String} (absolute : Path.isAbsolute base = true) (path : String) :
    SeenFrom base path (resolvePath base path) := by
  have named : base ≠ "" := by
    rintro rfl
    cases absolute
  by_cases own : Path.isAbsolute path = true
  · have notRelative : Path.isAbsolute path ≠ false := by
      rw [own]
      exact nofun
    rw [resolvePath_of_absolute own]
    exact ⟨own, fun _ => rfl, fun relative => absurd relative notRelative,
      fun relative => absurd relative notRelative⟩
  · have relative : Path.isAbsolute path = false := Bool.eq_false_iff.2 own
    rw [resolvePath, if_neg own]
    exact ⟨(Path.isAbsolute_join named relative).trans absolute, fun yes => absurd yes own, fun _ => rfl,
      fun _ nonempty _ _ => World.locate_join_relative named relative nonempty⟩

theorem sink_resolvePaths (base : String) (config : Config) (kind : ArtifactKind) :
    (config.resolvePaths base).artifacts.sink kind = (config.artifacts.sink kind).map (resolveSink base) :=
  config.artifacts.sink_ofSlots_slots _ kind

theorem pathAt_resolvePaths (base : String) (config : Config) (key : PathKey) :
    (config.resolvePaths base).pathAt key = (config.pathAt key).map (resolvePath base) := by
  cases key with
  | compiler => rfl
  | toolchainDir => rfl
  | artifact kind =>
    rw [pathAt, sink_resolvePaths, pathAt]
    cases config.artifacts.sink kind with
    | none => rfl
    | some sink => cases sink <;> rfl

/-- A configuration without relative paths looks the same from everywhere. -/
theorem resolvePaths_of_absolute {config : Config}
    (absolute : ∀ key, ∀ path ∈ config.pathAt key, Path.isAbsolute path = true) (base : String) :
    config.resolvePaths base = config := by
  have kept (key : PathKey) : (config.pathAt key).map (resolvePath base) = config.pathAt key := by
    cases there : config.pathAt key with
    | none => rfl
    | some path => exact congrArg some (resolvePath_of_absolute (absolute key path there) base)
  have sinks (kind : ArtifactKind) :
      (config.resolvePaths base).artifacts.sink kind = config.artifacts.sink kind := by
    have own := kept (.artifact kind)
    rw [sink_resolvePaths]
    rw [pathAt] at own
    cases there : config.artifacts.sink kind with
    | none => rfl
    | some sink =>
      cases sink with
      | memory => rfl
      | file path =>
        rw [there] at own
        exact congrArg (fun path => some (Sink.file path)) (Option.some.inj own)
  have compiler : (config.resolvePaths base).compiler = config.compiler := by
    change (⟨config.compiler.backend, (config.pathAt .compiler).map (resolvePath base),
      (config.pathAt .toolchainDir).map (resolvePath base)⟩ : CompilerConfig) = config.compiler
    rw [kept, kept]
    rfl
  have artifacts : (config.resolvePaths base).artifacts = config.artifacts :=
    congrArg ArtifactsConfig.mk (funext sinks)
  change (⟨(config.resolvePaths base).compiler, config.shader, (config.resolvePaths base).artifacts,
    config.cleanup⟩ : Config) = config
  rw [compiler, artifacts]

theorem resolvePaths_resolved {base : String} (absolute : Path.isAbsolute base = true) (config : Config) :
    Resolved base config (config.resolvePaths base) where
  paths key := by
    rw [pathAt_resolvePaths]
    cases config.pathAt key with
    | none => exact .none
    | some path => exact .some (resolvePath_seenFrom absolute path)
  memory kind := by
    rw [sink_resolvePaths]
    cases config.artifacts.sink kind with
    | none => exact Iff.rfl
    | some sink => cases sink <;> simp [resolveSink]
  absent kind := by
    rw [sink_resolvePaths]
    exact Option.map_eq_none_iff
  backend := rfl
  shader := rfl
  cleanup := rfl
  settled other := by
    refine resolvePaths_of_absolute (fun key path there => ?_) other
    rw [pathAt_resolvePaths] at there
    obtain ⟨before, -, rfl⟩ := Option.map_eq_some_iff.1 there
    exact (resolvePath_seenFrom absolute before).absolute

/-- What is wrong with a configuration is told without an origin. -/
theorem withOrigin_of_validate {config : Config} {reason : ConfigError}
    (refused : config.validate = .error reason) (origin : String) : reason.withOrigin origin = reason := by
  unfold validate at refused
  split at refused
  · cases refused
    rfl
  · split at refused
    · cases refused
      rfl
    · split at refused
      · cases refused
        rfl
      · split at refused
        · cases refused
          rfl
        · cases refused

/-- A text is read in the same way wherever it comes from. Only the errors about the text name its origin. -/
theorem parse_eq_ofString (content origin : String) :
    parse content origin = (ofString content).mapError (ConfigError.withOrigin origin) := by
  unfold ofString parse
  cases Toml.parse? content with
  | none => rfl
  | some entries =>
    dsimp only
    cases Decode.config entries with
    | error reason => rfl
    | ok config =>
      dsimp only
      cases checked : config.validate with
      | ok => rfl
      | error reason => exact congrArg Except.error (withOrigin_of_validate checked origin).symm

/-- Every path of a configuration is resolved for good and nothing else changes. A file is read like its
text, and the paths are resolved against its directory. -/
theorem paths_resolved :
    (∀ base config, Path.isAbsolute base = true → Resolved base config (config.resolvePaths base)) ∧
    ∀ world path content, Path.isAbsolute path = true → world.readText path = .ok content →
      ∃ directory, world.DirectoryOf path directory ∧ loadFile world path =
        ((ofString content).map (resolvePaths directory)).mapError (ConfigError.withOrigin path) := by
  refine ⟨fun base config absolute => resolvePaths_resolved absolute config, ?_⟩
  intro world path content absolute read
  obtain ⟨place, bytes, executable, located, file⟩ := World.readText_eq_ok read
  obtain ⟨directory, above⟩ := World.exists_directoryOf absolute located file
  refine ⟨directory, above, ?_⟩
  rw [loadFile, read]
  dsimp only
  rw [above.parent, parse_eq_ofString]
  cases ofString content <;> rfl

/-- A file whose name stands behind a slash and a dot too many, with a path of each kind. -/
theorem paths_resolved_roundabout :
    let content := "[compiler]\npath = 'bin/dxc'\n[artifacts]\nobject = '/out/a'\nhash = 'memory'\n"
    let tree : Tree := ⟨[(["lib"], .directory),
      (["lib", "shc.toml"], .file (Utf8.encode content.toList) false)]⟩
    ∃ config loaded, ofString content = .ok config ∧ loadFile { tree } "/lib//./shc.toml" = .ok loaded ∧
      loaded.pathAt .compiler = some "/lib/bin/dxc" ∧ loaded.pathAt (.artifact .object) = some "/out/a" ∧
      loaded.artifacts.sink .hash = some .memory ∧ loaded.resolvePaths "elsewhere" = loaded := by
  intro content tree
  let world : World := { tree }
  have told : (ofString content).toOption.map (fun config => (config.pathAt .compiler,
      config.pathAt (.artifact .object), config.artifacts.sink .hash)) =
        some (some "bin/dxc", some "/out/a", some .memory) := by decide +kernel
  cases read : ofString content with
  | error reason =>
    rw [read] at told
    cases told
  | ok config =>
    rw [read] at told
    obtain ⟨compiler, object, hash⟩ : config.pathAt .compiler = some "bin/dxc" ∧
        config.pathAt (.artifact .object) = some "/out/a" ∧ config.artifacts.sink .hash = some .memory := by
      simpa [Except.toOption] using told
    have there : world.entry "/lib//./shc.toml" = .ok (.file (Utf8.encode content.toList) false) := rfl
    have given : world.readText "/lib//./shc.toml" = .ok content := World.readText_encoded there
    obtain ⟨directory, above, loads⟩ := paths_resolved.2 world _ content rfl given
    have parent : Path.parent? "/lib//./shc.toml" = some "/lib" := by decide +kernel
    cases parent.symm.trans above.parent
    rw [read] at loads
    have resolved := paths_resolved.1 "/lib" config rfl
    obtain ⟨seen, compiler', view⟩ := resolved.exists_seenFrom compiler
    obtain ⟨seen', object', view'⟩ := resolved.exists_seenFrom object
    cases view.joined rfl
    cases view'.kept rfl
    exact ⟨config, _, rfl, loads, compiler', object', (resolved.memory .hash).2 hash, resolved.settled _⟩

end Config

end ShaderDriver
