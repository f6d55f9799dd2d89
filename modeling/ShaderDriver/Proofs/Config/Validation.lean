import ShaderDriver.Config.Basic
import ShaderDriver.Proofs.Cli.Merging

namespace ShaderDriver.Config

/-- What a configuration needs to be accepted. -/
structure Usable (config : Config) : Prop where
  compiler : config.compiler.path = none ∨ config.compiler.toolchainDir = none
  entry : config.shader.entry ≠ some ""
  args : "" ∉ config.shader.args
  artifacts (kind : ArtifactKind) : config.artifacts.sink kind ≠ some (.file "")

/-- What is wrong with a configuration: two compilers, an empty entry point, an empty argument, or an artifact
that goes to an empty path. A thing is blamed only if nothing is wrong with the things before it, and of the
arguments and of the kinds of artifacts the first that is empty is named. -/
inductive Blamed (config : Config) : ConfigError → Prop
  | compiler {path dir : String} : config.compiler.path = some path →
      config.compiler.toolchainDir = some dir → Blamed config .conflictingCompiler
  | entry : config.compiler.path = none ∨ config.compiler.toolchainDir = none →
      config.shader.entry = some "" → Blamed config (.emptyValue "shader.entry")
  | argument {before after : List String} :
      config.compiler.path = none ∨ config.compiler.toolchainDir = none → config.shader.entry ≠ some "" →
      config.shader.args = before ++ "" :: after → "" ∉ before →
      Blamed config (.emptyValue s!"shader.args[{before.length}]")
  | artifact {before after : List ArtifactKind} {kind : ArtifactKind} :
      config.compiler.path = none ∨ config.compiler.toolchainDir = none → config.shader.entry ≠ some "" →
      "" ∉ config.shader.args → ArtifactKind.all = before ++ kind :: after →
      config.artifacts.sink kind = some (.file "") →
      (∀ earlier ∈ before, config.artifacts.sink earlier ≠ some (.file "")) →
      Blamed config (.emptyValue s!"artifacts.{kind.name}")

theorem findIdx?_isEmpty_eq_none_iff {args : List String} :
    args.findIdx? String.isEmpty = none ↔ "" ∉ args := by
  rw [List.findIdx?_eq_none_iff]
  constructor
  · intro filled member
    exact absurd (filled "" member) (by decide)
  · intro missing argument member
    rw [Bool.eq_false_iff, ne_eq, String.isEmpty_iff]
    rintro rfl
    exact missing member

theorem findIdx?_isEmpty_append {before : List String} (filled : "" ∉ before) (after : List String) :
    (before ++ "" :: after).findIdx? String.isEmpty = some before.length := by
  rw [List.findIdx?_append, findIdx?_isEmpty_eq_none_iff.2 filled, List.findIdx?_cons, if_pos (by decide)]
  simp

theorem find?_emptySink_eq_none_iff {artifacts : ArtifactsConfig} :
    (artifacts.entries.find? fun entry => entry.2 == .file "") = none ↔
      ∀ kind, artifacts.sink kind ≠ some (.file "") := by
  rw [List.find?_eq_none]
  constructor
  · intro filled kind empty
    exact filled _ (ArtifactsConfig.mem_entries.2 empty) (by simp)
  · rintro filled ⟨kind, sink⟩ member same
    have empty : sink = .file "" := beq_iff_eq.1 same
    rw [empty, ArtifactsConfig.mem_entries] at member
    exact filled kind member

/-- Of the artifacts that go to an empty path the first in the order of kinds is found. -/
theorem find?_emptySink_append {artifacts : ArtifactsConfig} {before after : List ArtifactKind}
    {kind : ArtifactKind} (order : ArtifactKind.all = before ++ kind :: after)
    (empty : artifacts.sink kind = some (.file ""))
    (filled : ∀ earlier ∈ before, artifacts.sink earlier ≠ some (.file "")) :
    (artifacts.entries.find? fun entry => entry.2 == .file "") = some (kind, .file "") := by
  rw [ArtifactsConfig.entries, order, List.filterMap_append, List.filterMap_cons_some (by rw [empty]; rfl)]
  refine List.find?_eq_some_iff_append.2 ⟨by simp, _, _, rfl, ?_⟩
  rintro ⟨earlier, sink⟩ member
  obtain ⟨_, listed, found⟩ := List.mem_filterMap.1 member
  obtain ⟨_, asked, same⟩ := Option.map_eq_some_iff.1 found
  cases same
  rw [Bool.not_eq_true', beq_eq_false_iff_ne]
  rintro rfl
  exact filled earlier listed asked

section Validate

variable {config : Config}

theorem validate_conflicting {path dir : String} (named : config.compiler.path = some path)
    (searched : config.compiler.toolchainDir = some dir) : config.validate = .error .conflictingCompiler := by
  rw [validate, named, searched]
  rfl

/-- If one compiler is named at most, the entry point is looked at. -/
theorem validate_single (single : config.compiler.path = none ∨ config.compiler.toolchainDir = none) :
    config.validate =
      if config.shader.entry = some "" then .error (.emptyValue "shader.entry")
      else
        match config.shader.args.findIdx? String.isEmpty with
        | some i => .error (.emptyValue s!"shader.args[{i}]")
        | none =>
          match config.artifacts.entries.find? fun entry => entry.2 == .file "" with
          | some (kind, _) => .error (.emptyValue s!"artifacts.{kind.name}")
          | none => .ok () := by
  have noConflict : (config.compiler.path.isSome && config.compiler.toolchainDir.isSome) = false := by
    rcases single with none | none
    · rw [none]
      rfl
    · rw [none]
      exact Bool.and_false _
  rw [validate, noConflict]
  rfl

theorem Usable.validate (usable : config.Usable) : config.validate = .ok () := by
  rw [validate_single usable.compiler, if_neg usable.entry, findIdx?_isEmpty_eq_none_iff.2 usable.args,
    find?_emptySink_eq_none_iff.2 usable.artifacts]

theorem Blamed.validate {e : ConfigError} (blamed : config.Blamed e) : config.validate = .error e := by
  cases blamed with
  | compiler named searched => exact validate_conflicting named searched
  | entry single empty => rw [validate_single single, if_pos empty]
  | argument single entry cut filled =>
    rw [validate_single single, if_neg entry, cut, findIdx?_isEmpty_append filled]
  | artifact single entry args order empty filled =>
    rw [validate_single single, if_neg entry, findIdx?_isEmpty_eq_none_iff.2 args,
      find?_emptySink_append order empty filled]

/-- A configuration is of use, or there is something to blame it for. -/
theorem usable_or_blamed (config : Config) : config.Usable ∨ ∃ e, config.Blamed e := by
  by_cases single : config.compiler.path = none ∨ config.compiler.toolchainDir = none
  rotate_left
  · rw [not_or] at single
    obtain ⟨path, named⟩ := Option.ne_none_iff_exists'.1 single.1
    obtain ⟨dir, searched⟩ := Option.ne_none_iff_exists'.1 single.2
    exact .inr ⟨_, .compiler named searched⟩
  by_cases entry : config.shader.entry = some ""
  · exact .inr ⟨_, .entry single entry⟩
  by_cases args : "" ∈ config.shader.args
  · obtain ⟨before, after, cut, filled⟩ := List.eq_append_cons_of_mem args
    exact .inr ⟨_, .argument single entry cut filled⟩
  by_cases artifacts : ∀ kind, config.artifacts.sink kind ≠ some (.file "")
  · exact .inl ⟨single, entry, args, artifacts⟩
  · obtain ⟨kind, empty⟩ := not_forall_not.1 artifacts
    let empties := fun kind => config.artifacts.sink kind == some (.file "")
    have some : (ArtifactKind.all.find? empties).isSome :=
      List.find?_isSome.2 ⟨kind, kind.mem_all, beq_iff_eq.2 empty⟩
    obtain ⟨first, found⟩ := Option.isSome_iff_exists.1 some
    obtain ⟨empty, before, after, order, filled⟩ := List.find?_eq_some_iff_append.1 found
    simp only [empties, Bool.not_eq_true', beq_eq_false_iff_ne] at filled
    exact .inr ⟨_, .artifact single entry args order (beq_iff_eq.1 empty) filled⟩

theorem validate_eq_ok_iff : config.validate = .ok () ↔ config.Usable := by
  refine ⟨fun accepted => ?_, Usable.validate⟩
  refine (usable_or_blamed config).resolve_right fun ⟨e, blamed⟩ => ?_
  rw [blamed.validate] at accepted
  cases accepted

theorem validate_eq_error_iff {e : ConfigError} : config.validate = .error e ↔ config.Blamed e := by
  refine ⟨fun refused => ?_, Blamed.validate⟩
  rcases usable_or_blamed config with usable | ⟨reason, blamed⟩
  · rw [usable.validate] at refused
    cases refused
  · rw [blamed.validate] at refused
    cases refused
    exact blamed

end Validate

end ShaderDriver.Config
