import ShaderDriver.Config.Load
import ShaderDriver.Proofs.Config.Validation
import ShaderDriver.Proofs.Toml.Sections

namespace ShaderDriver

theorem Sink.ofDestination_eq_file_empty_iff {destination : String} :
    ofDestination destination = .file "" ↔ destination = "" := by
  unfold ofDestination
  by_cases memory : destination = "memory"
  · rw [if_pos memory, memory]
    exact iff_of_false nofun (by decide)
  · rw [if_neg memory]
    exact Sink.file.injEq .. ▸ Iff.rfl

namespace ArtifactsConfig

/-- Artifacts with one entry after the other written into them. -/
def withEntries (artifacts : ArtifactsConfig) (entries : List (ArtifactKind × String)) : ArtifactsConfig :=
  entries.foldl (fun artifacts entry => artifacts.set entry.1 (Sink.ofDestination entry.2)) artifacts

theorem sink_set (artifacts : ArtifactsConfig) (kind other : ArtifactKind) (sink : Sink) :
    (artifacts.set kind sink).sink other = if other = kind then some sink else artifacts.sink other := rfl

/-- If no kind is written twice, each entry is the sink of its kind. -/
theorem sink_withEntries {artifacts : ArtifactsConfig} {entries : List (ArtifactKind × String)}
    (once : (entries.map Prod.fst).Nodup) {kind : ArtifactKind} {sink : Sink} :
    (artifacts.withEntries entries).sink kind = some sink ↔
      (∃ destination, (kind, destination) ∈ entries ∧ sink = Sink.ofDestination destination) ∨
        kind ∉ entries.map Prod.fst ∧ artifacts.sink kind = some sink := by
  induction entries generalizing artifacts with
  | nil => simp [withEntries]
  | cons entry entries ih =>
    obtain ⟨first, destination⟩ := entry
    rw [List.map_cons, List.nodup_cons] at once
    obtain ⟨fresh, others⟩ := once
    rw [withEntries, List.foldl_cons, ← withEntries, ih others, sink_set]
    by_cases same : kind = first
    · subst same
      have absent (other : String) : (kind, other) ∉ entries := fun member =>
        fresh (List.mem_map.2 ⟨_, member, rfl⟩)
      simp [fresh, absent, eq_comm]
    · simp [same]

end ArtifactsConfig

namespace Decode

open Toml

/-- One more entry of the artifacts section. -/
def readArtifact (artifacts : ArtifactsConfig) (entry : String × Node) : Decoded ArtifactsConfig :=
  match ArtifactKind.ofName? entry.1 with
  | some kind => do pure (artifacts.set kind (← sink entry.2))
  | none => .error (.unknownField entry.1 (artifactFields.map Field.name))

theorem byName_artifactFields (entries : Entries) (artifacts : ArtifactsConfig) :
    byName true artifactFields entries artifacts = entries.foldlM readArtifact artifacts := by
  unfold byName
  congr 1
  funext artifacts entry
  obtain ⟨name, node⟩ := entry
  have found : (artifactFields.find? fun field => field.name == name) =
      (ArtifactKind.ofName? name).map fun kind =>
        ⟨kind.name, false, fun node artifacts => do pure (artifacts.set kind (← sink node))⟩ := by
    rw [artifactFields, List.find?_map]
    rfl
  simp only [found, readArtifact]
  cases ArtifactKind.ofName? name <;> rfl

/-- A document with nothing but the artifacts section. -/
theorem config_artifacts (form : Form) (entries : Entries) :
    config [("artifacts", .table form entries)] =
      (entries.foldlM readArtifact {}).map fun artifacts => { artifacts } := by
  rw [← byName_artifactFields, config, byName, List.foldlM_cons]
  simp only [sections, List.find?_cons, String.reduceBEq, record, List.foldlM_nil]
  cases byName true artifactFields entries {} <;> rfl

theorem readArtifact_named (artifacts : ArtifactsConfig) (kind : ArtifactKind) (destination : String) :
    readArtifact artifacts (kind.name, .string destination) =
      .ok (artifacts.set kind (Sink.ofDestination destination)) := by
  have known : ArtifactKind.ofName? kind.name = some kind := ArtifactKind.ofName?_eq_some_iff.2 rfl
  rw [readArtifact, known]
  rfl

theorem readArtifact_eq_ok_iff {before after : ArtifactsConfig} {name destination : String} :
    readArtifact before (name, .string destination) = .ok after ↔
      ∃ kind : ArtifactKind, name = kind.name ∧ after = before.set kind (Sink.ofDestination destination) := by
  by_cases known : ∃ kind : ArtifactKind, name = kind.name
  · obtain ⟨kind, rfl⟩ := known
    rw [readArtifact_named]
    constructor
    · rintro ⟨⟩
      exact ⟨kind, rfl, rfl⟩
    · rintro ⟨other, same, rfl⟩
      rw [ArtifactKind.name_injective same]
  · have unknown : ArtifactKind.ofName? name = none := by
      rw [Option.eq_none_iff_forall_ne_some]
      intro kind found
      exact known ⟨kind, ArtifactKind.ofName?_eq_some_iff.1 found⟩
    rw [readArtifact, unknown]
    exact iff_of_false nofun fun ⟨kind, named, _⟩ => known ⟨kind, named⟩

/-- Entries as they stand in the section. -/
def written (entries : List (ArtifactKind × String)) : Entries :=
  entries.map fun entry => (entry.1.name, .string entry.2)

theorem foldlM_readArtifact_written (entries : List (ArtifactKind × String)) (artifacts : ArtifactsConfig) :
    (written entries).foldlM readArtifact artifacts = .ok (artifacts.withEntries entries) := by
  induction entries generalizing artifacts with
  | nil => rfl
  | cons entry entries ih =>
    rw [written, List.map_cons, List.foldlM_cons, readArtifact_named]
    exact ih _

end Decode

namespace Config

open Toml

theorem usable_artifacts_iff {artifacts : ArtifactsConfig} :
    Usable { artifacts } ↔ ∀ kind, artifacts.sink kind ≠ some (.file "") :=
  ⟨fun usable => usable.artifacts, fun filled => ⟨.inl rfl, nofun, List.not_mem_nil, filled⟩⟩

/-- A document with nothing but artifacts is accepted if they can be read and no path among them is empty. -/
theorem ofString_artifacts {content : String} {form : Form} {entries : Entries}
    (parsed : Toml.parse? content = some [("artifacts", .table form entries)]) {config : Config} :
    ofString content = .ok config ↔ ∃ artifacts, entries.foldlM Decode.readArtifact {} = .ok artifacts ∧
      (∀ kind, artifacts.sink kind ≠ some (.file "")) ∧ config = { artifacts } := by
  rw [ofString, parse, parsed]
  dsimp only
  rw [Decode.config_artifacts]
  cases entries.foldlM Decode.readArtifact {} with
  | error reason => exact iff_of_false nofun fun ⟨_, given, _⟩ => nomatch given
  | ok artifacts =>
    simp only [Except.map, Except.ok.injEq, exists_eq_left', ← usable_artifacts_iff, ← validate_eq_ok_iff]
    cases checked : validate { artifacts } with
    | error reason => exact iff_of_false nofun fun ⟨usable, _⟩ => nomatch usable
    | ok => simp [eq_comm]

end Config

namespace Settings

open Config Toml

theorem asks_joined {name destination : String} (flat : '=' ∉ name.toList) {kind : ArtifactKind}
    {sink : Sink} : Asks (name ++ "=" ++ destination) kind sink ↔
      name = kind.name ∧ destination ≠ "" ∧ sink = Sink.ofDestination destination := by
  have parted : Parted (name ++ "=" ++ destination) name destination := by
    rw [Parted, String.toList_append, String.toList_append]
    exact Text.firstAt_single flat destination.toList
  have only {name' destination' : String} (other : Parted (name ++ "=" ++ destination) name' destination') :
      name' = name ∧ destination' = destination := by
    obtain ⟨names, destinations⟩ := other.unique parted
    exact ⟨String.toList_inj.1 names, String.toList_inj.1 destinations⟩
  constructor
  · intro asks
    cases asks with
    | memory at_ =>
      obtain ⟨rfl, rfl⟩ := only at_
      exact ⟨rfl, by decide, rfl⟩
    | file at_ nonempty notMemory =>
      obtain ⟨rfl, rfl⟩ := only at_
      exact ⟨rfl, nonempty, (if_neg notMemory).symm⟩
  · rintro ⟨rfl, nonempty, rfl⟩
    by_cases memory : destination = "memory"
    · rw [memory] at parted ⊢
      exact .memory parted
    · rw [Sink.ofDestination, if_neg memory]
      exact .file parted nonempty memory

theorem name_flat (kind : ArtifactKind) : '=' ∉ kind.name.toList := by cases kind <;> decide

/-- Entries as they are given on the command line. -/
def specs (entries : List (ArtifactKind × String)) : List String :=
  entries.map fun entry => entry.1.name ++ "=" ++ entry.2

theorem exists_asks_iff {entries : List (ArtifactKind × String)} (filled : ∀ entry ∈ entries, entry.2 ≠ "")
    {kind : ArtifactKind} {sink : Sink} :
    (∃ spec ∈ specs entries, Asks spec kind sink) ↔
      ∃ destination, (kind, destination) ∈ entries ∧ sink = Sink.ofDestination destination := by
  constructor
  · rintro ⟨_, member, asks⟩
    obtain ⟨⟨other, destination⟩, listed, rfl⟩ := List.mem_map.1 member
    obtain ⟨same, -, rfl⟩ := (asks_joined (name_flat other)).1 asks
    cases ArtifactKind.name_injective same
    exact ⟨destination, listed, rfl⟩
  · rintro ⟨destination, listed, rfl⟩
    have asks := (asks_joined (name_flat kind)).2 ⟨rfl, filled _ listed, rfl⟩
    exact ⟨_, List.mem_map.2 ⟨_, listed, rfl⟩, asks⟩

/-- The two specs never name the same kind. -/
def Apart (one other : String) : Prop :=
  ∀ kind sink sink', Asks one kind sink → ¬ Asks other kind sink'

theorem Apart.symm {one other : String} (apart : Apart one other) : Apart other one :=
  fun kind _ _ asks asks' => apart kind _ _ asks' asks

/-- If no kind is named twice, every spec is the last one for its kind. -/
theorem lastAsks_iff_of_apart {given : List String} (apart : given.Pairwise Apart) {kind : ArtifactKind}
    {sink : Sink} : LastAsks given kind sink ↔ ∃ spec ∈ given, Asks spec kind sink := by
  constructor
  · rintro ⟨before, spec, after, rfl, asks, -⟩
    exact ⟨spec, by simp, asks⟩
  · rintro ⟨spec, member, asks⟩
    obtain ⟨before, after, rfl⟩ := List.append_of_mem member
    have later := (List.pairwise_cons.1 (List.pairwise_append.1 apart).2.1).1
    exact ⟨before, spec, after, rfl, asks, fun other listed sink' => later other listed kind sink sink' asks⟩

theorem pairwise_specs {entries : List (ArtifactKind × String)} (once : (entries.map Prod.fst).Nodup) :
    (specs entries).Pairwise Apart := by
  rw [List.Nodup, List.pairwise_map] at once
  refine List.pairwise_map.2 (once.imp fun {one other} different kind sink sink' asks asks' => ?_)
  have same := ((asks_joined (name_flat one.1)).1 asks).1
  have same' := ((asks_joined (name_flat other.1)).1 asks').1
  exact different (ArtifactKind.name_injective (same.trans same'.symm))

/-- Specs for different kinds may be given in any order. -/
theorem counts_iff_of_perm {entries : List (ArtifactKind × String)} (once : (entries.map Prod.fst).Nodup)
    (filled : ∀ entry ∈ entries, entry.2 ≠ "") {given : List String} (perm : given.Perm (specs entries))
    {kind : ArtifactKind} {sink : Sink} :
    Counts {} given kind sink ↔
      ∃ destination, (kind, destination) ∈ entries ∧ sink = Sink.ofDestination destination := by
  have apart : given.Pairwise Apart := (pairwise_specs once).perm perm.symm Apart.symm
  have unconfigured : ¬ (({} : ArtifactsConfig).sink kind = some sink) := nofun
  rw [Counts, or_iff_left fun there => unconfigured there.2, lastAsks_iff_of_apart apart,
    ← exists_asks_iff filled]
  simp only [perm.mem_iff]

theorem valid_of_perm {entries : List (ArtifactKind × String)} (filled : ∀ entry ∈ entries, entry.2 ≠ "")
    {given : List String} (perm : given.Perm (specs entries)) : ∀ spec ∈ given, Valid spec := by
  intro spec member
  obtain ⟨entry, listed, rfl⟩ := List.mem_map.1 (perm.mem_iff.1 member)
  exact ⟨entry.1, _, (asks_joined (name_flat entry.1)).2 ⟨rfl, filled entry listed, rfl⟩⟩

theorem counts_nil {artifacts : ArtifactsConfig} {kind : ArtifactKind} {sink : Sink} :
    Counts artifacts [] kind sink ↔ artifacts.sink kind = some sink := by
  have silent : ¬ LastAsks [] kind sink := fun last => last.named nofun
  have unnamed : Unnamed [] kind := nofun
  simp [Counts, silent, unnamed]

/-- Specs that can be read are merged. -/
theorem exists_merged (config : Config) {given : List String} (valid : ∀ spec ∈ given, Valid spec) :
    ∃ merged, mergeArtifacts config given = .ok merged ∧ Merged config given merged := by
  rcases mergeArtifacts_cases config given with ⟨artifacts, made, -, merged⟩ | ⟨reason, -, refused⟩
  · exact ⟨_, made, merged⟩
  · obtain ⟨spec, member, invalid⟩ := refused.not_valid
    exact absurd (valid spec member) invalid

end Settings

namespace Config

open Settings Toml

/-- A document with nothing but an artifacts section with these entries. -/
def OnlyArtifacts (content : String) (entries : Entries) : Prop :=
  ∃ form, Toml.parse? content = some [("artifacts", .table form entries)]

theorem ofString_entry {content name destination : String}
    (only : OnlyArtifacts content [(name, .string destination)]) {config : Config} :
    ofString content = .ok config ↔ ∃ kind : ArtifactKind, name = kind.name ∧ destination ≠ "" ∧
      config = { artifacts := ({} : ArtifactsConfig).set kind (Sink.ofDestination destination) } := by
  obtain ⟨form, parsed⟩ := only
  have single (artifacts : ArtifactsConfig) :
      [(name, Node.string destination)].foldlM Decode.readArtifact {} = .ok artifacts ↔
        Decode.readArtifact {} (name, .string destination) = .ok artifacts := by
    rw [List.foldlM_cons]
    cases Decode.readArtifact {} (name, .string destination) <;> rfl
  have filled (kind : ArtifactKind) :
      (∀ other, (({} : ArtifactsConfig).set kind (Sink.ofDestination destination)).sink other ≠
        some (.file "")) ↔ destination ≠ "" := by
    constructor
    · rintro filled rfl
      exact filled kind (if_pos rfl)
    · intro nonempty other
      rw [ArtifactsConfig.sink_set]
      split
      · exact fun same => nonempty (Sink.ofDestination_eq_file_empty_iff.1 (Option.some.inj same))
      · exact nofun
  simp only [ofString_artifacts parsed, single, Decode.readArtifact_eq_ok_iff]
  constructor
  · rintro ⟨_, ⟨kind, named, rfl⟩, nonempty, rfl⟩
    exact ⟨kind, named, (filled kind).1 nonempty, rfl⟩
  · rintro ⟨kind, named, nonempty, rfl⟩
    exact ⟨_, ⟨kind, named, rfl⟩, (filled kind).2 nonempty, rfl⟩

theorem ofString_written {content : String} {entries : List (ArtifactKind × String)}
    (only : OnlyArtifacts content (Decode.written entries)) (once : (entries.map Prod.fst).Nodup)
    (filled : ∀ entry ∈ entries, entry.2 ≠ "") :
    ofString content = .ok { artifacts := ({} : ArtifactsConfig).withEntries entries } := by
  obtain ⟨form, parsed⟩ := only
  have read := Decode.foldlM_readArtifact_written entries {}
  refine (ofString_artifacts parsed).2 ⟨_, read, fun kind empty => ?_, rfl⟩
  rcases (ArtifactsConfig.sink_withEntries once).1 empty with ⟨destination, listed, same⟩ | ⟨-, configured⟩
  · exact filled _ listed (Sink.ofDestination_eq_file_empty_iff.1 same.symm)
  · cases configured

/-- An entry of the artifacts section is accepted exactly if the spec made of it is, and asks for the same.
A section asks for the same as specs for its entries, in any order. -/
theorem section_agrees (content : String) :
    (∀ name destination, OnlyArtifacts content [(name, .string destination)] → '=' ∉ name.toList →
      ((∃ config, ofString content = .ok config) ↔
        ∃ artifact, parseArtifact (name ++ "=" ++ destination) = .ok artifact) ∧
      ∀ config, ofString content = .ok config → ∃ kind sink,
        parseArtifact (name ++ "=" ++ destination) = .ok (kind, sink) ∧
          config = { artifacts := ({} : ArtifactsConfig).set kind sink } ∧
            config.artifacts.entries = [(kind, sink)]) ∧
    ∀ entries given, OnlyArtifacts content (Decode.written entries) → (entries.map Prod.fst).Nodup →
      (∀ entry ∈ entries, entry.2 ≠ "") → given.Perm (specs entries) →
      ∃ config merged, ofString content = .ok config ∧ mergeArtifacts config [] = .ok merged ∧
        mergeArtifacts {} given = .ok merged := by
  constructor
  · intro name destination only flat
    have accepted {config : Config} (loaded : ofString content = .ok config) : ∃ kind sink,
        parseArtifact (name ++ "=" ++ destination) = .ok (kind, sink) ∧
          config = { artifacts := ({} : ArtifactsConfig).set kind sink } := by
      obtain ⟨kind, named, nonempty, rfl⟩ := (ofString_entry only).1 loaded
      exact ⟨kind, _, ((asks_joined flat).2 ⟨named, nonempty, rfl⟩).parse, rfl⟩
    refine ⟨⟨?_, ?_⟩, ?_⟩
    · rintro ⟨config, loaded⟩
      obtain ⟨kind, sink, parsed, -⟩ := accepted loaded
      exact ⟨_, parsed⟩
    · rintro ⟨⟨kind, sink⟩, parsed⟩
      obtain ⟨named, nonempty, -⟩ := (asks_joined flat).1 (parseArtifact_eq_ok_iff.1 parsed)
      exact ⟨_, (ofString_entry only).2 ⟨kind, named, nonempty, rfl⟩⟩
    · intro config loaded
      obtain ⟨kind, sink, parsed, rfl⟩ := accepted loaded
      refine ⟨kind, sink, parsed, rfl, ?_⟩
      cases kind <;> rfl
  · intro entries given only once filled perm
    let config : Config := { artifacts := ({} : ArtifactsConfig).withEntries entries }
    have none : ∀ spec ∈ ([] : List String), Valid spec := nofun
    obtain ⟨merged, made, isMerged⟩ := exists_merged config none
    obtain ⟨merged', made', isMerged'⟩ := exists_merged {} (valid_of_perm filled perm)
    refine ⟨config, merged, ofString_written only once filled, made, ?_⟩
    have same : merged = merged' := by
      refine isMerged.unique isMerged' fun kind sink => ?_
      rw [counts_nil, counts_iff_of_perm once filled perm, ArtifactsConfig.sink_withEntries once]
      exact or_iff_left fun there => nomatch there.2
    rw [same]
    exact made'

/-- A dotted key, and a section whose specs are given the other way round. -/
theorem section_agrees_reordered :
    let dotted := "artifacts.\"hash\" = 'memory'"
    let section_ := "[artifacts]\nobject = \"a=b\"\nhash = 'memory'\n"
    let given := ["hash=memory", "object=a=b"]
    (∃ config, ofString dotted = .ok config ∧ config.artifacts.entries = [(.hash, .memory)]) ∧
      ∃ config merged, ofString section_ = .ok config ∧ mergeArtifacts config [] = .ok merged ∧
        mergeArtifacts {} given = .ok merged := by
  intro dotted section_ given
  have one : (Toml.parse? dotted).bind Toml.section? =
      some ("artifacts", .dotted, [("hash", "memory")]) := by decide +kernel
  have two : (Toml.parse? section_).bind Toml.section? =
      some ("artifacts", .header, [("object", "a=b"), ("hash", "memory")]) := by decide +kernel
  have only : OnlyArtifacts dotted [("hash", .string "memory")] := ⟨.dotted, Toml.parse?_of_section? one⟩
  have both : OnlyArtifacts section_ (Decode.written [(.object, "a=b"), (.hash, "memory")]) :=
    ⟨.header, Toml.parse?_of_section? two⟩
  have parsed : parseArtifact "hash=memory" = .ok (.hash, .memory) := by decide +kernel
  obtain ⟨accepts, denotes⟩ := (section_agrees dotted).1 "hash" "memory" only (by decide)
  obtain ⟨config, loaded⟩ := accepts.2 ⟨_, parsed⟩
  obtain ⟨kind, sink, parsed', -, entries⟩ := denotes config loaded
  cases Except.ok.inj (parsed.symm.trans parsed')
  exact ⟨⟨config, loaded, entries⟩,
    (section_agrees section_).2 _ given both (by decide) (by decide) (List.Perm.swap ..)⟩

end Config

end ShaderDriver
