import Mathlib.Data.List.Nodup
import Mathlib.Data.List.Perm.Basic
import ShaderDriver.Cli.Settings
import ShaderDriver.Proofs.Text.Occurrence

namespace ShaderDriver

namespace ArtifactKind

/-- What is gathered kind by kind stands in the order of kinds, each kind at most once. -/
theorem sublist_filterMap {α : Type} {gather : ArtifactKind → Option α}
    {owner : α → ArtifactKind} (owned : ∀ kind found, gather kind = some found → owner found = kind)
    (kinds : List ArtifactKind) : ((kinds.filterMap gather).map owner).Sublist kinds := by
  induction kinds with
  | nil => exact .slnil
  | cons kind kinds ih =>
    cases gathered : gather kind with
    | none =>
      rw [List.filterMap_cons_none gathered]
      exact ih.cons kind
    | some found =>
      rw [List.filterMap_cons_some gathered, List.map_cons, owned kind found gathered]
      exact ih.cons_cons kind

theorem getElem?_all {i : Nat} {kind : ArtifactKind} : all[i]? = some kind ↔ i = kind.index := by
  have there : all[kind.index]? = some kind := by cases kind <;> rfl
  constructor
  · intro found
    obtain ⟨low, found⟩ := List.getElem?_eq_some_iff.1 found
    obtain ⟨low', there⟩ := List.getElem?_eq_some_iff.1 there
    exact (all_nodup.getElem_inj_iff).1 (found.trans there.symm)
  · rintro rfl
    exact there

theorem index_injective {a b : ArtifactKind} (same : a.index = b.index) : a = b := by
  have own : all[a.index]? = some a := getElem?_all.2 rfl
  have other : all[a.index]? = some b := getElem?_all.2 same
  exact Option.some.inj (own.symm.trans other)

/-- Entries in the order of kinds, each kind at most once, are given by which entries there are. -/
theorem entries_unique {α : Type} {one other : List (ArtifactKind × α)}
    (ordered : (one.map Prod.fst).Sublist all) (ordered' : (other.map Prod.fst).Sublist all)
    (same : ∀ entry, entry ∈ one ↔ entry ∈ other) : one = other := by
  have sorted : all.Pairwise fun a b => a.index < b.index := by decide
  have pairwise {list : List (ArtifactKind × α)} (ordered : (list.map Prod.fst).Sublist all) :
      list.Pairwise fun a b => a.1.index < b.1.index := by
    have kinds := sorted.sublist ordered
    rwa [List.pairwise_map] at kinds
  have nodup {list : List (ArtifactKind × α)} (ordered : (list.map Prod.fst).Sublist all) : list.Nodup :=
    (pairwise ordered).imp fun {a b} before same => by
      rw [same] at before
      exact Nat.lt_irrefl _ before
  have perm : one.Perm other := (List.perm_ext_iff_of_nodup (nodup ordered) (nodup ordered')).2 same
  refine perm.eq_of_pairwise (fun a b _ _ before after => ?_) (pairwise ordered) (pairwise ordered')
  exact absurd (Nat.lt_trans before after) (Nat.lt_irrefl _)

end ArtifactKind

namespace ArtifactsConfig

theorem mem_entries {artifacts : ArtifactsConfig} {kind : ArtifactKind} {sink : Sink} :
    (kind, sink) ∈ artifacts.entries ↔ artifacts.sink kind = some sink := by
  simp only [entries, List.mem_filterMap, Option.map_eq_some_iff]
  constructor
  · rintro ⟨other, -, found, asked, same⟩
    cases same
    exact asked
  · intro asked
    exact ⟨kind, kind.mem_all, sink, asked, rfl⟩

/-- Each kind is listed at most once, in the order of kinds. -/
theorem kinds_entries (artifacts : ArtifactsConfig) :
    (artifacts.entries.map Prod.fst).Sublist ArtifactKind.all := by
  refine ArtifactKind.sublist_filterMap (fun kind entry listed => ?_) ArtifactKind.all
  obtain ⟨sink, -, rfl⟩ := Option.map_eq_some_iff.1 listed
  rfl

end ArtifactsConfig

namespace Settings

/-- The first `=` of a spec stands between name and destination. -/
def Parted (spec name destination : String) : Prop :=
  Text.FirstAt ['='] spec.toList name.toList destination.toList

/-- A spec that names a kind and where its artifact goes: a word for memory, or else a file. -/
inductive Asks (spec : String) : ArtifactKind → Sink → Prop
  | memory {kind : ArtifactKind} : Parted spec kind.name "memory" → Asks spec kind .memory
  | file {kind : ArtifactKind} {destination : String} : Parted spec kind.name destination →
      destination ≠ "" → destination ≠ "memory" → Asks spec kind (.file destination)

/-- A spec that cannot be read, with the words for it. -/
inductive Refused (spec : String) : String → Prop
  | unparted : '=' ∉ spec.toList → Refused spec ("artifact `" ++ spec ++ "` is not of the form KIND=DEST")
  | unknown {name destination : String} : Parted spec name destination →
      (∀ kind : ArtifactKind, name ≠ kind.name) → Refused spec ("unknown artifact kind `" ++ name ++ "`")
  | empty {kind : ArtifactKind} : Parted spec kind.name "" →
      Refused spec ("artifact `" ++ spec ++ "` has an empty destination")

theorem Asks.parse {spec : String} {kind : ArtifactKind} {sink : Sink} (asks : Asks spec kind sink) :
    parseArtifact spec = .ok (kind, sink) := by
  have known : ArtifactKind.ofName? kind.name = some kind := ArtifactKind.ofName?_eq_some_iff.2 rfl
  cases asks with
  | memory parted =>
    rw [parseArtifact, Text.splitFirst_eq_some_iff.2 parted]
    simp only [String.ofList_toList, known]
    rfl
  | @file destination parted nonempty notMemory =>
    have some : destination.toList.isEmpty = false := by
      rw [List.isEmpty_eq_false_iff]
      exact mt String.toList_eq_nil_iff.1 nonempty
    rw [parseArtifact, Text.splitFirst_eq_some_iff.2 parted]
    simp only [String.ofList_toList, known, some, Bool.false_eq_true, if_false, Sink.ofDestination,
      if_neg notMemory]

theorem Refused.parse {spec reason : String} (refused : Refused spec reason) :
    parseArtifact spec = .error reason := by
  cases refused with
  | unparted missing =>
    have unsplit : Text.splitFirst ['='] spec.toList = none := by
      rw [Text.splitFirst_eq_none_iff, Text.single_infix_iff]
      exact missing
    rw [parseArtifact, unsplit]
  | @unknown name _ parted unknown =>
    have unnamed : ArtifactKind.ofName? name = none := by
      rw [Option.eq_none_iff_forall_ne_some]
      intro kind found
      exact unknown kind (ArtifactKind.ofName?_eq_some_iff.1 found)
    rw [parseArtifact, Text.splitFirst_eq_some_iff.2 parted]
    dsimp only
    rw [String.ofList_toList, unnamed]
    dsimp only [ArtifactKind.unknownText]
  | @empty kind parted =>
    have known : ArtifactKind.ofName? kind.name = some kind := ArtifactKind.ofName?_eq_some_iff.2 rfl
    rw [parseArtifact, Text.splitFirst_eq_some_iff.2 parted]
    simp only [String.ofList_toList, known]
    rfl

/-- Every spec asks for something or is refused. -/
theorem asks_or_refused (spec : String) :
    (∃ kind sink, Asks spec kind sink) ∨ ∃ reason, Refused spec reason := by
  by_cases parted : '=' ∈ spec.toList
  · have split : Text.splitFirst ['='] spec.toList ≠ none := by
      rw [ne_eq, Text.splitFirst_eq_none_iff, Text.single_infix_iff, not_not]
      exact parted
    obtain ⟨⟨name, destination⟩, found⟩ := Option.ne_none_iff_exists'.1 split
    have first : Parted spec (String.ofList name) (String.ofList destination) := by
      have at_ := Text.splitFirst_eq_some_iff.1 found
      rwa [Parted, String.toList_ofList, String.toList_ofList]
    by_cases known : ∃ kind : ArtifactKind, String.ofList name = kind.name
    · obtain ⟨kind, same⟩ := known
      rw [same] at first
      by_cases empty : String.ofList destination = ""
      · rw [empty] at first
        exact .inr ⟨_, .empty first⟩
      by_cases memory : String.ofList destination = "memory"
      · rw [memory] at first
        exact .inl ⟨kind, .memory, .memory first⟩
      · exact .inl ⟨kind, .file _, .file first empty memory⟩
    · exact .inr ⟨_, .unknown first fun kind same => known ⟨kind, same⟩⟩
  · exact .inr ⟨_, .unparted parted⟩

theorem parseArtifact_eq_ok_iff {spec : String} {kind : ArtifactKind} {sink : Sink} :
    parseArtifact spec = .ok (kind, sink) ↔ Asks spec kind sink := by
  refine ⟨fun parsed => ?_, Asks.parse⟩
  rcases asks_or_refused spec with ⟨kind', sink', asks⟩ | ⟨reason, refused⟩
  · rw [asks.parse] at parsed
    cases parsed
    exact asks
  · rw [refused.parse] at parsed
    cases parsed

theorem parseArtifact_eq_error_iff {spec reason : String} :
    parseArtifact spec = .error reason ↔ Refused spec reason := by
  refine ⟨fun parsed => ?_, Refused.parse⟩
  rcases asks_or_refused spec with ⟨kind, sink, asks⟩ | ⟨reason', refused⟩
  · rw [asks.parse] at parsed
    cases parsed
  · rw [refused.parse] at parsed
    cases parsed
    exact refused

theorem Asks.unique {spec : String} {kind kind' : ArtifactKind} {sink sink' : Sink}
    (asks : Asks spec kind sink) (asks' : Asks spec kind' sink') : kind = kind' ∧ sink = sink' := by
  have same := asks.parse.symm.trans asks'.parse
  cases same
  exact ⟨rfl, rfl⟩

theorem Refused.not_asks {spec reason : String} (refused : Refused spec reason) {kind : ArtifactKind}
    {sink : Sink} : ¬ Asks spec kind sink := by
  intro asks
  have same := refused.parse.symm.trans asks.parse
  cases same

/-- A spec that can be read. -/
def Valid (spec : String) : Prop := ∃ kind sink, Asks spec kind sink

theorem valid_iff {spec : String} :
    Valid spec ↔ ∃ (kind : ArtifactKind) (destination : String), Parted spec kind.name destination ∧
      destination ≠ "" := by
  constructor
  · rintro ⟨kind, sink, asks⟩
    cases asks with
    | memory parted => exact ⟨kind, _, parted, by decide⟩
    | file parted nonempty _ => exact ⟨kind, _, parted, nonempty⟩
  · rintro ⟨kind, destination, parted, nonempty⟩
    by_cases memory : destination = "memory"
    · rw [memory] at parted
      exact ⟨kind, .memory, .memory parted⟩
    · exact ⟨kind, .file destination, .file parted nonempty memory⟩

theorem not_valid_iff {spec : String} : ¬ Valid spec ↔ ∃ reason, Refused spec reason := by
  constructor
  · intro invalid
    exact (asks_or_refused spec).resolve_left invalid
  · rintro ⟨reason, refused⟩ ⟨kind, sink, asks⟩
    exact refused.not_asks asks

/-- The first spec that cannot be read is refused with these words. -/
def FirstRefused (specs : List String) (reason : String) : Prop :=
  ∃ before spec after, specs = before ++ spec :: after ∧ (∀ earlier ∈ before, Valid earlier) ∧
    Refused spec reason

/-- Of the specs that name a kind the last one asks for a sink. -/
def LastAsks (specs : List String) (kind : ArtifactKind) (sink : Sink) : Prop :=
  ∃ before spec after, specs = before ++ spec :: after ∧ Asks spec kind sink ∧
    ∀ later ∈ after, ∀ other, ¬ Asks later kind other

/-- No spec names the kind. -/
def Unnamed (specs : List String) (kind : ArtifactKind) : Prop :=
  ∀ spec ∈ specs, ∀ sink, ¬ Asks spec kind sink

/-- The sink that counts for a kind: that of the last spec that names it, else the configured one. -/
def Counts (artifacts : ArtifactsConfig) (specs : List String) (kind : ArtifactKind) (sink : Sink) : Prop :=
  LastAsks specs kind sink ∨ Unnamed specs kind ∧ artifacts.sink kind = some sink

section Concat

variable {specs : List String} {spec : String} {kind : ArtifactKind}

theorem unnamed_concat :
    Unnamed (specs ++ [spec]) kind ↔ Unnamed specs kind ∧ ∀ sink, ¬ Asks spec kind sink := by
  simp [Unnamed, or_imp, forall_and]

theorem lastAsks_concat {sink : Sink} :
    LastAsks (specs ++ [spec]) kind sink ↔
      Asks spec kind sink ∨ LastAsks specs kind sink ∧ ∀ other, ¬ Asks spec kind other := by
  constructor
  · rintro ⟨before, found, after, whole, asks, last⟩
    rcases List.eq_nil_or_concat' after with rfl | ⟨after, later, rfl⟩
    · obtain ⟨rfl, rfl⟩ := List.append_inj' whole rfl |>.imp_right (List.cons.inj · |>.1)
      exact .inl asks
    · have whole' : specs ++ [spec] = (before ++ found :: after) ++ [later] := by
        rw [whole, List.append_assoc, List.cons_append]
      obtain ⟨rfl, same⟩ := List.append_inj' whole' rfl
      cases same
      have others := fun earlier member => last earlier (List.mem_append_left _ member)
      exact .inr ⟨⟨before, found, after, rfl, asks, others⟩, last spec (by simp)⟩
  · rintro (asks | ⟨⟨before, found, after, rfl, asks, last⟩, silent⟩)
    · exact ⟨specs, spec, [], rfl, asks, nofun⟩
    · refine ⟨before, found, after ++ [spec], by simp, asks, fun later member => ?_⟩
      rcases List.mem_append.1 member with earlier | same
      · exact last later earlier
      · rw [List.mem_singleton.1 same]
        exact silent

end Concat

/-- If a spec names a kind, one of them is the last. -/
theorem exists_lastAsks {specs : List String} {kind : ArtifactKind} (named : ¬ Unnamed specs kind) :
    ∃ sink, LastAsks specs kind sink := by
  induction specs using List.reverseRecOn with
  | nil => exact absurd nofun named
  | append_singleton specs spec ih =>
    simp only [lastAsks_concat]
    by_cases asked : ∃ sink, Asks spec kind sink
    · obtain ⟨sink, asks⟩ := asked
      exact ⟨sink, .inl asks⟩
    · have silent : ∀ sink, ¬ Asks spec kind sink := not_exists.1 asked
      have before : ¬ Unnamed specs kind := fun unnamed => named (unnamed_concat.2 ⟨unnamed, silent⟩)
      obtain ⟨sink, last⟩ := ih before
      exact ⟨sink, .inr ⟨last, silent⟩⟩

theorem LastAsks.named {specs : List String} {kind : ArtifactKind} {sink : Sink}
    (last : LastAsks specs kind sink) : ¬ Unnamed specs kind := by
  obtain ⟨before, spec, after, rfl, asks, -⟩ := last
  exact fun unnamed => unnamed spec (by simp) sink asks

/-- A sink counts for the kinds that are configured or named, and for no others. -/
theorem exists_counts_iff {artifacts : ArtifactsConfig} {specs : List String} {kind : ArtifactKind} :
    (∃ sink, Counts artifacts specs kind sink) ↔ (artifacts.sink kind).isSome ∨ ¬ Unnamed specs kind := by
  constructor
  · rintro ⟨sink, last | ⟨-, configured⟩⟩
    · exact .inr last.named
    · exact .inl (Option.isSome_iff_exists.2 ⟨sink, configured⟩)
  · intro there
    by_cases unnamed : Unnamed specs kind
    · obtain ⟨sink, configured⟩ := Option.isSome_iff_exists.1 (there.resolve_right (not_not_intro unnamed))
      exact ⟨sink, .inr ⟨unnamed, configured⟩⟩
    · obtain ⟨sink, last⟩ := exists_lastAsks unnamed
      exact ⟨sink, .inl last⟩

/-- The slots of artifacts that are what counts after some specs. -/
def Holds (artifacts : ArtifactsConfig) (specs : List String) (slots : List (Option Sink)) : Prop :=
  ∃ merged : ArtifactsConfig, slots = merged.slots ∧
    ∀ kind sink, merged.sink kind = some sink ↔ Counts artifacts specs kind sink

theorem holds_nil (artifacts : ArtifactsConfig) : Holds artifacts [] artifacts.slots := by
  refine ⟨artifacts, rfl, fun kind sink => ?_⟩
  have none : ¬ LastAsks [] kind sink := by
    rintro ⟨before, spec, after, whole, -⟩
    cases before <;> cases whole
  simp [Counts, none, Unnamed]

/-- Filling the slot of a kind changes the sink of this kind. -/
theorem slots_set (artifacts : ArtifactsConfig) (kind : ArtifactKind) (sink : Sink) :
    artifacts.slots.set kind.index (some sink) = (artifacts.set kind sink).slots := by
  apply List.ext_getElem?
  intro i
  simp only [ArtifactsConfig.slots, List.getElem?_set, List.length_map, List.getElem?_map]
  by_cases here : kind.index = i
  · subst here
    have there : ArtifactKind.all[kind.index]? = some kind := ArtifactKind.getElem?_all.2 rfl
    obtain ⟨low, own⟩ := List.getElem?_eq_some_iff.1 there
    simp [low, own, ArtifactsConfig.set]
  · rw [if_neg here]
    cases there : ArtifactKind.all[i]? with
    | none => rfl
    | some other =>
      have apart : other ≠ kind := by
        rintro rfl
        exact here (ArtifactKind.getElem?_all.1 there).symm
      simp [ArtifactsConfig.set, apart]

theorem override_of_asks {spec : String} {kind : ArtifactKind} {sink : Sink} (asks : Asks spec kind sink)
    (slots : List (Option Sink)) : override slots spec = .ok (slots.set kind.index (some sink)) := by
  rw [override, asks.parse]
  rfl

theorem override_of_refused {spec reason : String} (refused : Refused spec reason)
    (slots : List (Option Sink)) : override slots spec = .error reason := by
  rw [override, refused.parse]
  rfl

/-- One more spec keeps the slots at what counts. -/
theorem Holds.override {artifacts : ArtifactsConfig} {specs : List String} {slots : List (Option Sink)}
    (holds : Holds artifacts specs slots) {spec : String} {kind : ArtifactKind} {sink : Sink}
    (asks : Asks spec kind sink) :
    Holds artifacts (specs ++ [spec]) (slots.set kind.index (some sink)) := by
  obtain ⟨merged, rfl, counts⟩ := holds
  refine ⟨merged.set kind sink, slots_set merged kind sink, fun other goal => ?_⟩
  unfold Counts
  rw [lastAsks_concat, unnamed_concat]
  by_cases same : other = kind
  · subst same
    have only : Asks spec other goal ↔ sink = goal :=
      ⟨fun asks' => (asks.unique asks').2, fun same => same ▸ asks⟩
    have named : ¬ ∀ sink, ¬ Asks spec other sink := fun silent => silent sink asks
    simp [ArtifactsConfig.set, only, named]
  · have silent : ∀ sink, ¬ Asks spec other sink := fun _ asks' => same (asks'.unique asks).1
    have kept : (merged.set kind sink).sink other = merged.sink other := if_neg same
    rw [kept, counts other goal, Counts]
    simp [silent]

/-- After all specs the slots are at what counts, or the first one that cannot be read refuses. -/
theorem foldlM_override (artifacts : ArtifactsConfig) (specs : List String) :
    (∃ slots, specs.foldlM override artifacts.slots = .ok slots ∧ (∀ spec ∈ specs, Valid spec) ∧
      Holds artifacts specs slots) ∨
    ∃ reason, specs.foldlM override artifacts.slots = .error reason ∧ FirstRefused specs reason := by
  induction specs using List.reverseRecOn with
  | nil => exact .inl ⟨_, rfl, nofun, holds_nil artifacts⟩
  | append_singleton specs spec ih =>
    rw [List.foldlM_append]
    rcases ih with ⟨slots, made, valid, holds⟩ | ⟨reason, failed, before, first, after, rfl, valid, refused⟩
    · rw [made]
      rcases asks_or_refused spec with ⟨kind, sink, asks⟩ | ⟨reason, refused⟩
      · refine .inl ⟨_, ?_, ?_, holds.override asks⟩
        · change (override slots spec >>= fun slots => pure slots) = _
          rw [override_of_asks asks]
          rfl
        · intro other member
          rcases List.mem_append.1 member with earlier | same
          · exact valid other earlier
          · rw [List.mem_singleton.1 same]
            exact ⟨kind, sink, asks⟩
      · refine .inr ⟨reason, ?_, specs, spec, [], rfl, valid, refused⟩
        change (override slots spec >>= fun slots => pure slots) = _
        rw [override_of_refused refused]
        rfl
    · rw [failed]
      exact .inr ⟨reason, rfl, before, first, after ++ [spec], by simp, valid, refused⟩

theorem filled_slots (artifacts : ArtifactsConfig) : filled artifacts.slots = artifacts.entries := by
  rw [filled, ArtifactsConfig.slots, ← List.map_prod_left_eq_zip, List.filterMap_map]
  rfl

/-- The artifacts that are to be made: in the order of kinds, each kind at most once, those that are
configured or named, and of each the sink that counts. -/
structure Merged (config : Config) (specs : List String) (merged : List (ArtifactKind × Sink)) : Prop where
  ordered : (merged.map Prod.fst).Sublist ArtifactKind.all
  present (kind : ArtifactKind) :
    kind ∈ merged.map Prod.fst ↔ (config.artifacts.sink kind).isSome ∨ ¬ Unnamed specs kind
  counts (kind : ArtifactKind) (sink : Sink) : (kind, sink) ∈ merged ↔ Counts config.artifacts specs kind sink

theorem Merged.unique {config config' : Config} {specs specs' : List String}
    {merged merged' : List (ArtifactKind × Sink)} (one : Merged config specs merged)
    (other : Merged config' specs' merged')
    (same : ∀ kind sink, Counts config.artifacts specs kind sink ↔ Counts config'.artifacts specs' kind sink) :
    merged = merged' :=
  ArtifactKind.entries_unique one.ordered other.ordered fun (kind, sink) =>
    (one.counts kind sink).trans ((same kind sink).trans (other.counts kind sink).symm)

theorem mergeArtifacts_cases (config : Config) (specs : List String) :
    (∃ artifacts : ArtifactsConfig, mergeArtifacts config specs = .ok artifacts.entries ∧
      (∀ spec ∈ specs, Valid spec) ∧ Merged config specs artifacts.entries) ∨
    ∃ reason, mergeArtifacts config specs = .error reason ∧ FirstRefused specs reason := by
  unfold mergeArtifacts
  rcases foldlM_override config.artifacts specs with
    ⟨slots, made, valid, merged, rfl, counts⟩ | ⟨reason, failed, refused⟩
  · refine .inl ⟨merged, ?_, valid, merged.kinds_entries, fun kind => ?_, fun kind sink => ?_⟩
    · rw [made, ← filled_slots]
      rfl
    · simp only [List.mem_map, Prod.exists, exists_and_right, exists_eq_right, ArtifactsConfig.mem_entries,
        counts, exists_counts_iff]
    · rw [ArtifactsConfig.mem_entries, counts]
  · rw [failed]
    exact .inr ⟨reason, rfl, refused⟩

theorem FirstRefused.not_valid {specs : List String} {reason : String} (refused : FirstRefused specs reason) :
    ∃ spec ∈ specs, ¬ Valid spec := by
  obtain ⟨before, spec, after, rfl, -, refused⟩ := refused
  exact ⟨spec, by simp, not_valid_iff.2 ⟨reason, refused⟩⟩

theorem FirstRefused.mergeArtifacts {specs : List String} {reason : String}
    (refused : FirstRefused specs reason) (config : Config) : mergeArtifacts config specs = .error reason := by
  obtain ⟨before, spec, after, rfl, valid, refused⟩ := refused
  rw [Settings.mergeArtifacts, List.foldlM_append]
  rcases foldlM_override config.artifacts before with ⟨slots, made, -, -⟩ | ⟨reason', -, earlier⟩
  · rw [made]
    change ((override slots spec >>= fun slots => after.foldlM override slots) >>= fun slots =>
      pure (filled slots)) = _
    rw [override_of_refused refused]
    rfl
  · obtain ⟨first, member, invalid⟩ := earlier.not_valid
    exact absurd (valid first member) invalid

theorem mergeArtifacts_eq_ok_iff {config : Config} {specs : List String}
    {merged : List (ArtifactKind × Sink)} :
    mergeArtifacts config specs = .ok merged ↔ (∀ spec ∈ specs, Valid spec) ∧ Merged config specs merged := by
  rcases mergeArtifacts_cases config specs with ⟨artifacts, given, valid, there⟩ | ⟨reason, failed, refused⟩
  · rw [given]
    constructor
    · rintro ⟨⟩
      exact ⟨valid, there⟩
    · rintro ⟨-, here⟩
      rw [there.unique here fun _ _ => Iff.rfl]
  · obtain ⟨spec, member, invalid⟩ := refused.not_valid
    rw [failed]
    exact iff_of_false nofun fun given => invalid (given.1 spec member)

theorem mergeArtifacts_eq_error_iff {config : Config} {specs : List String} {reason : String} :
    mergeArtifacts config specs = .error reason ↔ FirstRefused specs reason := by
  refine ⟨fun failed => ?_, fun refused => refused.mergeArtifacts config⟩
  rcases mergeArtifacts_cases config specs with ⟨artifacts, given, -, -⟩ | ⟨reason', failed', refused⟩
  · rw [given] at failed
    cases failed
  · rw [failed'] at failed
    cases failed
    exact refused

/-- Specs for different kinds fill different slots, in whichever order. -/
theorem mergeArtifacts_swap {one other : String} {kind kind' : ArtifactKind} {sink sink' : Sink}
    (asks : Asks one kind sink) (asks' : Asks other kind' sink') (different : kind ≠ kind') (config : Config)
    (before after : List String) :
    mergeArtifacts config (before ++ other :: one :: after) =
      mergeArtifacts config (before ++ one :: other :: after) := by
  have commute (slots : List (Option Sink)) :
      (other :: one :: after).foldlM override slots = (one :: other :: after).foldlM override slots := by
    have apart : kind.index ≠ kind'.index := fun same => different (ArtifactKind.index_injective same)
    simp only [List.foldlM_cons, override_of_asks asks, override_of_asks asks', bind, Except.bind]
    rw [List.set_comm _ _ apart]
  simp only [mergeArtifacts, List.foldlM_append, commute]

/-- A spec is read at its first `=`. The first spec that cannot be read refuses all of them; otherwise each
kind has the sink of the last spec that names it, or the configured one. Neighbouring specs for different
kinds may change places. -/
theorem mergeArtifacts_merges (config : Config) (specs : List String) :
    (∀ spec, Valid spec ↔ ∃ (kind : ArtifactKind) (destination : String),
      Parted spec kind.name destination ∧ destination ≠ "") ∧
    (∀ spec kind sink, parseArtifact spec = .ok (kind, sink) ↔ Asks spec kind sink) ∧
    (∀ spec reason, parseArtifact spec = .error reason ↔ Refused spec reason) ∧
    (∀ reason, mergeArtifacts config specs = .error reason ↔ FirstRefused specs reason) ∧
    ((∃ reason, mergeArtifacts config specs = .error reason) ↔ ∃ spec ∈ specs, ¬ Valid spec) ∧
    (∀ merged, mergeArtifacts config specs = .ok merged ↔
      (∀ spec ∈ specs, Valid spec) ∧ Merged config specs merged) ∧
    ∀ before one other after kind kind' sink sink', specs = before ++ one :: other :: after →
      Asks one kind sink → Asks other kind' sink' → kind ≠ kind' →
      mergeArtifacts config (before ++ other :: one :: after) = mergeArtifacts config specs := by
  refine ⟨fun _ => valid_iff, fun _ _ _ => parseArtifact_eq_ok_iff, fun _ _ => parseArtifact_eq_error_iff,
    fun _ => mergeArtifacts_eq_error_iff, ?_, fun _ => mergeArtifacts_eq_ok_iff, ?_⟩
  · constructor
    · rintro ⟨reason, failed⟩
      exact (mergeArtifacts_eq_error_iff.1 failed).not_valid
    · rintro ⟨spec, member, invalid⟩
      rcases mergeArtifacts_cases config specs with ⟨artifacts, -, valid, -⟩ | ⟨reason, failed, -⟩
      · exact absurd (valid spec member) invalid
      · exact ⟨reason, failed⟩
  · rintro before one other after kind kind' sink sink' rfl asks asks' different
    exact mergeArtifacts_swap asks asks' different config before after

/-- A spec for the hash changes places with one for the object, which another one overrides. -/
theorem mergeArtifacts_merges_overridden :
    let config : Config := { artifacts := ({} : ArtifactsConfig).set .reflection (.file "r") }
    let merged : List (ArtifactKind × Sink) := [(.object, .memory), (.reflection, .file "r"), (.hash, .file "h")]
    Asks "object=a=b" .object (.file "a=b") ∧ Asks "hash=h" .hash (.file "h") ∧
      mergeArtifacts config ["object=a=b", "hash=h", "object=memory"] = .ok merged ∧
      mergeArtifacts config ["hash=h", "object=a=b", "object=memory"] = .ok merged := by
  intro config merged
  have given : mergeArtifacts config ["object=a=b", "hash=h", "object=memory"] = .ok merged := by
    decide +kernel
  obtain ⟨-, reads, -, -, -, -, swap⟩ := mergeArtifacts_merges config ["object=a=b", "hash=h", "object=memory"]
  have asks : Asks "object=a=b" .object (.file "a=b") := (reads _ _ _).1 (by decide +kernel)
  have asks' : Asks "hash=h" .hash (.file "h") := (reads _ _ _).1 (by decide +kernel)
  have swapped := swap [] "object=a=b" "hash=h" ["object=memory"] _ _ _ _ rfl asks asks' (by decide)
  exact ⟨asks, asks', given, swapped.trans given⟩

end Settings

end ShaderDriver
