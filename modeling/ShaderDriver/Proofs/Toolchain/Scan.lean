import ShaderDriver.Proofs.Toolchain.Installation

namespace ShaderDriver

theorem Version.parse_eq_ok {s : String} {v : Version} : parse s = .ok v ↔ read? s = some v := by
  unfold parse
  cases read? s <;> simp

namespace Installation

/-- A name in the root is that of an installation of the version: it spells the version behind `dxc-`, and
there is a compiler below it. -/
structure Installs (world : World) (root : String) (v : Version) (name : String) : Prop where
  named : ∃ text, name = "dxc-" ++ text ∧ Version.parse text = .ok v
  runs : world.isFile (binary (Path.join root name)) = true

theorem versionOf?_eq_some_iff {name : String} {v : Version} :
    versionOf? name = some v ↔ ∃ text, name = "dxc-" ++ text ∧ Version.parse text = .ok v := by
  unfold versionOf?
  rw [Option.bind_eq_some_iff]
  simp only [Text.strip?_toList, Version.parse_eq_ok]
  constructor
  · rintro ⟨rest, whole, read⟩
    exact ⟨_, whole, read⟩
  · rintro ⟨text, whole, read⟩
    exact ⟨text.toList, by rwa [String.ofList_toList], by rwa [String.ofList_toList]⟩

section Installs

variable {world other : World} {root : String} {v : Version} {name : String} {names found : List String}

theorem installs_iff : Installs world root v name ↔
    versionOf? name = some v ∧ world.isFile (binary (Path.join root name)) = true := by
  rw [versionOf?_eq_some_iff]
  exact ⟨fun installs => ⟨installs.named, installs.runs⟩, fun ⟨named, runs⟩ => ⟨named, runs⟩⟩

instance (world : World) (root : String) (v : Version) (name : String) :
    Decidable (Installs world root v name) :=
  decidable_of_iff _ installs_iff.symm

/-- The version that a name in the root is an installation of. -/
def installed? (world : World) (root name : String) : Option Version :=
  (versionOf? name).filter fun _ => world.isFile (binary (Path.join root name))

theorem installed?_eq_some_iff : installed? world root name = some v ↔ Installs world root v name := by
  rw [installed?, Option.filter_eq_some_iff, installs_iff]

theorem versions_of_listed (listed : world.listDirectory root = .ok names) :
    versions world root = .ok (Version.newestFirst id (names.filterMap (installed? world root))) := by
  rw [versions, listed]
  rfl

/-- Each version is reported as often as names in the root are installations of it. -/
theorem count_installed (names : List String) :
    (Version.newestFirst id (names.filterMap (installed? world root))).count v =
      names.countP fun name => Installs world root v name := by
  rw [(Version.newestFirst_perm id _).count_eq, List.count_filterMap]
  refine List.countP_congr fun name _ => ?_
  rw [beq_iff_eq, installed?_eq_some_iff, decide_eq_true_eq]

/-- The latest version is the greatest of those that are reported, and there is none if none is. -/
theorem latest_of_versions {found : List Version} (scanned : versions world root = .ok found)
    (sorted : found.Pairwise fun newer older => older ≤ newer) :
    (∀ v, latest world root = .ok v ↔ v ∈ found ∧ ∀ other ∈ found, other ≤ v) ∧
      (latest world root = .error .noReleases ↔ found = []) := by
  cases found with
  | nil =>
    have none : latest world root = .error .noReleases := by
      rw [latest, scanned]
      rfl
    simp [none]
  | cons newest older =>
    have first : latest world root = .ok newest := by
      rw [latest, scanned]
      rfl
    have bounded : ∀ v ∈ newest :: older, v ≤ newest := fun v member =>
      @Version.head_newest Version id newest v older sorted member
    refine ⟨fun v => ?_, by simp [first]⟩
    rw [first, Except.ok.injEq]
    constructor
    · rintro rfl
      exact ⟨List.mem_cons_self, bounded⟩
    · rintro ⟨member, greatest⟩
      exact Version.le_antisymm (greatest newest List.mem_cons_self) (bounded v member)

theorem no_installation_iff : names.filterMap (installed? world root) = [] ↔
    ∀ name ∈ names, ∀ v, ¬ Installs world root v name := by
  rw [List.filterMap_eq_nil_iff]
  refine forall₂_congr fun name _ => ?_
  rw [Option.eq_none_iff_forall_ne_some]
  exact forall_congr' fun v => not_congr installed?_eq_some_iff

/-- Worlds with one root are scanned alike if they list the same names, in any order, and the same names have
a compiler. -/
theorem scanned_alike {names' : List String} (listed : world.listDirectory root = .ok names)
    (listed' : other.listDirectory root = .ok names') (perm : names'.Perm names)
    (same : ∀ name ∈ names, other.isFile (binary (Path.join root name)) =
      world.isFile (binary (Path.join root name))) :
    versions other root = versions world root ∧ latest other root = latest world root := by
  have alike : names.filterMap (installed? other root) = names.filterMap (installed? world root) := by
    refine List.filterMap_congr fun name among => ?_
    rw [installed?, installed?, same name among]
  have reordered := perm.filterMap (installed? other root)
  rw [alike] at reordered
  have equal : versions other root = versions world root := by
    rw [versions_of_listed listed, versions_of_listed listed']
    exact congrArg _ (Version.newestFirst_eq_of_perm reordered fun _ _ _ _ equal => equal)
  exact ⟨equal, by rw [latest, latest, equal]⟩

end Installs

end Installation

namespace Tree

/-- What is looked up in a list without repeated keys is what the list has under the key. -/
theorem lookup_eq_some_iff_mem {entries : List (Place × Entry)} (distinct : (entries.map Prod.fst).Nodup)
    {place : Place} {entry : Entry} :
    entries.lookup place = some entry ↔ (place, entry) ∈ entries := by
  rw [List.lookup_eq_some_iff]
  constructor
  · rintro ⟨before, after, rfl, -⟩
    exact List.mem_append_right before List.mem_cons_self
  · intro member
    obtain ⟨before, after, rfl⟩ := List.append_of_mem member
    refine ⟨before, after, rfl, fun earlier among => ?_⟩
    rw [List.map_append, List.nodup_append] at distinct
    have apart := distinct.2.2 earlier.1 (List.mem_map_of_mem among) place List.mem_cons_self
    exact bne_iff_ne.2 apart.symm

theorem find?_perm {tree : Tree} {entries : List (Place × Entry)} (perm : entries.Perm tree.entries)
    (distinct : (tree.entries.map Prod.fst).Nodup) (place : Place) :
    Tree.find? ⟨entries⟩ place = tree.find? place := by
  cases place with
  | nil => rfl
  | cons name above =>
    have distinct' : (entries.map Prod.fst).Nodup := (perm.map Prod.fst).nodup_iff.2 distinct
    refine Option.ext fun entry => ?_
    rw [Tree.find?_cons, Tree.find?_cons, lookup_eq_some_iff_mem distinct,
      lookup_eq_some_iff_mem distinct', perm.mem_iff]

end Tree

namespace World

/-- The world with the entries of its tree listed in another order. -/
def reordered (world : World) (entries : List (Place × Entry)) : World :=
  { world with tree := ⟨entries⟩ }

section Reordered

variable {world : World} {entries : List (Place × Entry)} {path : String}

theorem samePlaces_reordered (perm : entries.Perm world.tree.entries)
    (distinct : (world.tree.entries.map Prod.fst).Nodup) : SamePlaces world (world.reordered entries) :=
  samePlaces_of_directories fun place => by rw [Tree.find?_perm perm distinct]

theorem isFile_reordered (perm : entries.Perm world.tree.entries)
    (distinct : (world.tree.entries.map Prod.fst).Nodup) :
    (world.reordered entries).isFile path = world.isFile path := by
  have kept (place : Place) : (world.reordered entries).tree.find? place = world.tree.find? place :=
    Tree.find?_perm perm distinct place
  rw [isFile_eq_found, isFile_eq_found, found_congr (samePlaces_reordered perm distinct)
    fun place _ => kept place]

theorem listDirectory_reordered {names : List String} (perm : entries.Perm world.tree.entries)
    (distinct : (world.tree.entries.map Prod.fst).Nodup) (listed : world.listDirectory path = .ok names) :
    ∃ names', (world.reordered entries).listDirectory path = .ok names' ∧ names'.Perm names := by
  obtain ⟨place, located, directory, rfl⟩ := listDirectory_eq_ok.1 listed
  have located' := (samePlaces_reordered perm distinct path place).1 located
  have directory' := Tree.find?_perm perm distinct place
  rw [directory] at directory'
  exact ⟨_, listDirectory_eq_ok.2 ⟨place, located', directory', rfl⟩, perm.filterMap _⟩

end Reordered

end World

namespace Installation

/-- A scan that is not disturbed reports, newest first, each version as often as names in the root are
installations of it, whatever the order in which they are listed. The latest version is the greatest of
them, and there is none exactly if there is no installation. -/
theorem versions_counted {world : World} {root : String} {names : List String}
    (listed : world.listDirectory root = .ok names) :
    ∃ found, versions world root = .ok found ∧
      (found.Pairwise fun newer older => older ≤ newer) ∧
      (∀ v, found.count v = names.countP fun name => Installs world root v name) ∧
      (∀ v, latest world root = .ok v ↔ v ∈ found ∧ ∀ other ∈ found, other ≤ v) ∧
      (latest world root = .error .noReleases ↔ ∀ name ∈ names, ∀ v, ¬ Installs world root v name) ∧
      (∀ other names', other.listDirectory root = .ok names' → names'.Perm names →
        (∀ name ∈ names, other.isFile (binary (Path.join root name)) =
          world.isFile (binary (Path.join root name))) →
        versions other root = versions world root ∧ latest other root = latest world root) ∧
      (∀ entries, (world.tree.entries.map Prod.fst).Nodup → entries.Perm world.tree.entries →
        versions (world.reordered entries) root = versions world root ∧
          latest (world.reordered entries) root = latest world root) := by
  have scanned := versions_of_listed listed
  have sorted := Version.newestFirst_sorted id (names.filterMap (installed? world root))
  obtain ⟨greatest, nothing⟩ := latest_of_versions scanned sorted
  refine ⟨_, scanned, sorted, fun v => count_installed names, greatest, ?_, ?_, ?_⟩
  · rw [nothing, Version.newestFirst_eq_nil, no_installation_iff]
  · exact fun other names' listed' perm same => scanned_alike listed listed' perm same
  · intro entries distinct perm
    obtain ⟨names', listed', perm'⟩ := World.listDirectory_reordered perm distinct listed
    exact scanned_alike listed listed' perm' fun name _ => World.isFile_reordered perm distinct

/-- A directory of tools with one version under two names, a newer one, one without a compiler, and a file
that is called like an installation. -/
def assorted : World where
  tree := ⟨[(["tools"], .directory), (["tools", "dxc-1.7.2"], .directory),
    (["tools", "dxc-1.7.2", "bin"], .directory), (["tools", "dxc-1.7.2", "bin", "dxc"], .file [] true),
    (["tools", "dxc-1.8.3"], .directory), (["tools", "dxc-1.8.3", "bin"], .directory),
    (["tools", "dxc-1.8.3", "bin", "dxc"], .file [] true),
    (["tools", "dxc-v1.7.2.0"], .directory), (["tools", "dxc-v1.7.2.0", "bin"], .directory),
    (["tools", "dxc-v1.7.2.0", "bin", "dxc"], .file [] true),
    (["tools", "dxc-1.9.1"], .directory), (["tools", "dxc-2.0.0"], .file [] true)]⟩

theorem versions_counted_assorted :
    ∃ found, versions assorted "/tools" = .ok found ∧ found.count ⟨1, 7, 2, 0⟩ = 2 ∧
      found.count ⟨1, 9, 1, 0⟩ = 0 ∧
      versions (assorted.reordered assorted.tree.entries.reverse) "/tools" = .ok found := by
  have listed : assorted.listDirectory "/tools" =
      .ok ["dxc-1.7.2", "dxc-1.8.3", "dxc-v1.7.2.0", "dxc-1.9.1", "dxc-2.0.0"] := by decide +kernel
  obtain ⟨found, scanned, -, counted, -, -, -, reordered⟩ := versions_counted listed
  have distinct : (assorted.tree.entries.map Prod.fst).Nodup := by decide +kernel
  obtain ⟨same, -⟩ := reordered _ distinct (List.reverse_perm _)
  refine ⟨found, scanned, ?_, ?_, same.trans scanned⟩
  · rw [counted]
    decide +kernel
  · rw [counted]
    decide +kernel

end Installation

end ShaderDriver
