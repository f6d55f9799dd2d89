import ShaderDriver.Proofs.Toolchain.Catalog

namespace ShaderDriver.Catalog

/-- Nothing that was known is lost: all of it is there in its order, and found under its version as
before. -/
structure Kept (catalog after : Catalog) : Prop where
  sublist : catalog.releases.Sublist after.releases
  found (version : Version) (release : Release) :
    catalog.release? version = some release → after.release? version = some release

theorem Kept.of_same {catalog after : Catalog} (same : after.releases = catalog.releases) :
    Kept catalog after where
  sublist := same ▸ List.Sublist.refl _
  found := by
    intro version release known
    rw [release?, same]
    exact known

/-- A release of another version is not found in the place of one that was known. -/
theorem Kept.of_inserted {catalog after : Catalog} {release : Release}
    (inserted : Inserted release catalog.releases after.releases)
    (unknown : catalog.release? release.version = none) : Kept catalog after := by
  obtain ⟨front, back, before, behind⟩ := inserted
  refine ⟨?_, ?_⟩
  · rw [before, behind]
    exact (List.Sublist.refl front).append (List.sublist_cons_self release back)
  · intro version known found
    have other : (release.version == version) = false := by
      rw [beq_eq_false_iff_ne]
      rintro rfl
      rw [unknown] at found
      cases found
    rw [release?, before, List.find?_append] at found
    rw [release?, behind, List.find?_append, List.find?_cons, other]
    exact found

@[simp] theorem requests_asked (catalog : Catalog) (request : Request) :
    (catalog.asked request).requests = catalog.requests ++ [request] := rfl

@[simp] theorem requests_added (catalog : Catalog) (release : Release) :
    (catalog.added release).requests = catalog.requests := rfl

@[simp] theorem requests_offered (catalog : Catalog) (latest : Release) :
    (catalog.offered latest).requests = catalog.requests := by
  unfold offered
  split
  · rfl
  · split <;> rfl

section Questions

variable {service : Service} {catalog after : Catalog} {version : Version}

theorem isAvailable_eq_false : catalog.isAvailable version = false ↔ catalog.release? version = none := by
  rw [isAvailable, Option.isSome_eq_false_iff, Option.isNone_iff_eq_none]

theorem isAvailable_of_found {release : Release} (known : catalog.release? version = some release) :
    catalog.isAvailable version = true := by
  rw [isAvailable, known, Option.isSome_some]

theorem version_of_found {release : Release} (known : catalog.release? version = some release) :
    release.version = version := by
  have matched := List.find?_some known
  exact beq_iff_eq.1 matched

/-- A version is known if and only if it is among the versions. -/
theorem release?_eq_none : catalog.release? version = none ↔ version ∉ catalog.versions := by
  unfold release? versions
  rw [List.find?_eq_none, List.mem_map]
  simp

theorem exists_found_of_mem (member : version ∈ catalog.versions) :
    ∃ release, catalog.release? version = some release := by
  rw [← Option.ne_none_iff_exists']
  exact fun unknown => release?_eq_none.1 unknown member

end Questions

/-- What asking for a release comes to: no request if it is known, and else one for its description. -/
structure FindsRelease (service : Service) (catalog : Catalog) (version : Version)
    (answer : Except ToolchainError Finding) (after : Catalog) : Prop where
  requests : after.requests = catalog.requests ++
    if catalog.isAvailable version then [] else [description (Release.taggedPath version)]
  answers (release : Release) : answer = .ok (.release release) ↔
    catalog.release? version = some release ∨ catalog.release? version = none ∧
      catalog.told service (Release.taggedPath version) Release.parse = .ok release ∧
      release.version = version
  found (release : Release) : answer = .ok (.release release) →
    release.version = version ∧ after.release? version = some release
  kept : Kept catalog after

/-- What asking for the latest version comes to: one request, and a version that no known one exceeds. -/
structure FindsLatest (service : Service) (catalog : Catalog) (answer : Except ToolchainError Finding)
    (after : Catalog) : Prop where
  requests : after.requests = catalog.requests ++ [description Release.latestPath]
  answers : (∃ newest, answer = .ok (.version newest)) ↔
    ∃ latest, catalog.told service Release.latestPath Release.parse = .ok latest
  newest (newest : Version) : answer = .ok (.version newest) →
    after.isAvailable newest = true ∧ (∀ known ∈ after.versions, known ≤ newest) ∧
      ∀ latest, catalog.told service Release.latestPath Release.parse = .ok latest →
        latest.version ≤ newest
  kept : Kept catalog after

/-- What fetching an archive comes to: the service's answer to a request for the path of the release, after
a request for its description if it is unknown. -/
structure FetchesArchive (service : Service) (catalog : Catalog) (version : Version)
    (answer : Except ToolchainError Finding) (after : Catalog) : Prop where
  known (release : Release) : catalog.release? version = some release →
    answer = (service catalog.requests ⟨release.path, archiveType⟩).map .archive ∧
      after = catalog.asked ⟨release.path, archiveType⟩
  described (release : Release) : catalog.release? version = none →
    catalog.told service (Release.taggedPath version) Release.parse = .ok release →
    release.version = version →
    answer = (service (catalog.requests ++ [description (Release.taggedPath version)])
        ⟨release.path, archiveType⟩).map .archive ∧
      after.requests = catalog.requests ++
        [description (Release.taggedPath version), ⟨release.path, archiveType⟩] ∧
      after.release? version = some release
  undescribed : catalog.release? version = none →
    (∀ release, catalog.told service (Release.taggedPath version) Release.parse = .ok release →
      release.version ≠ version) →
    (∃ failure, answer = .error failure) ∧
      after.requests = catalog.requests ++ [description (Release.taggedPath version)]
  kept : Kept catalog after

section Ends

variable {service : Service} {catalog after : Catalog} {answer : Except ToolchainError Finding}
  {version : Version}

theorem findsRelease (sound : Sound service catalog)
    (ends : Ends service catalog (.release version) answer after) :
    FindsRelease service catalog version answer after := by
  cases ends with
  | known known =>
    have available := isAvailable_of_found known
    refine ⟨by simp [available], fun release => ?_, fun release same => ?_, .of_same rfl⟩
    · simp [known]
    · cases same
      exact ⟨version_of_found known, known⟩
  | untagged unknown untold =>
    have unavailable := isAvailable_eq_false.2 unknown
    refine ⟨by simp [unavailable], fun release => ?_, nofun, .of_same rfl⟩
    simp [unknown, untold]
  | mistagged unknown told other =>
    have unavailable := isAvailable_eq_false.2 unknown
    refine ⟨by simp [unavailable], fun release => ?_, nofun, .of_same rfl⟩
    simp only [unknown, told, reduceCtorEq, false_or, true_and, Except.ok.injEq, false_iff, not_and]
    rintro rfl
    exact other
  | @tagged _ release unknown told same =>
    subst same
    have unavailable := isAvailable_eq_false.2 unknown
    have nowKnown : ((catalog.asked (description (Release.taggedPath release.version))).added
        release).release? release.version = some release := release?_added unknown
    refine ⟨by simp [unavailable], fun other => ?_, fun other same => ?_, ?_⟩
    · simp only [unknown, told, reduceCtorEq, false_or, true_and, Except.ok.injEq, Finding.release.injEq]
      constructor
      · rintro rfl
        exact ⟨rfl, rfl⟩
      · rintro ⟨same, -⟩
        exact same
    · cases same
      exact ⟨rfl, nowKnown⟩
    · exact .of_inserted (Version.newestFirst_inserted sound.sorted release) unknown

/-- The latest release is put in front only if no version exceeds it, and nothing is found in its place. -/
theorem kept_offered (sound : Sound service catalog) (latest : Release) :
    Kept catalog (catalog.offered latest) ∧
      ∃ newest, (catalog.offered latest).newest? = some newest ∧ latest.version ≤ newest := by
  have inFront (newer : ∀ release ∈ catalog.releases, release.version < latest.version) :
      Kept catalog { catalog with releases := latest :: catalog.releases } := by
    refine .of_inserted ⟨[], catalog.releases, rfl, rfl⟩ (release?_eq_none.2 fun member => ?_)
    obtain ⟨release, known, same⟩ := List.mem_map.1 member
    have less := newer release known
    rw [same] at less
    exact Nat.lt_irrefl _ less
  unfold offered
  cases first : catalog.newest? with
  | none =>
    have nothing := newest?_eq_none.1 first
    refine ⟨inFront ?_, latest.version, rfl, Nat.le_refl _⟩
    rw [nothing]
    nofun
  | some newest =>
    have bounded := sound.le_newest first
    dsimp only
    split
    · rename_i less
      exact ⟨inFront fun release known => Nat.lt_of_le_of_lt (bounded release known) less,
        latest.version, rfl, Nat.le_refl _⟩
    · rename_i notLess
      exact ⟨.of_same rfl, newest, first, Nat.not_lt.1 notLess⟩

theorem findsLatest (sound : Sound service catalog)
    (ends : Ends service catalog .latest answer after) : FindsLatest service catalog answer after := by
  have soundAfter := sound.ends ends
  cases ends with
  | noLatest untold => exact ⟨by simp, by simp [untold], nofun, .of_same rfl⟩
  | @latest latest newest told first =>
    obtain ⟨kept, greatest, front, bounded⟩ := kept_offered (sound.asked _) latest
    rw [first] at front
    cases front
    obtain ⟨known, exceeds⟩ := soundAfter.newest?_eq_some.1 first
    refine ⟨by simp, by simp [told], fun version same => ?_, ⟨kept.sublist, kept.found⟩⟩
    cases same
    obtain ⟨release, found⟩ := exists_found_of_mem known
    refine ⟨isAvailable_of_found found, exceeds, fun other same => ?_⟩
    rw [told] at same
    cases same
    exact bounded

theorem fetchesArchive (sound : Sound service catalog)
    (ends : Ends service catalog (.archive version) answer after) :
    FetchesArchive service catalog version answer after := by
  cases ends with
  | @unreleased _ failure _ unreleased =>
    have finds := findsRelease sound unreleased
    have notFound (release : Release) : ¬ (catalog.release? version = some release ∨
        catalog.release? version = none ∧
          catalog.told service (Release.taggedPath version) Release.parse = .ok release ∧
          release.version = version) := fun delivered => nomatch (finds.answers release).2 delivered
    refine ⟨fun release known => ?_, fun release unknown told same => ?_, fun unknown _ => ?_, finds.kept⟩
    · exact absurd (.inl known) (notFound release)
    · exact absurd (.inr ⟨unknown, told, same⟩) (notFound release)
    · refine ⟨⟨failure, rfl⟩, ?_⟩
      rw [finds.requests, isAvailable_eq_false.2 unknown, if_neg Bool.false_ne_true]
  | @archive _ release middle found =>
    have finds := findsRelease sound found
    have kept : Kept catalog (middle.asked ⟨release.path, archiveType⟩) :=
      ⟨finds.kept.sublist, finds.kept.found⟩
    cases found with
    | known known =>
      refine ⟨fun other same => ?_, fun other unknown => ?_, fun unknown => ?_, kept⟩
      · rw [known] at same
        cases same
        exact ⟨rfl, rfl⟩
      · rw [known] at unknown
        cases unknown
      · rw [known] at unknown
        cases unknown
    | tagged unknown told same =>
      refine ⟨fun other known => ?_, fun other _ again _ => ?_, fun _ undescribed => ?_, kept⟩
      · rw [unknown] at known
        cases known
      · rw [told] at again
        cases again
        exact ⟨by simp, by simp, (finds.found release rfl).2⟩
      · exact absurd same (undescribed release told)

end Ends

/-- A catalog delivers what is asked for, whatever it was asked before and whatever the service answers, and
makes no request that it can do without. The archive of the version that was just found to be the latest
takes one request, and none for a description. -/
theorem queries_delivered (service : Service) (downloadDir : String) (inquiries : List Inquiry) :
    let catalog := Catalog.after service { downloadDir } inquiries
    (∀ version answer after, catalog.ask service (.release version) = (answer, after) →
      FindsRelease service catalog version answer after) ∧
    (∀ answer after, catalog.ask service .latest = (answer, after) →
      FindsLatest service catalog answer after) ∧
    (∀ version answer after, catalog.ask service (.archive version) = (answer, after) →
      FetchesArchive service catalog version answer after) ∧
    (∀ newest after, catalog.ask service .latest = (.ok (.version newest), after) →
      ∃ release, after.release? newest = some release ∧
        after.ask service (.archive newest) =
          ((service after.requests ⟨release.path, archiveType⟩).map .archive,
            after.asked ⟨release.path, archiveType⟩)) := by
  intro catalog
  have sound : Sound service catalog := (Sound.start service downloadDir).after inquiries
  have ended {catalog after : Catalog} {inquiry : Inquiry} {answer : Except ToolchainError Finding}
      (asked : catalog.ask service inquiry = (answer, after)) :
      Ends service catalog inquiry answer after := by
    have ends := ends_ask service catalog inquiry
    rwa [asked] at ends
  refine ⟨fun version answer after asked => findsRelease sound (ended asked),
    fun answer after asked => findsLatest sound (ended asked),
    fun version answer after asked => fetchesArchive sound (ended asked), fun newest after asked => ?_⟩
  obtain ⟨available, -⟩ := (findsLatest sound (ended asked)).newest newest rfl
  obtain ⟨release, known⟩ := Option.isSome_iff_exists.1 available
  have soundAfter := sound.ends (ended asked)
  obtain ⟨answer, last⟩ := (fetchesArchive soundAfter (ends_ask service after (.archive newest))).known
    release known
  exact ⟨release, known, Prod.ext answer last⟩

/-- A service that first gives a listing and then describes one more release, whatever it is asked for. It
sends the path of an archive as its content. -/
def lagging : Service := fun requests request =>
  let text :=
    if request.accept = archiveType then request.path
    else if requests.isEmpty then "[[\"1.6.2\", [[\"dxc.zip\", \"https://api.github.com/a\"]]]]"
    else "[\"1.7.3\", [[\"dxc.zip\", \"https://api.github.com/b\"]]]"
  .ok (Utf8.encode text.toList)

theorem queries_delivered_lagging :
    let catalog := Catalog.after lagging { downloadDir := "tools" } [.available]
    let after := (catalog.ask lagging .latest).2
    catalog.ask lagging .latest = (.ok (.version ⟨1, 7, 3, 0⟩), after) ∧
    (∃ release, after.release? ⟨1, 7, 3, 0⟩ = some release ∧
      after.ask lagging (.archive ⟨1, 7, 3, 0⟩) =
        ((lagging after.requests ⟨release.path, archiveType⟩).map .archive,
          after.asked ⟨release.path, archiveType⟩)) ∧
    (catalog.ask lagging (.archive ⟨1, 7, 3, 0⟩)).1 = .ok (.archive [98]) := by
  obtain ⟨-, -, archives, latest⟩ := queries_delivered lagging "tools" [.available]
  have asked : (Catalog.ask lagging (Catalog.after lagging { downloadDir := "tools" } [.available]) .latest) =
      (.ok (.version ⟨1, 7, 3, 0⟩), _) := Prod.ext (by decide +kernel) rfl
  have fetched := archives ⟨1, 7, 3, 0⟩ _ _ rfl
  have described := fetched.described ⟨⟨1, 7, 3, 0⟩, "dxc.zip", "b"⟩ (by decide +kernel)
    (by decide +kernel) rfl
  exact ⟨asked, latest _ _ asked, described.1.trans (by decide +kernel)⟩

end ShaderDriver.Catalog
