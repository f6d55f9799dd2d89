import ShaderDriver.Proofs.Toolchain.Inquiries

namespace ShaderDriver

/-- Whether the fault is one of a text that should describe a release. -/
def ToolchainError.isMalformed : ToolchainError → Bool
  | invalidVersion _ | notJson | invalidRelease _ => true
  | transport _ _ | unknownVersion _ | noReleases | archiveUnavailable _ | fileSystem _ _ => false

theorem Version.parse_error {s : String} {failure : ToolchainError}
    (failed : Version.parse s = .error failure) : failure.isMalformed = true := by
  unfold parse at failed
  split at failed
  · cases failed
  · cases failed
    rfl

namespace Release

theorem ofValue_error {value : JsonValue} {failure : ToolchainError}
    (failed : ofValue value = .error failure) : failure.isMalformed = true := by
  unfold ofValue at failed
  simp only [bind, Except.bind, Except.mapError] at failed
  split at failed
  · rename_i undescribed
    split at undescribed <;> cases undescribed
    cases failed
    rfl
  · split at failed
    · split at failed
      · rename_i unread
        cases failed
        exact Version.parse_error unread
      · split at failed
        · split at failed <;> cases failed
          rfl
        · cases failed
          rfl
    · cases failed
      rfl

/-- A text that describes no release is to blame itself. -/
theorem parse_error {text : String} {failure : ToolchainError}
    (failed : parse text = .error failure) : failure.isMalformed = true := by
  unfold parse at failed
  split at failed
  · cases failed
    rfl
  · exact ofValue_error failed

theorem parseListing_sorted {text : String} {releases : List Release}
    (parsed : parseListing text = .ok releases) :
    releases.Pairwise fun newer older => older.version ≤ newer.version := by
  unfold parseListing at parsed
  split at parsed
  · cases parsed
  · cases parsed
    exact Version.newestFirst_sorted Release.version _
  · cases parsed

end Release

namespace Catalog

/-- The answer to a request describes a release, in a listing or alone. -/
inductive Describes (body : Bytes) (release : Release) : Request → Prop
  | listing {releases} : Release.parseListing (wording body) = .ok releases → release ∈ releases →
      Describes body release (description Release.listingPath)
  | latest : Release.parse (wording body) = .ok release →
      Describes body release (description Release.latestPath)
  | tagged : Release.parse (wording body) = .ok release →
      Describes body release (description (Release.taggedPath release.version))

/-- One of the requests was answered by a description of the release. -/
def Heard (service : Service) (requests : List Request) (release : Release) : Prop :=
  ∃ earlier request later body, requests = earlier ++ request :: later ∧
    service earlier request = .ok body ∧ Describes body release request

section Heard

variable {service : Service} {catalog : Catalog} {release : Release}

theorem Heard.later {requests : List Request} (heard : Heard service requests release)
    (request : Request) : Heard service (requests ++ [request]) release := by
  obtain ⟨earlier, asked, later, body, rfl, answered, describes⟩ := heard
  exact ⟨earlier, asked, later ++ [request], body, by simp, answered, describes⟩

theorem told_eq_ok {α : Type} {path : String} {decode : String → Except ToolchainError α} {found : α} :
    catalog.told service path decode = .ok found ↔
      ∃ body, service catalog.requests (description path) = .ok body ∧ decode (wording body) = .ok found := by
  unfold told
  cases service catalog.requests (description path) <;> simp [Except.bind]

theorem told_eq_error {α : Type} {path : String} {decode : String → Except ToolchainError α}
    {failure : ToolchainError} :
    catalog.told service path decode = .error failure ↔
      service catalog.requests (description path) = .error failure ∨
        ∃ body, service catalog.requests (description path) = .ok body ∧
          decode (wording body) = .error failure := by
  unfold told
  cases service catalog.requests (description path) <;> simp [Except.bind]

theorem heard_of_describes {path : String} {body : Bytes}
    (answered : service catalog.requests (description path) = .ok body)
    (describes : Describes body release (description path)) :
    Heard service (catalog.asked (description path)).requests release :=
  ⟨catalog.requests, description path, [], body, rfl, answered, describes⟩

end Heard

/-- What holds of a catalog at every moment. -/
structure Sound (service : Service) (catalog : Catalog) : Prop where
  sorted : catalog.releases.Pairwise fun newer older => older.version ≤ newer.version
  heard : ∀ release ∈ catalog.releases, Heard service catalog.requests release

section Sound

variable {service : Service} {catalog : Catalog}

theorem newest?_eq_none : catalog.newest? = none ↔ catalog.releases = [] := by
  rw [newest?, List.head?_eq_none_iff, versions, List.map_eq_nil_iff]

theorem Sound.le_newest (sound : Sound service catalog) {newest : Version}
    (found : catalog.newest? = some newest) : ∀ release ∈ catalog.releases, release.version ≤ newest := by
  have sorted := sound.sorted
  rw [newest?, versions, List.head?_map, Option.map_eq_some_iff] at found
  obtain ⟨first, front, rfl⟩ := found
  obtain ⟨others, whole⟩ := List.head?_eq_some_iff.1 front
  rw [whole] at sorted ⊢
  intro release member
  rcases List.mem_cons.1 member with rfl | later
  · exact Nat.le_refl _
  · exact (List.pairwise_cons.1 sorted).1 release later

/-- The version at the front is the greatest of the known ones. -/
theorem Sound.newest?_eq_some (sound : Sound service catalog) {version : Version} :
    catalog.newest? = some version ↔
      version ∈ catalog.versions ∧ ∀ other ∈ catalog.versions, other ≤ version := by
  have bounded (newest : Version) (found : catalog.newest? = some newest) :
      ∀ other ∈ catalog.versions, other ≤ newest := by
    intro other member
    obtain ⟨release, known, rfl⟩ := List.mem_map.1 member
    exact sound.le_newest found release known
  constructor
  · intro found
    exact ⟨List.mem_of_head? found, bounded version found⟩
  · rintro ⟨member, greatest⟩
    cases found : catalog.newest? with
    | none =>
      rw [newest?, List.head?_eq_none_iff] at found
      rw [found] at member
      cases member
    | some newest =>
      have lower := bounded newest found version member
      have upper := greatest newest (List.mem_of_head? found)
      rw [Version.le_antisymm upper lower]

theorem Sound.start (service : Service) (downloadDir : String) : Sound service { downloadDir } where
  sorted := .nil
  heard := nofun

theorem Sound.asked (sound : Sound service catalog) (request : Request) :
    Sound service (catalog.asked request) where
  sorted := sound.sorted
  heard := fun release known => (sound.heard release known).later request

theorem Sound.offered (sound : Sound service catalog) {latest : Release}
    (heard : Heard service catalog.requests latest) : Sound service (catalog.offered latest) := by
  have inFront (newer : ∀ release ∈ catalog.releases, release.version ≤ latest.version) :
      Sound service { catalog with releases := latest :: catalog.releases } :=
    ⟨List.pairwise_cons.2 ⟨newer, sound.sorted⟩, List.forall_mem_cons.2 ⟨heard, sound.heard⟩⟩
  unfold Catalog.offered
  cases known : catalog.newest? with
  | none =>
    refine inFront ?_
    rw [newest?_eq_none.1 known]
    nofun
  | some newest =>
    simp only
    split
    · rename_i less
      exact inFront fun release member =>
        Nat.le_trans (sound.le_newest known release member) (Nat.le_of_lt less)
    · exact sound

theorem Sound.added (sound : Sound service catalog) {release : Release}
    (heard : Heard service catalog.requests release) : Sound service (catalog.added release) where
  sorted := Version.newestFirst_sorted Release.version _
  heard := by
    intro known member
    have perm := Version.newestFirst_perm Release.version (catalog.releases ++ [release])
    rcases List.mem_append.1 (perm.mem_iff.1 member) with earlier | same
    · exact sound.heard known earlier
    · rw [List.mem_singleton.1 same]
      exact heard

/-- One question keeps the catalog sound, however it ends. -/
theorem Sound.ends (sound : Sound service catalog) {inquiry : Inquiry}
    {answer : Except ToolchainError Finding} {after : Catalog}
    (ends : Ends service catalog inquiry answer after) : Sound service after := by
  induction ends with
  | unlisted _ => exact sound.asked _
  | emptyListing _ => exact sound.asked _
  | @listed releases answered _ =>
    obtain ⟨body, replied, parsed⟩ := told_eq_ok.1 answered
    exact ⟨Release.parseListing_sorted parsed, fun release member =>
      heard_of_describes replied (.listing parsed member)⟩
  | noLatest _ => exact sound.asked _
  | latest answered _ =>
    obtain ⟨body, replied, parsed⟩ := told_eq_ok.1 answered
    exact (sound.asked _).offered (heard_of_describes replied (.latest parsed))
  | known _ => exact sound
  | untagged _ _ => exact sound.asked _
  | mistagged _ _ _ => exact sound.asked _
  | tagged _ answered same =>
    obtain ⟨body, replied, parsed⟩ := told_eq_ok.1 answered
    subst same
    exact (sound.asked _).added (heard_of_describes replied (.tagged parsed))
  | versionsKnown _ => exact sound
  | versionsListed _ _ ih => exact ih
  | versionsUnlisted _ _ ih => exact ih
  | unreleased _ ih => exact ih
  | archive _ ih => exact ih.asked _

/-- So does any number of questions. -/
theorem Sound.after (sound : Sound service catalog) (inquiries : List Inquiry) :
    Sound service (catalog.after service inquiries) := by
  induction inquiries generalizing catalog with
  | nil => exact sound
  | cons inquiry inquiries ih => exact ih (sound.ends (ends_ask service catalog inquiry))

end Sound

/-- What is known behind a question that has failed. Only a failed download may have added something, which
is the release that it is for. -/
def Spared (catalog after : Catalog) : Inquiry → Prop
  | .archive version => after.releases = catalog.releases ∨
      ∃ release, release.version = version ∧ catalog.release? version = none ∧
        Inserted release catalog.releases after.releases
  | .available | .latest | .release _ | .versions => after.releases = catalog.releases

section Spared

variable {service : Service} {catalog after : Catalog} {failure : ToolchainError}

/-- A failure that is not to blame on the text is the service's own. -/
theorem told_eq_error_of_wellFormed {path : String} (wellFormed : failure.isMalformed = false) :
    catalog.told service path Release.parse = .error failure ↔
      service catalog.requests (description path) = .error failure := by
  rw [told_eq_error]
  refine ⟨fun untold => untold.resolve_right ?_, Or.inl⟩
  rintro ⟨body, -, undescribed⟩
  rw [Release.parse_error undescribed] at wellFormed
  cases wellFormed

/-- There always is a latest release, unless the service itself answers that there is none. -/
theorem ask_latest_eq_noReleases :
    (catalog.ask service .latest).1 = .error .noReleases ↔
      service catalog.requests (description Release.latestPath) = .error .noReleases := by
  rw [← told_eq_error_of_wellFormed rfl]
  have ends := ends_ask service catalog .latest
  generalize (catalog.ask service .latest).1 = answer, (catalog.ask service .latest).2 = after at ends ⊢
  cases ends with
  | noLatest untold => simp [untold]
  | latest told => simp [told]

/-- A release is unknown if another one is described for it, or if the service itself answers so. -/
theorem ask_release_eq_unknownVersion {version : Version} :
    (catalog.ask service (.release version)).1 = .error (.unknownVersion version) ↔
      catalog.release? version = none ∧
        (service catalog.requests (description (Release.taggedPath version)) =
          .error (.unknownVersion version) ∨
        ∃ release, catalog.told service (Release.taggedPath version) Release.parse = .ok release ∧
          release.version ≠ version) := by
  rw [← told_eq_error_of_wellFormed rfl]
  have ends := ends_ask service catalog (.release version)
  generalize (catalog.ask service (.release version)).1 = answer,
    (catalog.ask service (.release version)).2 = after at ends ⊢
  cases ends with
  | known known => simp [known]
  | untagged unknown untold => simp [unknown, untold]
  | mistagged unknown told other => simp [unknown, told, other]
  | tagged unknown told same => simp [unknown, told, same]

theorem available_spared (ends : Ends service catalog .available (.error failure) after) :
    after.releases = catalog.releases := by
  cases ends <;> rfl

theorem latest_spared (ends : Ends service catalog .latest (.error failure) after) :
    after.releases = catalog.releases := by
  cases ends
  rfl

theorem release_spared {version : Version}
    (ends : Ends service catalog (.release version) (.error failure) after) :
    after.releases = catalog.releases := by
  cases ends <;> rfl

/-- Finding a release leaves what was known, or sorts that release in. -/
theorem release_found {version : Version} {release : Release}
    (sorted : catalog.releases.Pairwise fun newer older => older.version ≤ newer.version)
    (ends : Ends service catalog (.release version) (.ok (.release release)) after) :
    after.releases = catalog.releases ∨
      release.version = version ∧ catalog.release? version = none ∧
        Inserted release catalog.releases after.releases := by
  cases ends with
  | known _ => exact .inl rfl
  | tagged unknown _ same => exact .inr ⟨same, unknown, Version.newestFirst_inserted sorted release⟩

theorem archive_spared {version : Version}
    (sorted : catalog.releases.Pairwise fun newer older => older.version ≤ newer.version)
    (ends : Ends service catalog (.archive version) (.error failure) after) :
    Spared catalog after (.archive version) := by
  -- What a download comes to is not yet known to be a failure of it, so the answer becomes a variable.
  generalize ended : (.error failure : Except ToolchainError Finding) = answer at ends
  cases ends with
  | unreleased unreleased =>
    cases ended
    exact .inl (release_spared unreleased)
  | archive found =>
    rcases release_found sorted found with same | ⟨tagged, unknown, inserted⟩
    · exact .inl same
    · exact .inr ⟨_, tagged, unknown, inserted⟩

/-- No question that fails does harm. -/
theorem Sound.spared (sound : Sound service catalog) {inquiry : Inquiry}
    (failed : (catalog.ask service inquiry).1 = .error failure) :
    Spared catalog (catalog.ask service inquiry).2 inquiry := by
  have ends := ends_ask service catalog inquiry
  rw [failed] at ends
  cases inquiry with
  | available => exact available_spared ends
  | latest => exact latest_spared ends
  | release version => exact release_spared ends
  | versions =>
    cases ends with
    | versionsUnlisted _ unlisted => exact available_spared unlisted
  | archive version => exact archive_spared sound.sorted ends

end Spared

/-- The known releases in their order, of which the newest is the first. -/
structure Ordered (catalog : Catalog) : Prop where
  descending : catalog.versions.Pairwise fun newer older => older ≤ newer
  newest (version : Version) : catalog.newest? = some version ↔
    version ∈ catalog.versions ∧ ∀ other ∈ catalog.versions, other ≤ version
  nothing : catalog.newest? = none ↔ catalog.releases = []

theorem Sound.ordered {service : Service} {catalog : Catalog} (sound : Sound service catalog) :
    Ordered catalog where
  descending := List.pairwise_map.2 sound.sorted
  newest _ := sound.newest?_eq_some
  nothing := newest?_eq_none

/-- Whatever a catalog was asked, and whatever the service told it, what it knows is ordered and was told,
and no failure does harm to that. A service may fail with any error, also with those that a catalog has of its
own: there is no latest release only if the service says so, and a release is unknown only if the service says
so or describes another one. -/
theorem releases_kept (service : Service) (downloadDir : String) (inquiries : List Inquiry) :
    let catalog := Catalog.after service { downloadDir } inquiries
    Ordered catalog ∧
    (∀ release ∈ catalog.releases, Heard service catalog.requests release) ∧
    (∀ inquiry failure, (catalog.ask service inquiry).1 = .error failure →
      Spared catalog (catalog.ask service inquiry).2 inquiry) ∧
    ((catalog.ask service .latest).1 = .error .noReleases ↔
      service catalog.requests (description Release.latestPath) = .error .noReleases) ∧
    ∀ version, (catalog.ask service (.release version)).1 = .error (.unknownVersion version) ↔
      catalog.release? version = none ∧
        (service catalog.requests (description (Release.taggedPath version)) =
          .error (.unknownVersion version) ∨
        ∃ release, catalog.told service (Release.taggedPath version) Release.parse = .ok release ∧
          release.version ≠ version) := by
  intro catalog
  have sound : Sound service catalog := (Sound.start service downloadDir).after inquiries
  exact ⟨sound.ordered, sound.heard, fun inquiry failure failed => sound.spared failed,
    ask_latest_eq_noReleases, fun version => ask_release_eq_unknownVersion⟩

/-- A service that knows one release, and loses all else that it is asked for. -/
def lossy : Service := fun _ request =>
  if request = description (Release.taggedPath ⟨1, 5, 2010, 0⟩) then
    .ok (Utf8.encode "[\"v1.5.2010\", [[\"dxc.zip\", \"https://api.github.com/assets/5\"]]]".toList)
  else .error (.transport request.path "lost")

theorem releases_kept_lossy :
    let catalog := Catalog.after lossy { downloadDir := "tools" } [.available]
    (catalog.ask lossy .latest).1 ≠ .error .noReleases ∧
      (catalog.ask lossy (.archive ⟨1, 5, 2010, 0⟩)).2.versions = [⟨1, 5, 2010, 0⟩] ∧
      Spared catalog (catalog.ask lossy (.archive ⟨1, 5, 2010, 0⟩)).2 (.archive ⟨1, 5, 2010, 0⟩) := by
  intro catalog
  obtain ⟨-, -, spared, missing, -⟩ := releases_kept lossy "tools" [.available]
  have lost : lossy catalog.requests (description Release.latestPath) =
      .error (.transport Release.latestPath "lost") := by decide +kernel
  have failed : (catalog.ask lossy (.archive ⟨1, 5, 2010, 0⟩)).1 =
      .error (.transport "assets/5" "lost") := by decide +kernel
  refine ⟨fun none => ?_, by decide +kernel, spared _ _ failed⟩
  cases lost.symm.trans (missing.1 none)

/-- A service that fails with the errors that a catalog has of its own, whatever it is asked for. -/
def contrary : Service := fun _ request =>
  if request = description Release.latestPath then .error .noReleases
  else .error (.unknownVersion ⟨1, 5, 2010, 0⟩)

/-- Its errors are handed on as they are: there is no latest release, and a release is unknown that the
service has described no other one for. -/
theorem asks_contrary :
    let catalog : Catalog := Catalog.after contrary { downloadDir := "tools" } []
    (catalog.ask contrary .latest).1 = .error .noReleases ∧
      (catalog.ask contrary (.release ⟨1, 5, 2010, 0⟩)).1 = .error (.unknownVersion ⟨1, 5, 2010, 0⟩) ∧
      ¬ ∃ release, catalog.told contrary (Release.taggedPath ⟨1, 5, 2010, 0⟩) Release.parse = .ok release := by
  intro catalog
  refine ⟨by decide +kernel, by decide +kernel, ?_⟩
  rintro ⟨release, told⟩
  have untold : catalog.told contrary (Release.taggedPath ⟨1, 5, 2010, 0⟩) Release.parse =
      .error (.unknownVersion ⟨1, 5, 2010, 0⟩) := by decide +kernel
  cases untold.symm.trans told

end Catalog

end ShaderDriver
