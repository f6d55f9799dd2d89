import ShaderDriver.Proofs.Toolchain.Order
import ShaderDriver.Toolchain.Catalog

namespace ShaderDriver

/-- A question to a catalog. The latest version of a source of versions is asked for by `latest`. -/
inductive Inquiry where
  | available
  | latest
  | release (version : Version)
  | versions
  | archive (version : Version)

/-- What a catalog answers. -/
inductive Finding where
  | releases (releases : List Release)
  | version (version : Version)
  | release (release : Release)
  | versions (versions : List Version)
  | archive (bytes : Bytes)
deriving DecidableEq

namespace Catalog

def query (service : Service) : Inquiry → Query Finding
  | .available => Finding.releases <$> queryAvailable service
  | .latest => Finding.version <$> queryLatest service
  | .release version => Finding.release <$> queryRelease service version
  | .versions => Finding.versions <$> queryVersions service
  | .archive version => Finding.archive <$> fetchArchive service version

def ask (service : Service) (catalog : Catalog) (inquiry : Inquiry) :
    Except ToolchainError Finding × Catalog :=
  run (query service inquiry) catalog

/-- The catalog behind a number of questions, whatever they were answered. -/
def after (service : Service) (catalog : Catalog) (inquiries : List Inquiry) : Catalog :=
  inquiries.foldl (fun catalog inquiry => (catalog.ask service inquiry).2) catalog

/-- The catalog with one more request made. -/
def asked (catalog : Catalog) (request : Request) : Catalog :=
  { catalog with requests := catalog.requests ++ [request] }

def wording (body : Bytes) : String := String.ofList (Utf8.decodeLossy body)

def description (path : String) : Request := ⟨path, descriptionType⟩

/-- What the service tells a catalog that asks for a description now. -/
def told (service : Service) (catalog : Catalog) (path : String)
    (decode : String → Except ToolchainError α) : Except ToolchainError α :=
  (service catalog.requests (description path)).bind fun body => decode (wording body)

/-- A release is offered as the latest one. It counts if it is newer than all that are known. -/
def offered (catalog : Catalog) (latest : Release) : Catalog :=
  match catalog.newest? with
  | none => { catalog with releases := latest :: catalog.releases }
  | some newest =>
    if newest < latest.version then { catalog with releases := latest :: catalog.releases }
    else catalog

/-- A release that was not known is sorted in. -/
def added (catalog : Catalog) (release : Release) : Catalog :=
  { catalog with releases := Release.sort (catalog.releases ++ [release]) }

section Runs

variable {α β : Type} {catalog : Catalog}

theorem run_bind_ok {query : Query α} {found : α} {after : Catalog}
    (ran : run query catalog = (.ok found, after)) (next : α → Query β) :
    run (query >>= next) catalog = run (next found) after := by
  change (StateT.bind query (ExceptT.bindCont next) : StateM Catalog _) catalog = _
  simp only [run, ExceptT.run, StateT.run] at ran
  simp only [StateT.bind, ran]
  rfl

theorem run_bind_error {query : Query α} {failure : ToolchainError} {after : Catalog}
    (ran : run query catalog = (.error failure, after)) (next : α → Query β) :
    run (query >>= next) catalog = (.error failure, after) := by
  change (StateT.bind query (ExceptT.bindCont next) : StateM Catalog _) catalog = _
  simp only [run, ExceptT.run, StateT.run] at ran
  simp only [StateT.bind, ran]
  rfl

theorem run_map (f : α → β) (query : Query α) :
    run (f <$> query) catalog = ((run query catalog).1.map f, (run query catalog).2) := by
  cases ran : run query catalog with
  | mk answer after =>
    cases answer with
    | ok found => exact run_bind_ok ran _
    | error failure => exact run_bind_error ran _

theorem run_get (catalog : Catalog) : run get catalog = (.ok catalog, catalog) := rfl

theorem run_modify (change : Catalog → Catalog) (catalog : Catalog) :
    run (modify change) catalog = (.ok (), change catalog) := rfl

theorem run_fetchText (service : Service) (catalog : Catalog) (path : String) (decode : String → Except ToolchainError α) :
    run (fetchText service path decode) catalog =
      (catalog.told service path decode, catalog.asked (description path)) := by
  have fetched : run (fetch service path descriptionType) catalog =
      (service catalog.requests (description path), catalog.asked (description path)) := rfl
  unfold told
  cases answered : service catalog.requests (description path) with
  | error failure =>
    rw [answered] at fetched
    exact run_bind_error fetched _
  | ok body =>
    rw [answered] at fetched
    exact run_bind_ok fetched _

end Runs

/-- The ends of a question, with the catalog behind each. -/
inductive Ends (service : Service) (catalog : Catalog) :
    Inquiry → Except ToolchainError Finding → Catalog → Prop
  | unlisted {failure} :
      catalog.told service Release.listingPath Release.parseListing = .error failure →
      Ends service catalog .available (.error failure) (catalog.asked (description Release.listingPath))
  | emptyListing : catalog.told service Release.listingPath Release.parseListing = .ok [] →
      Ends service catalog .available (.error .noReleases)
        (catalog.asked (description Release.listingPath))
  | listed {releases} : catalog.told service Release.listingPath Release.parseListing = .ok releases →
      releases ≠ [] →
      Ends service catalog .available (.ok (.releases releases))
        { catalog.asked (description Release.listingPath) with releases }
  | noLatest {failure} : catalog.told service Release.latestPath Release.parse = .error failure →
      Ends service catalog .latest (.error failure) (catalog.asked (description Release.latestPath))
  | latest {release newest} : catalog.told service Release.latestPath Release.parse = .ok release →
      ((catalog.asked (description Release.latestPath)).offered release).newest? = some newest →
      Ends service catalog .latest (.ok (.version newest))
        ((catalog.asked (description Release.latestPath)).offered release)
  | known {version release} : catalog.release? version = some release →
      Ends service catalog (.release version) (.ok (.release release)) catalog
  | untagged {version failure} : catalog.release? version = none →
      catalog.told service (Release.taggedPath version) Release.parse = .error failure →
      Ends service catalog (.release version) (.error failure)
        (catalog.asked (description (Release.taggedPath version)))
  | mistagged {version release} : catalog.release? version = none →
      catalog.told service (Release.taggedPath version) Release.parse = .ok release →
      release.version ≠ version →
      Ends service catalog (.release version) (.error (.unknownVersion version))
        (catalog.asked (description (Release.taggedPath version)))
  | tagged {version release} : catalog.release? version = none →
      catalog.told service (Release.taggedPath version) Release.parse = .ok release →
      release.version = version →
      Ends service catalog (.release version) (.ok (.release release))
        ((catalog.asked (description (Release.taggedPath version))).added release)
  | versionsKnown : catalog.releases ≠ [] →
      Ends service catalog .versions (.ok (.versions catalog.versions)) catalog
  | versionsListed {releases after} : catalog.releases = [] →
      Ends service catalog .available (.ok (.releases releases)) after →
      Ends service catalog .versions (.ok (.versions after.versions)) after
  | versionsUnlisted {failure after} : catalog.releases = [] →
      Ends service catalog .available (.error failure) after →
      Ends service catalog .versions (.error failure) after
  | unreleased {version failure after} :
      Ends service catalog (.release version) (.error failure) after →
      Ends service catalog (.archive version) (.error failure) after
  | archive {version release after} :
      Ends service catalog (.release version) (.ok (.release release)) after →
      Ends service catalog (.archive version)
        ((service after.requests ⟨release.path, archiveType⟩).map .archive)
        (after.asked ⟨release.path, archiveType⟩)

section Ends

variable (service : Service) (catalog : Catalog)

theorem ends_available :
    Ends service catalog .available (catalog.ask service .available).1
      (catalog.ask service .available).2 := by
  have fetched := run_fetchText service catalog Release.listingPath Release.parseListing
  rw [ask, query, run_map]
  cases answered : catalog.told service Release.listingPath Release.parseListing with
  | error failure =>
    rw [answered] at fetched
    rw [queryAvailable, run_bind_error fetched]
    exact .unlisted answered
  | ok releases =>
    rw [answered] at fetched
    rw [queryAvailable, run_bind_ok fetched]
    cases releases with
    | nil => exact .emptyListing answered
    | cons release releases => exact .listed answered nofun

theorem offered_newest? (release : Release) : ∃ newest, (catalog.offered release).newest? = some newest := by
  unfold offered
  cases known : catalog.newest? with
  | none => exact ⟨release.version, rfl⟩
  | some newest =>
    simp only
    split
    · exact ⟨release.version, rfl⟩
    · exact ⟨newest, known⟩

/-- The last step of asking for the latest release: the newest known version is the answer. -/
def announce : Query Version := do
  match (← get).newest? with
  | some newest => pure newest
  | none => throw .noReleases

theorem run_announce {catalog : Catalog} {newest : Version} (known : catalog.newest? = some newest) :
    run announce catalog = (.ok newest, catalog) := by
  rw [announce, run_bind_ok (run_get _), known]
  rfl

theorem ends_latest :
    Ends service catalog .latest (catalog.ask service .latest).1 (catalog.ask service .latest).2 := by
  have fetched := run_fetchText service catalog Release.latestPath Release.parse
  rw [ask, query, run_map]
  cases answered : catalog.told service Release.latestPath Release.parse with
  | error failure =>
    rw [answered] at fetched
    rw [queryLatest, run_bind_error fetched]
    exact .noLatest answered
  | ok release =>
    rw [answered] at fetched
    obtain ⟨newest, found⟩ := offered_newest? (catalog.asked (description Release.latestPath)) release
    have answer : run (queryLatest service) catalog =
        (.ok newest, (catalog.asked (description Release.latestPath)).offered release) := by
      rw [queryLatest, run_bind_ok fetched, run_bind_ok (run_modify _ _)]
      exact run_announce found
    rw [answer]
    exact .latest answered found

/-- The release that was just added is the one that is found. -/
theorem release?_added {catalog : Catalog} {release : Release}
    (missing : catalog.release? release.version = none) :
    (catalog.added release).release? release.version = some release := by
  have perm := Version.newestFirst_perm Release.version (catalog.releases ++ [release])
  unfold release? at missing
  rw [List.find?_eq_none] at missing
  cases found : (catalog.added release).release? release.version with
  | none =>
    have member : release ∈ (catalog.added release).releases :=
      perm.mem_iff.2 (List.mem_append_right _ (List.mem_singleton_self release))
    exact absurd (beq_self_eq_true release.version) (List.find?_eq_none.1 found release member)
  | some other =>
    rcases List.mem_append.1 (perm.mem_iff.1 (List.mem_of_find?_eq_some found)) with earlier | same
    · exact absurd (List.find?_some found) (missing other earlier)
    · rw [List.mem_singleton.1 same]

/-- The last step of asking for a release: it is looked up among the known ones. -/
def lookUp (version : Version) : Query Release := do
  match (← get).release? version with
  | some release => pure release
  | none => throw (.unknownVersion version)

theorem run_lookUp {catalog : Catalog} {version : Version} {release : Release}
    (known : catalog.release? version = some release) :
    run (lookUp version) catalog = (.ok release, catalog) := by
  rw [lookUp, run_bind_ok (run_get _), known]
  rfl

theorem ends_release (version : Version) :
    Ends service catalog (.release version) (catalog.ask service (.release version)).1
      (catalog.ask service (.release version)).2 := by
  have fetched := run_fetchText service catalog (Release.taggedPath version) Release.parse
  rw [ask, query, run_map, queryRelease, run_bind_ok (run_get _), isAvailable]
  cases known : catalog.release? version with
  | some release =>
    rw [if_neg (by simp)]
    change Ends service catalog _ ((run (lookUp version) catalog).1.map _) (run (lookUp version) catalog).2
    rw [run_lookUp known]
    exact .known known
  | none =>
    rw [if_pos (by simp)]
    cases answered : catalog.told service (Release.taggedPath version) Release.parse with
    | error failure =>
      rw [answered] at fetched
      rw [run_bind_error fetched]
      exact .untagged known answered
    | ok release =>
      rw [answered] at fetched
      rw [run_bind_ok fetched]
      by_cases wanted : release.version = version
      · subst wanted
        rw [if_neg (by simp), run_bind_ok (run_modify _ _)]
        have unknown : (catalog.asked (description (Release.taggedPath release.version))).release?
            release.version = none := known
        have found := run_lookUp (release?_added unknown)
        change Ends service catalog _ ((run (lookUp release.version) (added _ release)).1.map _)
          (run (lookUp release.version) (added _ release)).2
        rw [found]
        exact .tagged known answered rfl
      · rw [if_pos wanted]
        exact .mistagged known answered wanted

theorem ends_versions :
    Ends service catalog .versions (catalog.ask service .versions).1
      (catalog.ask service .versions).2 := by
  have listed := ends_available service catalog
  rw [ask, query, run_map] at listed
  rw [ask, query, run_map, queryVersions, run_bind_ok (run_get _)]
  by_cases unknown : catalog.releases = []
  · rw [if_pos (List.isEmpty_iff.2 unknown)]
    cases ran : run (queryAvailable service) catalog with
    | mk answer after =>
      rw [ran] at listed
      cases answer with
      | ok releases =>
        rw [run_bind_ok ran]
        exact .versionsListed unknown listed
      | error failure =>
        rw [run_bind_error ran]
        exact .versionsUnlisted unknown listed
  · rw [if_neg (by simpa using unknown)]
    exact .versionsKnown unknown

theorem ends_archive (version : Version) :
    Ends service catalog (.archive version) (catalog.ask service (.archive version)).1
      (catalog.ask service (.archive version)).2 := by
  have found := ends_release service catalog version
  rw [ask, query, run_map] at found
  rw [ask, query, run_map, fetchArchive]
  cases ran : run (queryRelease service version) catalog with
  | mk answer after =>
    rw [ran] at found
    cases answer with
    | ok release =>
      rw [run_bind_ok ran]
      exact .archive found
    | error failure =>
      rw [run_bind_error ran]
      exact .unreleased found

/-- There are no other ends than these. -/
theorem ends_ask (inquiry : Inquiry) :
    Ends service catalog inquiry (catalog.ask service inquiry).1 (catalog.ask service inquiry).2 := by
  cases inquiry with
  | available => exact ends_available service catalog
  | latest => exact ends_latest service catalog
  | release version => exact ends_release service catalog version
  | versions => exact ends_versions service catalog
  | archive version => exact ends_archive service catalog version

end Ends

end Catalog

end ShaderDriver
