import ShaderDriver.Toolchain.Installation
import ShaderDriver.Toolchain.Release

namespace ShaderDriver

/-- A request for a resource below the service's root, in a wanted type. -/
structure Request where
  path : String
  accept : String
deriving DecidableEq, Repr

/-- A service: its answer to a request, which may depend on the requests before it. -/
abbrev Service := List Request → Request → Except ToolchainError Bytes

/-- The releases known so far, newest first, and the requests made for them. -/
structure Catalog where
  downloadDir : String
  releases : List Release := []
  requests : List Request := []

namespace Catalog

/-- A computation that may make requests and change the catalog, also when it fails. -/
abbrev Query (α : Type) := ExceptT ToolchainError (StateM Catalog) α

def descriptionType : String := "application/vnd.github+json"

def archiveType : String := "application/octet-stream"

def release? (catalog : Catalog) (version : Version) : Option Release :=
  catalog.releases.find? fun release => release.version == version

def isAvailable (catalog : Catalog) (version : Version) : Bool := (catalog.release? version).isSome

/-- The known versions, newest first. -/
def versions (catalog : Catalog) : List Version := catalog.releases.map Release.version

/-- The newest known version. -/
def newest? (catalog : Catalog) : Option Version := catalog.versions.head?

def installationDir (catalog : Catalog) (version : Version) : String :=
  Installation.directory catalog.downloadDir version

/-- Whether a version is unpacked where it is installed. -/
def isInstalled (catalog : Catalog) (world : World) (version : Version) : Bool :=
  world.isFile (Installation.binary (catalog.installationDir version))

def fetch (service : Service) (path accept : String) : Query Bytes := do
  let catalog ← get
  let request : Request := ⟨path, accept⟩
  set { catalog with requests := catalog.requests ++ [request] }
  liftExcept (service catalog.requests request)
where
  /-- The answer as the query's own. -/
  liftExcept (answer : Except ToolchainError Bytes) : Query Bytes := ExceptT.mk (pure answer)

/-- Fetches a description and decodes it; octets that are no text are replaced. -/
def fetchText (service : Service) (path : String) (decode : String → Except ToolchainError α) :
    Query α := do
  let body ← fetch service path descriptionType
  ExceptT.mk (pure (decode (String.ofList (Utf8.decodeLossy body))))

/-- Replaces what is known by the full listing, unless that is empty. -/
def queryAvailable (service : Service) : Query (List Release) := do
  let releases ← fetchText service Release.listingPath Release.parseListing
  if releases.isEmpty then throw .noReleases
  modify fun catalog => { catalog with releases }
  pure releases

/-- Fetches the latest release, adds it if it is newer than all that are known, and answers with the
newest version. -/
def queryLatest (service : Service) : Query Version := do
  let latest ← fetchText service Release.latestPath Release.parse
  modify fun catalog =>
    match catalog.newest? with
    | none => { catalog with releases := latest :: catalog.releases }
    | some newest =>
      if newest < latest.version then { catalog with releases := latest :: catalog.releases }
      else catalog
  match (← get).newest? with
  | some newest => pure newest
  | none => throw .noReleases

/-- Makes sure that a version is known, which takes a request if it was not. -/
def queryRelease (service : Service) (version : Version) : Query Release := do
  if !(← get).isAvailable version then
    let release ← fetchText service (Release.taggedPath version) Release.parse
    if release.version ≠ version then throw (.unknownVersion version)
    modify fun catalog =>
      { catalog with releases := Release.sort (catalog.releases ++ [release]) }
  match (← get).release? version with
  | some release => pure release
  | none => throw (.unknownVersion version)

/-- The known versions. The listing is fetched if nothing is known. -/
def queryVersions (service : Service) : Query (List Version) := do
  if (← get).releases.isEmpty then
    let _ ← queryAvailable service
  pure (← get).versions

def fetchArchive (service : Service) (version : Version) : Query Bytes := do
  let release ← queryRelease service version
  fetch service release.path archiveType

def run (query : Query α) (catalog : Catalog) : Except ToolchainError α × Catalog :=
  StateT.run (ExceptT.run query) catalog

end Catalog

end ShaderDriver
