import ShaderDriver.Toolchain.Error
import ShaderDriver.World.Basic

namespace ShaderDriver.Installation

def binary (installation : String) : String := Path.join (Path.join installation "bin") "dxc"

def directory (root : String) (version : Version) : String := Path.join root version.directoryName

def versionOf? (name : String) : Option Version :=
  (Text.strip? "dxc-".toList name.toList).bind fun rest => Version.read? (String.ofList rest)

/-- The versions installed below a root, newest first. An installation is a directory called `dxc-` and a
version that holds a compiler executable. -/
def versions (world : World) (root : String) : Except ToolchainError (List Version) :=
  match world.listDirectory root with
  | .error fault => .error (.fileSystem root fault)
  | .ok names =>
    let installed := names.filterMap fun name =>
      (versionOf? name).filter fun _ => world.isFile (binary (Path.join root name))
    .ok (Version.newestFirst id installed)

def latest (world : World) (root : String) : Except ToolchainError Version := do
  match (← versions world root).head? with
  | some version => pure version
  | none => throw .noReleases

def fetchArchive (version : Version) : Except ToolchainError Bytes :=
  .error (.archiveUnavailable version)

end ShaderDriver.Installation
