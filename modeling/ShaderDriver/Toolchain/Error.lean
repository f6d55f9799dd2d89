import ShaderDriver.Toolchain.Version
import ShaderDriver.World.Fault

namespace ShaderDriver

/-- A failure to deal with toolchains. -/
inductive ToolchainError where
  | invalidVersion (text : String)
  | notJson
  | invalidRelease (reason : String)
  | transport (path reason : String)
  | unknownVersion (version : Version)
  | noReleases
  | archiveUnavailable (version : Version)
  | fileSystem (path : String) (fault : Fault)
deriving DecidableEq, Repr

namespace ToolchainError

def message : ToolchainError → String
  | invalidVersion text => "invalid version `" ++ text ++ "`"
  | notJson => "invalid release description: not JSON"
  | invalidRelease reason => s!"invalid release description: {reason}"
  | transport path reason => "failed to fetch `" ++ path ++ "`: " ++ reason
  | unknownVersion version => s!"no release {version.display} available"
  | noReleases => "no releases available"
  | archiveUnavailable version => s!"no archive available for release {version.display}"
  | fileSystem path fault => s!"I/O error at {path}: {fault.message}"

end ToolchainError

def Version.parse (s : String) : Except ToolchainError Version :=
  match Version.read? s with
  | some version => .ok version
  | none => .error (.invalidVersion s)

end ShaderDriver
