import ShaderDriver.Artifact.Table
import ShaderDriver.Compiler.Cleanup
import ShaderDriver.Subprocess
import ShaderDriver.Profile
import ShaderDriver.Summary

namespace ShaderDriver

/-- Why a compile gave no summary. What the compiler itself reports is not among these errors. -/
inductive CompileError where
  | process (error : ProcessError)
  | fileSystem (path : String) (fault : Fault)
  | notUsable (reason : String)
  | noSuchFile (path : String)
deriving DecidableEq, Repr

namespace CompileError

def message : CompileError → String
  | process error => error.message
  | fileSystem path fault => s!"I/O error at {path}: {fault.message}"
  | notUsable reason => s!"compiler library is not usable: {reason}"
  | noSuchFile path => s!"no such file: {path}"

end CompileError

/-- Configuration and last results of a compiler. The arguments listed here are given to every compile. -/
structure CompilerState where
  arguments : List String := []
  profile : Option Profile := none
  entry : Option String := none
  sourcePath : Option String := none
  messages : List Message := []
  artifacts : ArtifactTable := .empty
  cleanup : Cleanup := .remove

namespace CompilerState

def addArguments (state : CompilerState) (arguments : List String) : CompilerState :=
  { state with arguments := state.arguments ++ arguments }

/-- Sets the target profile, which is an argument too. -/
def setProfile (state : CompilerState) (profile : Profile) : CompilerState :=
  { state.addArguments ["-T", profile.display] with profile := some profile }

/-- Sets the entry point, which is an argument too. -/
def setEntry (state : CompilerState) (entry : String) : CompilerState :=
  { state.addArguments ["-E", entry] with entry := some entry }

def setCleanup (state : CompilerState) (cleanup : Cleanup) : CompilerState :=
  { state with cleanup }

def route (state : CompilerState) (kind : ArtifactKind) (sink : Sink) : CompilerState :=
  { state with artifacts := state.artifacts.route kind sink }

def disable (state : CompilerState) (kind : ArtifactKind) : CompilerState :=
  { state with artifacts := state.artifacts.disable kind }

def takeBytes (state : CompilerState) (kind : ArtifactKind) : Option Bytes × CompilerState :=
  let (bytes, artifacts) := state.artifacts.takeBytes kind
  (bytes, { state with artifacts })

def reset (state : CompilerState) : CompilerState := { cleanup := state.cleanup }

def substituteName (output staged name : String) : String :=
  String.ofList (Text.replaceAll staged.toList name.toList output.toList)

/-- Records the end of a compile. If the source has a name of its own, the name is written for the path
before the output is read. -/
def record (state : CompilerState) (exitCode : Option Int) (arguments : List String)
    (output source : String) (name : Option String) : Summary × CompilerState :=
  let text := match name with
    | some name => substituteName output source name
    | none => output
  let messages := Diagnostic.parse text
  (⟨exitCode, arguments, messages⟩, { state with messages })

/-- A name that counts: the empty one is none. -/
def properName (name : Option String) : Option String := name.filter fun name => !name.isEmpty

end CompilerState

end ShaderDriver
