import ShaderDriver.Artifact.Kind
import ShaderDriver.Text.Utf8

namespace ShaderDriver

/-- Where an artifact is asked to go. -/
inductive Sink where
  | memory
  | file (path : String)
deriving DecidableEq, Repr

namespace Sink

/-- The sink that a destination names: the word `memory`, or else a file. -/
def ofDestination (destination : String) : Sink :=
  if destination = "memory" then .memory else .file destination

end Sink

/-- What is known of one kind of artifact: not asked for, written to a file, asked for in memory, or
held in memory since the last compile. -/
inductive Binding where
  | empty
  | file (path : String)
  | pending
  | memory (bytes : Bytes)
deriving DecidableEq, Repr

namespace Binding

def isEmpty : Binding → Bool
  | empty => true
  | _ => false

/-- Whether the artifact is asked for in memory. A buffer from an earlier compile still asks. -/
def isMemoryRequest : Binding → Bool
  | pending | memory _ => true
  | _ => false

def path? : Binding → Option String
  | file path => some path
  | _ => none

def bytes? : Binding → Option Bytes
  | memory bytes => some bytes
  | _ => none

end Binding

/-- One binding for each kind of artifact. Memory that is asked for is filled by a compile. -/
@[ext] structure ArtifactTable where
  get : ArtifactKind → Binding

namespace ArtifactTable

def empty : ArtifactTable := ⟨fun _ => .empty⟩

/-- Binds one kind anew. -/
def set (table : ArtifactTable) (kind : ArtifactKind) (binding : Binding) : ArtifactTable :=
  ⟨fun other => if other = kind then binding else table.get other⟩

def toFile (table : ArtifactTable) (kind : ArtifactKind) (path : String) : ArtifactTable :=
  table.set kind (.file path)

def toMemory (table : ArtifactTable) (kind : ArtifactKind) : ArtifactTable :=
  table.set kind .pending

def disable (table : ArtifactTable) (kind : ArtifactKind) : ArtifactTable :=
  table.set kind .empty

def route (table : ArtifactTable) (kind : ArtifactKind) : Sink → ArtifactTable
  | .memory => table.toMemory kind
  | .file path => table.toFile kind path

/-- All kinds with their bindings, in the order of kinds. -/
def entries (table : ArtifactTable) : List (ArtifactKind × Binding) :=
  ArtifactKind.all.map fun kind => (kind, table.get kind)

def isEmpty (table : ArtifactTable) : Bool := table.entries.all fun entry => entry.2.isEmpty

/-- Hands over the bytes held for a kind, which then asks for them anew. Other bindings stay. -/
def takeBytes (table : ArtifactTable) (kind : ArtifactKind) : Option Bytes × ArtifactTable :=
  match table.get kind with
  | .memory bytes => (some bytes, table.toMemory kind)
  | _ => (none, table)

@[simp] theorem get_set (table : ArtifactTable) (kind other : ArtifactKind) (binding : Binding) :
    (table.set kind binding).get other = if other = kind then binding else table.get other := rfl

end ArtifactTable

end ShaderDriver
