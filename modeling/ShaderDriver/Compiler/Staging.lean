import ShaderDriver.Compiler.State

namespace ShaderDriver.Staging

def sourcePath (world : World) : String × World :=
  let (id, world) := world.freshId
  (Path.join world.tempDir s!"shader-{id}.hlsl", world)

def artifactPath (world : World) (kind : ArtifactKind) : String × World :=
  let (id, world) := world.freshId
  (Path.join world.tempDir s!"{id}{kind.flag}.tmp", world)

/-- A request for memory that is bound to a temporary file, with the binding that it had before. -/
structure Staged where
  kind : ArtifactKind
  path : String
  previous : Binding

/-- Binds one kind to a fresh file if it is asked for in memory. -/
def stageKind (kind : ArtifactKind) :
    List Staged × ArtifactTable × World → List Staged × ArtifactTable × World
  | (staged, table, world) =>
    if (table.get kind).isMemoryRequest then
      let (path, world) := artifactPath world kind
      (staged ++ [⟨kind, path, table.get kind⟩], table.toFile kind path, world)
    else (staged, table, world)

/-- Binds every request for memory to a fresh file, in the order of kinds. -/
def stage (table : ArtifactTable) (world : World) : List Staged × ArtifactTable × World :=
  ArtifactKind.all.foldl (fun done kind => stageKind kind done) ([], table, world)

/-- Deletes a temporary file unless it is to be kept; a file that cannot be deleted stays. -/
def discard (cleanup : Cleanup) (path : String) (world : World) : World :=
  match cleanup, world.removeFile path with
  | .remove, .ok after => after
  | _, _ => world

/-- Reads a temporary file back. An artifact that cannot be read leaves its kind empty. -/
def collect (cleanup : Cleanup) (staged : Staged) (table : ArtifactTable) (world : World) :
    ArtifactTable × World :=
  let binding := match world.readBytes staged.path with
    | .ok bytes => Binding.memory bytes
    | .error _ => .empty
  (table.set staged.kind binding, discard cleanup staged.path world)

def reconcile (cleanup : Cleanup) (staged : List Staged) (table : ArtifactTable) (world : World) :
    ArtifactTable × World :=
  staged.foldl (fun done one => collect cleanup one done.1 done.2) (table, world)

def restore (cleanup : Cleanup) (staged : List Staged) (table : ArtifactTable) (world : World) :
    ArtifactTable × World :=
  staged.foldl (fun done one =>
    (done.1.set one.kind one.previous, discard cleanup one.path done.2)) (table, world)

/-- The compiler's options for the artifacts that go to files, in the order of kinds. -/
def arguments (table : ArtifactTable) : List String :=
  table.entries.flatMap fun (kind, binding) =>
    match binding.path? with
    | some path => [kind.flag, path]
    | none => []

end ShaderDriver.Staging
