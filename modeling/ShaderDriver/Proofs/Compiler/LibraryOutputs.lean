import ShaderDriver.Proofs.Compiler.Interfaces
import ShaderDriver.Proofs.Compiler.LibrarySession

namespace ShaderDriver

/-- The binding of a kind after a compile that may have an output for it. A buffer from earlier does not
survive. -/
def Binding.delivered (output : Option Bytes) : Binding → Binding
  | empty => .empty
  | file path => .file path
  | pending | memory _ => output.elim .empty .memory

theorem ArtifactTable.get_filled (output : ArtifactKind → Option Bytes) (table : ArtifactTable)
    (kind : ArtifactKind) :
    (table.filled output ArtifactKind.all).get kind = (table.get kind).delivered (output kind) := by
  simp only [filled, kind.mem_all, true_and]
  cases table.get kind with
  | empty | file => rfl
  | pending | memory => cases output kind <;> rfl

/-- The outputs of a compile are delivered: each to the binding of its kind, and those with a file to their
files, as far as these can be written. If two kinds share a file, the later one counts. -/
structure Delivered (output : ArtifactKind → Option Bytes) (table : ArtifactTable) (before : World)
    (after : ArtifactTable) (left : World) : Prop where
  bindings (kind : ArtifactKind) : after.get kind = (table.get kind).delivered (output kind)
  files : left =
    before.attemptAll (ArtifactKind.writes output (ArtifactKind.listing ArtifactKind.all table.sinkPath))
  written (kind : ArtifactKind) (path : String) (bytes : Bytes) (bound : table.get kind = .file path)
    (produced : output kind = some bytes) (writable : before.Writable path)
    (last : ∀ other path', kind.index < other.index → table.get other = .file path' →
      (output other).isSome → before.Distinct path' path) : left.found path = some bytes
  untouched : World.ChangedAt ((ArtifactKind.writes output
    (ArtifactKind.listing ArtifactKind.all table.sinkPath)).map Prod.fst) before left

theorem LibraryCompiler.delivered_deliverAll (result : LibraryResult) (table : ArtifactTable)
    (world : World) :
    Delivered result.artifact table world (deliverAll result table world).1
      (deliverAll result table world).2 := by
  rw [deliverAll_eq]
  refine ⟨table.get_filled result.artifact, rfl, ?_, World.changedAt_attemptAll _ world⟩
  intro kind path bytes bound produced writable last
  obtain ⟨earlier, later, split, behind⟩ :=
    ArtifactKind.writes_split (ArtifactTable.sinkPath_eq_some.2 bound) produced
  rw [split]
  refine World.found_attemptAll writable fun write member => ?_
  obtain ⟨other, after, goes, produced'⟩ := behind write member
  exact last other write.1 after (ArtifactTable.sinkPath_eq_some.1 goes)
    (Option.isSome_iff_exists.2 ⟨_, produced'⟩)

namespace LibrarySession

variable {τ : Type}

/-- What a compile may leave behind. If it fails, all that is kept is as it was but the source path, which
stays too if the source was not loaded, and no file has changed; if it succeeds, what the library has
produced is delivered. -/
def Settled (session : LibrarySession τ) (call : LibraryCall) (after : LibrarySession τ) :
    Except CompileError Summary → Prop
  | .error error =>
    (∃ core sourcePath, after.compiler = { session.compiler with
      core, state := { session.compiler.state with sourcePath } }) ∧
    (∃ nextId, after.world = { session.world with nextId }) ∧
    ∀ path, error = .noSuchFile path → after = session
  | .ok _ => ∃ source name world handler result core,
    session.Starts call source name world ∧ (∃ nextId, world = { session.world with nextId }) ∧
    session.compiler.library.includes session.compiler.includeDirs = .ok handler ∧
    session.compiler.library.compile source (session.arguments name) handler world
      session.compiler.core = (.ok result, core) ∧
    Delivered (fun kind => result.output (AbstractCompiler.published kind).2)
      session.compiler.state.artifacts world after.compiler.state.artifacts after.world

/-- Naming a buffer changes nothing but the supply of names. -/
theorem Starts.world_eq {session : LibrarySession τ} {call : LibraryCall} {source : Bytes} {name : String}
    {world : World} (starts : session.Starts call source name world) :
    ∃ nextId, world = { session.world with nextId } := by
  cases starts with
  | file | named => exact ⟨session.world.nextId, rfl⟩
  | unnamed => exact ⟨session.world.nextId + 1, rfl⟩

theorem Ends.settled {session : LibrarySession τ} {call : LibraryCall}
    {outcome : Except CompileError Summary} {compiler : LibraryCompiler τ} {world : World}
    (ends : session.Ends call outcome compiler world) :
    session.Settled call ⟨compiler, world⟩ outcome := by
  cases ends with
  | unloaded called reason =>
    exact ⟨⟨session.compiler.core, session.compiler.state.sourcePath, rfl⟩,
      ⟨session.world.nextId, rfl⟩, fun _ _ => rfl⟩
  | withoutIncludes starts reason =>
    refine ⟨⟨session.compiler.core, _, rfl⟩, starts.world_eq, ?_⟩
    rintro path unusable
    cases unusable
  | failed starts included failed =>
    refine ⟨⟨_, _, rfl⟩, starts.world_eq, ?_⟩
    rintro path unusable
    cases unusable
  | @finished source name world handler result core starts included compiled =>
    refine ⟨source, name, world, handler, result, core, starts, starts.world_eq, included, compiled, ?_⟩
    simp only [AbstractCompiler.published_eq]
    exact LibraryCompiler.delivered_deliverAll result session.compiler.state.artifacts world

/-- A compiler of a library with an object and a hash, which is asked for these and for more. Of an earlier
compile it holds an object, and there is a file for debug information. -/
def assorted : LibrarySession Unit where
  compiler :=
    { library :=
        { create := .ok ()
          load := fun _ _ => .ok [7]
          compile := fun _ _ _ _ core =>
            (.ok ⟨0, none, fun number => [(1, [1, 2]), (4, [3])].lookup number⟩, core) }
      core := ()
      state :=
        { artifacts := (((ArtifactTable.empty.set .object (.memory [9])).toMemory .reflection).toFile .hash
            "/a.hash").toFile .debugInfo "/a.pdb" } }
  world := { tree := ⟨[(["a.pdb"], .file [5] false)]⟩ }

end LibrarySession

end ShaderDriver
