import ShaderDriver.Compiler.Library
import ShaderDriver.Proofs.Compiler.Staging
import ShaderDriver.Proofs.World.Attempts

namespace ShaderDriver

namespace ArtifactKind

/-- The kinds that have a path, among some, with their paths. -/
def listing (kinds : List ArtifactKind) (paths : ArtifactKind → Option String) :
    List (ArtifactKind × String) :=
  kinds.filterMap fun kind => (paths kind).map (kind, ·)

/-- What is written for a list of kinds and paths: the outputs that there are. -/
def writes (output : ArtifactKind → Option Bytes) (requests : List (ArtifactKind × String)) :
    List (String × Bytes) :=
  requests.filterMap fun request => (output request.1).map (request.2, ·)

variable {paths : ArtifactKind → Option String} {output : ArtifactKind → Option Bytes}

theorem listing_append (earlier later : List ArtifactKind) :
    listing (earlier ++ later) paths = listing earlier paths ++ listing later paths :=
  List.filterMap_append

theorem listing_cons (kind : ArtifactKind) (kinds : List ArtifactKind) :
    listing (kind :: kinds) paths = listing [kind] paths ++ listing kinds paths :=
  listing_append [kind] kinds

theorem writes_append (earlier later : List (ArtifactKind × String)) :
    writes output (earlier ++ later) = writes output earlier ++ writes output later :=
  List.filterMap_append

theorem writes_listing (kind : ArtifactKind) :
    writes output (listing [kind] paths) =
      (paths kind).elim [] fun path => (output kind).elim [] fun bytes => [(path, bytes)] := by
  cases goes : paths kind with
  | none => simp [listing, writes, goes]
  | some path => cases produced : output kind <;> simp [listing, writes, goes, produced]

theorem mem_listing {kinds : List ArtifactKind} {kind : ArtifactKind} {path : String} :
    (kind, path) ∈ listing kinds paths ↔ kind ∈ kinds ∧ paths kind = some path := by
  simp only [listing, List.mem_filterMap, Option.map_eq_some_iff]
  constructor
  · rintro ⟨other, member, found, goes, same⟩
    cases same
    exact ⟨member, goes⟩
  · rintro ⟨member, goes⟩
    exact ⟨kind, member, path, goes, rfl⟩

theorem mem_writes_listing {kinds : List ArtifactKind} {write : String × Bytes} :
    write ∈ writes output (listing kinds paths) ↔
      ∃ kind ∈ kinds, paths kind = some write.1 ∧ output kind = some write.2 := by
  simp only [writes, List.mem_filterMap, Option.map_eq_some_iff]
  constructor
  · rintro ⟨⟨kind, path⟩, member, bytes, produced, rfl⟩
    obtain ⟨among, goes⟩ := mem_listing.1 member
    exact ⟨kind, among, goes, produced⟩
  · rintro ⟨kind, among, goes, produced⟩
    exact ⟨(kind, write.1), mem_listing.2 ⟨among, goes⟩, write.2, produced, rfl⟩

theorem mem_writes {write : String × Bytes} :
    write ∈ writes output (listing all paths) ↔
      ∃ kind, paths kind = some write.1 ∧ output kind = some write.2 := by
  simp only [mem_writes_listing, mem_all, true_and]

/-- The writes of a kind with a path and an output stand between those of the kinds before and behind it. -/
theorem writes_split {kind : ArtifactKind} {path : String} {bytes : Bytes}
    (goes : paths kind = some path) (produced : output kind = some bytes) :
    ∃ earlier later, writes output (listing all paths) = earlier ++ (path, bytes) :: later ∧
      ∀ write ∈ later, ∃ other, kind.index < other.index ∧ paths other = some write.1 ∧
        output other = some write.2 := by
  obtain ⟨before, behind, split, -⟩ := List.eq_append_cons_of_mem kind.mem_all
  have ordered : all.Pairwise fun one other => one.index < other.index := by decide
  rw [split, List.pairwise_append, List.pairwise_cons] at ordered
  have own : writes output (listing [kind] paths) = [(path, bytes)] := by
    rw [writes_listing, goes, Option.elim_some, produced, Option.elim_some]
  refine ⟨writes output (listing before paths), writes output (listing behind paths), ?_, ?_⟩
  · rw [split, listing_append, listing_cons, writes_append, writes_append, own, List.singleton_append]
  · intro write member
    obtain ⟨other, among, goes', produced'⟩ := mem_writes_listing.1 member
    exact ⟨other, ordered.2.1.1 other among, goes', produced'⟩

/-- Different kinds never go to one place. -/
def Apart (world : World) (paths : ArtifactKind → Option String) : Prop :=
  ∀ kind other path path', kind ≠ other → paths kind = some path → paths other = some path' →
    world.Distinct path path'

instance (world : World) (paths : ArtifactKind → Option String) : Decidable (Apart world paths) :=
  decidable_of_iff (∀ kind ∈ all, ∀ other ∈ all, kind ≠ other → ∀ path ∈ paths kind,
      ∀ path' ∈ paths other, world.Distinct path path')
    ⟨fun checked kind other path path' different goes goes' =>
        checked kind kind.mem_all other other.mem_all different path goes path' goes',
      fun apart kind _ other _ different path goes path' goes' =>
        apart kind other path path' different goes goes'⟩

theorem Apart.pairwise_writes {world : World} (apart : Apart world paths)
    (output : ArtifactKind → Option Bytes) :
    (writes output (listing all paths)).Pairwise fun write other => world.Distinct write.1 other.1 := by
  have nodup : all.Pairwise (· ≠ ·) := all_nodup
  refine List.pairwise_filterMap.2 (List.pairwise_filterMap.2 (nodup.imp ?_))
  intro kind other different request first request' second write third write' fourth
  obtain ⟨path, goes, rfl⟩ := Option.map_eq_some_iff.1 first
  obtain ⟨path', goes', rfl⟩ := Option.map_eq_some_iff.1 second
  obtain ⟨bytes, _, rfl⟩ := Option.map_eq_some_iff.1 third
  obtain ⟨bytes', _, rfl⟩ := Option.map_eq_some_iff.1 fourth
  exact apart kind other path path' different goes goes'

section Written

variable {world after : World} {order : List (String × Bytes)}
variable (permuted : order.Perm (writes output (listing all paths)))
variable (written : World.writeAll order world = .ok after)

include permuted written

/-- In whatever order the outputs are written, each path holds the output of its kind. Without an output
it holds what it held. -/
theorem found_written (apart : Apart world paths) {kind : ArtifactKind} {path : String}
    (goes : paths kind = some path) : after.found path = (output kind).or (world.found path) := by
  cases produced : output kind with
  | some bytes =>
    have pairwise := (permuted.pairwise_iff fun distinct => World.Distinct.symm distinct).2
      (apart.pairwise_writes output)
    have member : (path, bytes) ∈ order := permuted.mem_iff.2 (mem_writes.2 ⟨kind, goes, produced⟩)
    rw [World.found_writeAll_member written pairwise member, Option.some_or]
  | none =>
    rw [Option.none_or]
    refine World.found_writeAll written fun write member => ?_
    obtain ⟨other, goes', produced'⟩ := mem_writes.1 (permuted.mem_iff.1 member)
    -- What is written belongs to kinds with an output, and this one has none.
    refine apart other kind write.1 path ?_ goes' goes
    rintro rfl
    rw [produced] at produced'
    cases produced'

end Written

end ArtifactKind

theorem Binding.path?_of_request {binding : Binding} (request : binding.isMemoryRequest) :
    binding.path? = none := by
  cases binding <;> first | rfl | cases request

namespace Staging

theorem path?_readBack (found : Option Bytes) : (readBack found).path? = none := by
  cases found <;> rfl

theorem samePlaces_discard (cleanup : Cleanup) (path : String) (world : World) :
    World.SamePlaces world (discard cleanup path world) := by
  unfold discard
  split
  · rename_i removed
    exact World.samePlaces_removeFile removed
  · exact fun _ _ => Iff.rfl

theorem samePlaces_reconcile (cleanup : Cleanup) (staged : List Staged) (table : ArtifactTable)
    (world : World) : World.SamePlaces world (reconcile cleanup staged table world).2 := by
  induction staged generalizing table world with
  | nil => exact fun _ _ => Iff.rfl
  | cons one staged ih =>
    rw [reconcile_cons]
    exact (samePlaces_discard cleanup one.path world).trans (ih _ _)

/-- Reading temporary files back changes nothing of what is read elsewhere. -/
theorem found_reconcile {cleanup : Cleanup} {staged : List Staged} {table : ArtifactTable} {world : World}
    {other : String} (apart : ∀ one ∈ staged, world.Distinct one.path other) :
    (reconcile cleanup staged table world).2.found other = world.found other := by
  induction staged generalizing table world with
  | nil => rfl
  | cons one staged ih =>
    have same := samePlaces_discard cleanup one.path world
    rw [reconcile_cons,
      ih fun later member => (apart later (List.mem_cons_of_mem _ member)).transfer same,
      found_discard (apart one List.mem_cons_self)]

end Staging

/-- The output of a kind in a library's result. -/
def LibraryResult.artifact (result : LibraryResult) (kind : ArtifactKind) : Option Bytes :=
  result.output kind.outputNumber

namespace ArtifactTable

/-- The file that a kind is asked for in. -/
def sinkPath (table : ArtifactTable) (kind : ArtifactKind) : Option String := (table.get kind).path?

theorem sinkPath_eq_some {table : ArtifactTable} {kind : ArtifactKind} {path : String} :
    table.sinkPath kind = some path ↔ table.get kind = .file path := by
  unfold sinkPath
  cases table.get kind <;> simp [Binding.path?]

/-- The table in which the requests for memory, among some kinds, are answered with the outputs. -/
def filled (output : ArtifactKind → Option Bytes) (table : ArtifactTable) (kinds : List ArtifactKind) :
    ArtifactTable :=
  ⟨fun kind =>
    if kind ∈ kinds ∧ (table.get kind).isMemoryRequest then Staging.readBack (output kind)
    else table.get kind⟩

variable {output : ArtifactKind → Option Bytes} {table : ArtifactTable}

theorem sinkPath_filled (kinds : List ArtifactKind) :
    (table.filled output kinds).sinkPath = table.sinkPath := by
  funext kind
  simp only [sinkPath, filled]
  split
  · rename_i asked
    rw [Binding.path?_of_request asked.2, Staging.path?_readBack]
  · rfl

theorem filled_nil : table.filled output [] = table := by
  ext kind
  simp [filled]

theorem filled_of_request {kind : ArtifactKind} (request : (table.get kind).isMemoryRequest) :
    table.filled output [kind] = table.set kind (Staging.readBack (output kind)) := by
  ext other
  by_cases same : other = kind
  · simp [filled, same, request]
  · simp [filled, same]

theorem filled_of_not_request {kind : ArtifactKind} (idle : ¬ (table.get kind).isMemoryRequest) :
    table.filled output [kind] = table := by
  ext other
  by_cases same : other = kind
  · simp [filled, same, idle]
  · simp [filled, same]

/-- Answering requests in two turns is answering them in one. -/
theorem filled_filled (earlier later : List ArtifactKind) :
    (table.filled output earlier).filled output later = table.filled output (earlier ++ later) := by
  ext kind
  simp only [filled, List.mem_append]
  by_cases request : (table.get kind).isMemoryRequest
  · by_cases before : kind ∈ earlier
    · simp [before, request]
    · simp [before, request]
  · simp [request]

end ArtifactTable

/-- An artifact goes to the file that it is asked for in, or to the temporary file of its kind. -/
theorem Staging.destination_eq_some {table : ArtifactTable} {world : World} {kind : ArtifactKind}
    {path : String} :
    destination table world kind = some path ↔
      table.sinkPath kind = some path ∨
        (table.get kind).isMemoryRequest ∧ ownPath table world kind = path := by
  unfold destination ArtifactTable.sinkPath
  cases table.get kind <;> simp [Binding.path?, Binding.isMemoryRequest]

namespace LibraryCompiler

variable {result : LibraryResult} {table : ArtifactTable} {world : World}

theorem deliver_of_request {kind : ArtifactKind} (request : (table.get kind).isMemoryRequest) :
    deliver result kind table world =
      (table.set kind (Staging.readBack (result.artifact kind)), world) := by
  unfold deliver LibraryResult.artifact
  cases bound : table.get kind with
  | empty | file =>
    rw [bound] at request
    cases request
  | pending | memory => cases result.output kind.outputNumber <;> rfl

/-- One kind is delivered as it is asked for: a request for memory is answered, and a file is written if
there is an output and it can be written. -/
theorem deliver_eq (kind : ArtifactKind) :
    deliver result kind table world =
      (table.filled result.artifact [kind],
        world.attemptAll (ArtifactKind.writes result.artifact
          (ArtifactKind.listing [kind] table.sinkPath))) := by
  rw [ArtifactKind.writes_listing]
  by_cases request : (table.get kind).isMemoryRequest
  · have nowhere : table.sinkPath kind = none := Binding.path?_of_request request
    rw [nowhere, deliver_of_request request, ArtifactTable.filled_of_request request]
    rfl
  · rw [ArtifactTable.filled_of_not_request request]
    unfold deliver LibraryResult.artifact
    cases bound : table.get kind with
    | pending | memory =>
      rw [bound] at request
      exact absurd rfl request
    | empty =>
      have nowhere : table.sinkPath kind = none := congrArg Binding.path? bound
      rw [nowhere]
      rfl
    | file path =>
      have goes := ArtifactTable.sinkPath_eq_some.2 bound
      rw [goes]
      cases result.output kind.outputNumber <;> rfl

/-- Whatever can be written, the library's outputs are delivered as they are asked for. -/
theorem deliver_foldl (kinds : List ArtifactKind) :
    kinds.foldl (fun done kind => deliver result kind done.1 done.2) (table, world) =
      (table.filled result.artifact kinds,
        world.attemptAll (ArtifactKind.writes result.artifact
          (ArtifactKind.listing kinds table.sinkPath))) := by
  induction kinds generalizing table world with
  | nil =>
    rw [List.foldl_nil, ArtifactTable.filled_nil]
    rfl
  | cons kind kinds ih =>
    -- The later files are those of the first table: filling memory moves no sink.
    rw [List.foldl_cons, deliver_eq, ih, ArtifactTable.filled_filled, List.singleton_append,
      ArtifactTable.sinkPath_filled, ← World.attemptAll_append, ← ArtifactKind.writes_append,
      ← ArtifactKind.listing_cons]

theorem deliverAll_eq :
    deliverAll result table world =
      (table.filled result.artifact ArtifactKind.all,
        world.attemptAll (ArtifactKind.writes result.artifact
          (ArtifactKind.listing ArtifactKind.all table.sinkPath))) :=
  deliver_foldl ArtifactKind.all

theorem run_finished {τ : Type} {library : LibraryCompiler τ} {source : Bytes} {name : String}
    {handler : IncludeHandler} {core : τ}
    (included : library.library.includes library.includeDirs = .ok handler)
    (compiled : library.library.compile source (library.state.arguments ++ [name]) handler world
      library.core = (.ok result, core)) :
    run source name library world =
      let delivered := deliverAll result library.state.artifacts world
      let recorded := ({ library.state with sourcePath := some name } : CompilerState).record
        (some result.status) (library.state.arguments ++ [name]) (result.errors.getD "") name none
      (.ok recorded.1, { library with core, state := { recorded.2 with artifacts := delivered.1 } },
        delivered.2) := by
  unfold run
  simp only [included, compiled]

end LibraryCompiler

end ShaderDriver
