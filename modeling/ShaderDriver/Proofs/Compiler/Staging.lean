import ShaderDriver.Compiler.Staging
import ShaderDriver.Proofs.World.Files

namespace ShaderDriver

theorem ArtifactKind.flag_injective_at_end {a b : ArtifactKind}
    (same : a.flag.toList.getLast? = b.flag.toList.getLast?) : a = b := by
  cases a <;> cases b <;> first | rfl | exact absurd same (by decide)

theorem ArtifactKind.flag_flat (kind : ArtifactKind) : '/' ∉ kind.flag.toList := by
  cases kind <;> decide

namespace Staging

/-- The kinds that are asked for in memory, among some. -/
def demand (table : ArtifactTable) (kinds : List ArtifactKind) : Nat :=
  kinds.countP fun kind => (table.get kind).isMemoryRequest

def ownName (number : Nat) (kind : ArtifactKind) : String :=
  World.idDigits number ++ kind.flag ++ ".tmp"

/-- The temporary file of a kind. The kinds before it have taken their names already. -/
def ownPath (table : ArtifactTable) (world : World) (kind : ArtifactKind) : String :=
  Path.join world.tempDir
    (ownName (world.nextId + demand table (ArtifactKind.all.takeWhile (· ≠ kind))) kind)

theorem ownName_toList (number : Nat) (kind : ArtifactKind) :
    (ownName number kind).toList =
      (World.idDigits number).toList ++ kind.flag.toList ++ ['.', 't', 'm', 'p'] := by
  simp only [ownName, String.toList_append]
  rfl

theorem ownName_isName (number : Nat) (kind : ArtifactKind) :
    Path.IsName (ownName number kind).toList := by
  have length : 4 ≤ (ownName number kind).toList.length := by
    rw [ownName_toList, List.length_append]
    exact Nat.le_add_left ..
  refine ⟨?_, ?_, ?_, ?_⟩
  · intro none
    rw [none] at length
    cases length
  · rw [ownName_toList]
    simp only [List.mem_append, not_or]
    exact ⟨⟨World.idDigits_flat number, kind.flag_flat⟩, by decide⟩
  · intro here
    rw [here] at length
    simp at length
  · intro above
    rw [above] at length
    simp at length

theorem ownName_kind {number number' : Nat} {kind kind' : ArtifactKind}
    (same : ownName number kind = ownName number' kind') : kind = kind' := by
  have chars := congrArg String.toList same
  rw [ownName_toList, ownName_toList] at chars
  have last := congrArg List.getLast? (List.append_cancel_right chars)
  have flagged (kind : ArtifactKind) : kind.flag.toList ≠ [] := by cases kind <;> decide
  rw [List.getLast?_append_of_ne_nil _ (flagged kind),
    List.getLast?_append_of_ne_nil _ (flagged kind')] at last
  exact ArtifactKind.flag_injective_at_end last

/-- The temporary files of two kinds are never at one place. -/
theorem ownPath_apart {table : ArtifactTable} {world : World} {kind other : ArtifactKind}
    (different : kind ≠ other) (after : World) :
    after.Distinct (ownPath table world kind) (ownPath table world other) := by
  intro place located elsewhere
  rw [ownPath] at located elsewhere
  have name := World.locate_join (ownName_isName _ kind) located
  have name' := World.locate_join (ownName_isName _ other) elsewhere
  exact different (ownName_kind (Option.some.inj (name.symm.trans name')))

/-- The world in which some kinds have taken the names of their temporary files. -/
def named (table : ArtifactTable) (world : World) (kinds : List ArtifactKind) : World :=
  { world with nextId := world.nextId + demand table kinds }

/-- The table in which the requests for memory, among some kinds, go to temporary files. -/
def redirected (table : ArtifactTable) (world : World) (kinds : List ArtifactKind) : ArtifactTable :=
  ⟨fun kind =>
    if kind ∈ kinds ∧ (table.get kind).isMemoryRequest then .file (ownPath table world kind)
    else table.get kind⟩

def kept (table : ArtifactTable) (world : World) (kind : ArtifactKind) : Option Staged :=
  if (table.get kind).isMemoryRequest then some ⟨kind, ownPath table world kind, table.get kind⟩
  else none

theorem takeWhile_ne {kind : ArtifactKind} {earlier later : List ArtifactKind}
    (split : ArtifactKind.all = earlier ++ kind :: later) (fresh : kind ∉ earlier) :
    ArtifactKind.all.takeWhile (· ≠ kind) = earlier := by
  rw [split, List.takeWhile_append_of_pos]
  · simp
  · intro other member
    simp only [decide_eq_true_eq]
    rintro rfl
    exact fresh member

theorem redirected_append {table : ArtifactTable} {world : World} {earlier : List ArtifactKind}
    {kind : ArtifactKind} :
    redirected table world (earlier ++ [kind]) =
      if (table.get kind).isMemoryRequest then
        (redirected table world earlier).toFile kind (ownPath table world kind)
      else redirected table world earlier := by
  by_cases request : (table.get kind).isMemoryRequest
  · rw [if_pos request]
    ext other
    by_cases same : other = kind
    · simp [redirected, ArtifactTable.toFile, same, request]
    · simp [redirected, ArtifactTable.toFile, same]
  · rw [if_neg request]
    ext other
    by_cases same : other = kind
    · simp [redirected, same, request]
    · simp [redirected, same]

theorem artifactPath_named {table : ArtifactTable} {world : World} {earlier later : List ArtifactKind}
    {kind : ArtifactKind} (split : ArtifactKind.all = earlier ++ kind :: later) (fresh : kind ∉ earlier)
    (request : (table.get kind).isMemoryRequest) :
    artifactPath (named table world earlier) kind =
      (ownPath table world kind, named table world (earlier ++ [kind])) := by
  have counted : demand table (earlier ++ [kind]) = demand table earlier + 1 := by
    simp [demand, request]
  unfold artifactPath named
  rw [ownPath]
  rw [takeWhile_ne split fresh, counted]
  rfl

theorem stage_earlier (table : ArtifactTable) (world : World) {earlier later : List ArtifactKind}
    (split : ArtifactKind.all = earlier ++ later) :
    earlier.foldl (fun done kind => stageKind kind done) ([], table, world) =
      (earlier.filterMap (kept table world), redirected table world earlier, named table world earlier) := by
  induction earlier using List.reverseRecOn generalizing later with
  | nil => simp [redirected, named, demand]
  | append_singleton earlier kind ih =>
    rw [List.append_assoc, List.singleton_append] at split
    have fresh : kind ∉ earlier := by
      have nodup := ArtifactKind.all_nodup
      rw [split, List.nodup_append] at nodup
      exact fun member => nodup.2.2 kind member kind List.mem_cons_self rfl
    have untouched : (redirected table world earlier).get kind = table.get kind := by
      simp [redirected, fresh]
    rw [List.foldl_append, List.foldl_cons, List.foldl_nil, ih split, stageKind, untouched,
      redirected_append, List.filterMap_append]
    by_cases request : (table.get kind).isMemoryRequest
    · simp only [if_pos request, artifactPath_named split fresh request, kept, List.filterMap_cons,
        List.filterMap_nil]
    · have counted : demand table (earlier ++ [kind]) = demand table earlier := by
        simp [demand, request]
      simp only [if_neg request, kept, named, counted, List.filterMap_cons, List.filterMap_nil,
        List.append_nil]

theorem stage_eq (table : ArtifactTable) (world : World) :
    stage table world =
      (ArtifactKind.all.filterMap (kept table world), redirected table world ArtifactKind.all,
        named table world ArtifactKind.all) :=
  stage_earlier table world (List.append_nil _).symm

theorem mem_kept {table : ArtifactTable} {world : World} {one : Staged} :
    one ∈ ArtifactKind.all.filterMap (kept table world) ↔
      (table.get one.kind).isMemoryRequest ∧ one.path = ownPath table world one.kind ∧
        one.previous = table.get one.kind := by
  simp only [List.mem_filterMap, ArtifactKind.mem_all, true_and, kept]
  constructor
  · rintro ⟨kind, found⟩
    split at found
    · rename_i request
      cases found
      exact ⟨request, rfl, rfl⟩
    · cases found
  · rintro ⟨request, path, previous⟩
    refine ⟨one.kind, ?_⟩
    rw [if_pos request, ← path, ← previous]

/-- Two staged requests of different kinds whose files are never at one place. -/
structure Apart (one other : Staged) : Prop where
  kinds : one.kind ≠ other.kind
  places : ∀ (world : World) (place : Place),
    world.locate one.path = .ok place → world.locate other.path ≠ .ok place

theorem kept_apart (table : ArtifactTable) (world : World) :
    (ArtifactKind.all.filterMap (kept table world)).Pairwise Apart := by
  have nodup : ArtifactKind.all.Pairwise (· ≠ ·) := ArtifactKind.all_nodup
  refine List.pairwise_filterMap.2 (nodup.imp ?_)
  intro kind other different one first two second
  unfold kept at first second
  split at first
  · split at second
    · cases first
      cases second
      exact ⟨different, fun after => ownPath_apart different after⟩
    · cases second
  · cases first

/-- The binding of an artifact that was asked for in memory, when it is read back. -/
def readBack : Option Bytes → Binding
  | some bytes => .memory bytes
  | none => .empty

theorem collect_eq (cleanup : Cleanup) (one : Staged) (table : ArtifactTable) (world : World) :
    collect cleanup one table world =
      (table.set one.kind (readBack (world.found one.path)), discard cleanup one.path world) := by
  unfold collect World.found
  cases world.readBytes one.path <;> rfl

theorem found_discard {cleanup : Cleanup} {world : World} {path other : String}
    (distinct : world.Distinct path other) :
    (discard cleanup path world).found other = world.found other := by
  unfold discard
  split
  · rename_i after removed
    exact World.found_removeFile removed distinct
  · rfl

theorem reconcile_cons (cleanup : Cleanup) (one : Staged) (staged : List Staged) (table : ArtifactTable)
    (world : World) :
    reconcile cleanup (one :: staged) table world =
      reconcile cleanup staged (table.set one.kind (readBack (world.found one.path)))
        (discard cleanup one.path world) := by
  rw [reconcile, List.foldl_cons, collect_eq, reconcile]

theorem reconcile_other {cleanup : Cleanup} {staged : List Staged} {table : ArtifactTable} {world : World}
    {kind : ArtifactKind} (missing : ∀ one ∈ staged, one.kind ≠ kind) :
    (reconcile cleanup staged table world).1.get kind = table.get kind := by
  induction staged generalizing table world with
  | nil => rfl
  | cons one staged ih =>
    have here := missing one List.mem_cons_self
    rw [reconcile_cons, ih fun other member => missing other (List.mem_cons_of_mem _ member),
      ArtifactTable.get_set, if_neg (Ne.symm here)]

theorem reconcile_member {cleanup : Cleanup} {staged : List Staged} {table : ArtifactTable} {world : World}
    (apart : staged.Pairwise Apart) {one : Staged} (member : one ∈ staged) :
    (reconcile cleanup staged table world).1.get one.kind = readBack (world.found one.path) := by
  induction staged generalizing table world with
  | nil => cases member
  | cons first staged ih =>
    obtain ⟨separate, apart⟩ := List.pairwise_cons.1 apart
    rw [reconcile_cons]
    rcases List.mem_cons.1 member with rfl | later
    · rw [reconcile_other fun other member => (separate other member).kinds.symm,
        ArtifactTable.get_set, if_pos rfl]
    · rw [ih apart later, found_discard ((separate one later).places world)]

/-- The table after a compile whose child left the world at `after`. -/
def returned (table : ArtifactTable) (world after : World) : ArtifactTable :=
  ⟨fun kind =>
    if (table.get kind).isMemoryRequest then readBack (after.found (ownPath table world kind))
    else table.get kind⟩

/-- Each kind that was asked for in memory has the bytes that the child left at its own path, and the
other kinds have the bindings that they had. -/
theorem reconcile_kept (cleanup : Cleanup) (table : ArtifactTable) (world after : World) :
    (reconcile cleanup (ArtifactKind.all.filterMap (kept table world))
      (redirected table world ArtifactKind.all) after).1 = returned table world after := by
  ext kind
  by_cases request : (table.get kind).isMemoryRequest
  · have member : (⟨kind, ownPath table world kind, table.get kind⟩ : Staged) ∈
        ArtifactKind.all.filterMap (kept table world) := mem_kept.2 ⟨request, rfl, rfl⟩
    simp only [returned, if_pos request]
    exact reconcile_member (kept_apart table world) member
  · simp only [returned, if_neg request]
    rw [reconcile_other]
    · simp [redirected, request]
    · rintro one member rfl
      exact request (mem_kept.1 member).1

theorem restore_get {cleanup : Cleanup} {staged : List Staged} {table original : ArtifactTable}
    {world : World} {kind : ArtifactKind}
    (previous : ∀ one ∈ staged, one.previous = original.get one.kind)
    (covered : (∀ one ∈ staged, one.kind ≠ kind) → table.get kind = original.get kind) :
    (restore cleanup staged table world).1.get kind = original.get kind := by
  induction staged generalizing table world with
  | nil => exact covered (by simp)
  | cons one staged ih =>
    rw [restore, List.foldl_cons]
    refine ih (fun other member => previous other (List.mem_cons_of_mem _ member)) fun missing => ?_
    rw [ArtifactTable.get_set]
    split
    · rename_i same
      rw [same]
      exact previous one List.mem_cons_self
    · rename_i different
      refine covered fun other member => ?_
      rcases List.mem_cons.1 member with rfl | later
      · exact Ne.symm different
      · exact missing other later

/-- If the child does not start, every kind has the binding that it had. -/
theorem restore_kept (cleanup : Cleanup) (table : ArtifactTable) (world after : World) :
    (restore cleanup (ArtifactKind.all.filterMap (kept table world))
      (redirected table world ArtifactKind.all) after).1 = table := by
  ext kind
  refine restore_get (fun one member => (mem_kept.1 member).2.2) fun missing => ?_
  have request : ¬ (table.get kind).isMemoryRequest := fun request =>
    missing _ (mem_kept.2 ⟨request, rfl, rfl⟩ :
      (⟨kind, ownPath table world kind, table.get kind⟩ : Staged) ∈ _) rfl
  simp [redirected, request]

/-- Where an artifact goes in a compile: to the file that is asked for, or to the temporary file of its
kind if it is asked for in memory. -/
def destination (table : ArtifactTable) (world : World) (kind : ArtifactKind) : Option String :=
  match table.get kind with
  | .empty => none
  | .file path => some path
  | .pending | .memory _ => some (ownPath table world kind)

theorem destination_of_request {table : ArtifactTable} {world : World} {kind : ArtifactKind}
    (request : (table.get kind).isMemoryRequest) :
    destination table world kind = some (ownPath table world kind) := by
  unfold destination
  cases bound : table.get kind <;> simp_all [Binding.isMemoryRequest]

/-- The kinds that are asked for with their destinations, in the order of kinds. -/
def requested (table : ArtifactTable) (world : World) : List (ArtifactKind × String) :=
  ArtifactKind.all.filterMap fun kind => (destination table world kind).map (kind, ·)

/-- A flag and a path for each request. -/
def options (requests : List (ArtifactKind × String)) : List String :=
  requests.flatMap fun request => [request.1.flag, request.2]

theorem path?_redirected (table : ArtifactTable) (world : World) (kind : ArtifactKind) :
    ((redirected table world ArtifactKind.all).get kind).path? = destination table world kind := by
  simp only [redirected, destination, kind.mem_all, true_and]
  cases table.get kind <;> rfl

theorem arguments_redirected (table : ArtifactTable) (world : World) :
    arguments (redirected table world ArtifactKind.all) = options (requested table world) := by
  simp only [arguments, ArtifactTable.entries, options, requested, List.flatMap_map, path?_redirected]
  induction ArtifactKind.all with
  | nil => rfl
  | cons kind kinds ih =>
    rw [List.flatMap_cons, ih]
    cases goes : destination table world kind with
    | none => simp [goes]
    | some path => simp [goes]

/-- The name of a temporary file is made from a number that is given out in the call. -/
theorem ownPath_fresh {table : ArtifactTable} {world : World} {kind : ArtifactKind}
    (request : (table.get kind).isMemoryRequest) :
    ∃ number, world.nextId ≤ number ∧ number < (named table world ArtifactKind.all).nextId ∧
      ownPath table world kind = Path.join world.tempDir (ownName number kind) := by
  obtain ⟨earlier, later, split, fresh⟩ := List.eq_append_cons_of_mem kind.mem_all
  have counted : demand table ArtifactKind.all = demand table earlier + (demand table later + 1) := by
    rw [split, demand, List.countP_append, List.countP_cons, if_pos request]
    rfl
  refine ⟨_, Nat.le_add_right _ _, ?_, rfl⟩
  rw [takeWhile_ne split fresh, named, counted]
  simp only
  omega

/-- No two kinds share a temporary file. -/
theorem ownPath_own {table : ArtifactTable} {world : World} {kind other : ArtifactKind}
    (same : ownPath table world kind = ownPath table world other) : kind = other :=
  ownName_kind (Path.join_injective (ownName_isName _ kind).flat (ownName_isName _ other).flat same)

end Staging

end ShaderDriver
