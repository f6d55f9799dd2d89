import ShaderDriver.Proofs.World.Changes

namespace ShaderDriver.World

/-- Writes a file, or leaves the world as it is if there can be no file at the path. -/
def attempt (world : World) (path : String) (bytes : Bytes) : World :=
  (world.writeFile path bytes).toOption.getD world

/-- Attempts to write files, one after the other. -/
def attemptAll (world : World) (writes : List (String × Bytes)) : World :=
  writes.foldl (fun world write => world.attempt write.1 write.2) world

section Attempt

variable {world : World} {path : String} {bytes : Bytes}

theorem attempt_of_ok {after : World} (written : world.writeFile path bytes = .ok after) :
    world.attempt path bytes = after := by
  rw [attempt, written]
  rfl

theorem writeFile_attempt (writable : world.Writable path) (bytes : Bytes) :
    world.writeFile path bytes = .ok (world.attempt path bytes) := by
  obtain ⟨after, written⟩ := writable.writeFile bytes
  rw [attempt_of_ok written, written]

theorem attempt_of_not_writable (closed : ¬ world.Writable path) (bytes : Bytes) :
    world.attempt path bytes = world := by
  cases written : world.writeFile path bytes with
  | error fault =>
    rw [attempt, written]
    rfl
  | ok after =>
    obtain ⟨place, _, located, free, _⟩ := writeFile_eq_ok written
    exact absurd ⟨place, located, free⟩ closed

theorem changedAt_attempt (world : World) (path : String) (bytes : Bytes) :
    ChangedAt [path] world (world.attempt path bytes) := by
  by_cases writable : world.Writable path
  · exact changedAt_writeFile (writeFile_attempt writable bytes)
  · rw [attempt_of_not_writable writable]
    exact ChangedAt.refl _ _

theorem writable_attempt {other : String} :
    (world.attempt path bytes).Writable other ↔ world.Writable other := by
  by_cases writable : world.Writable path
  · exact writable_writeFile (writeFile_attempt writable bytes)
  · rw [attempt_of_not_writable writable]

end Attempt

section AttemptAll

variable {writes earlier later : List (String × Bytes)} {world after : World}

theorem attemptAll_append :
    world.attemptAll (earlier ++ later) = (world.attemptAll earlier).attemptAll later :=
  List.foldl_append

/-- Where every file can be written, none is passed over. -/
theorem attemptAll_of_writeAll (written : writeAll writes world = .ok after) :
    world.attemptAll writes = after := by
  induction writes generalizing world with
  | nil => exact Except.ok.inj written
  | cons write writes ih =>
    obtain ⟨between, first, rest⟩ := writeAll_cons_eq_ok.1 written
    rw [attemptAll, List.foldl_cons, attempt_of_ok first]
    exact ih rest

theorem changedAt_attemptAll (writes : List (String × Bytes)) (world : World) :
    ChangedAt (writes.map Prod.fst) world (world.attemptAll writes) := by
  induction writes generalizing world with
  | nil => exact ChangedAt.refl _ _
  | cons write writes ih =>
    have first := changedAt_attempt world write.1 write.2
    have rest := ih (world.attempt write.1 write.2)
    rw [List.map_cons]
    exact (first.mono (by simp)).trans (rest.mono (List.subset_cons_self _ _))

theorem writable_attemptAll {path : String} :
    (world.attemptAll writes).Writable path ↔ world.Writable path := by
  induction writes generalizing world with
  | nil => rfl
  | cons write writes ih =>
    rw [attemptAll, List.foldl_cons]
    exact ih.trans writable_attempt

/-- A file that can be written holds what was written to it last. -/
theorem found_attemptAll {path : String} {bytes : Bytes} (writable : world.Writable path)
    (last : ∀ write ∈ later, world.Distinct write.1 path) :
    (world.attemptAll (earlier ++ (path, bytes) :: later)).found path = some bytes := by
  have before := (changedAt_attemptAll earlier world).samePlaces
  have still : (world.attemptAll earlier).Writable path := writable_attemptAll.2 writable
  have written := writeFile_attempt still bytes
  have rest := changedAt_attemptAll later ((world.attemptAll earlier).attempt path bytes)
  have same := before.trans (samePlaces_writeFile written)
  -- The later writes are at other places, wherever the earlier ones were.
  rw [attemptAll_append, attemptAll, List.foldl_cons, ← attemptAll]
  rw [rest.found, found_writeFile_self written]
  intro other member
  obtain ⟨write, among, rfl⟩ := List.mem_map.1 member
  exact (last write among).transfer same

end AttemptAll

end ShaderDriver.World
