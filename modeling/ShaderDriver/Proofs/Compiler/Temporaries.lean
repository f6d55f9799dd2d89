import ShaderDriver.Proofs.Compiler.Outcomes
import ShaderDriver.Proofs.World.Changes

namespace ShaderDriver

namespace Staging

theorem discard_keep (path : String) (world : World) : discard .keep path world = world := by
  unfold discard
  cases world.removeFile path <;> rfl

section Discard

variable {path : String} {world : World}

theorem changedAt_discard (cleanup : Cleanup) (path : String) (world : World) :
    World.ChangedAt [path] world (discard cleanup path world) := by
  unfold discard
  split
  · rename_i removed
    exact World.changedAt_removeFile removed
  · exact World.ChangedAt.refl _ _

theorem within_discard (cleanup : Cleanup) (path : String) (world : World) :
    World.Within (discard cleanup path world) world := by
  unfold discard
  split
  · rename_i removed
    exact World.within_removeFile removed
  · exact World.Within.refl world

/-- Where there is no directory, nothing is left. -/
theorem fileExists_discard (free : world.isDirectory path = false) :
    (discard .remove path world).fileExists path = false := by
  cases filled : world.fileExists path with
  | false => exact (within_discard .remove path world).fileExists filled
  | true =>
    obtain ⟨after, removed⟩ := World.removeFile_of_fileExists free filled
    have discarded : discard .remove path world = after := by simp only [discard, removed]
    rw [discarded]
    exact World.fileExists_removeFile removed

end Discard

/-- Deletes temporary files, one after the other, unless they are to be kept. -/
def discardAll (cleanup : Cleanup) (paths : List String) (world : World) : World :=
  paths.foldl (fun world path => discard cleanup path world) world

section DiscardAll

variable {paths : List String} {world : World}

theorem discardAll_append (cleanup : Cleanup) (earlier later : List String) (world : World) :
    discardAll cleanup (earlier ++ later) world = discardAll cleanup later (discardAll cleanup earlier world) :=
  List.foldl_append

theorem discardAll_keep : discardAll .keep paths world = world := by
  induction paths with
  | nil => rfl
  | cons path paths ih => rw [discardAll, List.foldl_cons, discard_keep, ← discardAll, ih]

theorem changedAt_discardAll (cleanup : Cleanup) (paths : List String) (world : World) :
    World.ChangedAt paths world (discardAll cleanup paths world) := by
  induction paths generalizing world with
  | nil => exact World.ChangedAt.refl _ _
  | cons path paths ih =>
    have first := (changedAt_discard cleanup path world).mono (List.cons_subset_cons path (List.nil_subset paths))
    exact first.trans ((ih _).mono (List.subset_cons_self path paths))

theorem within_discardAll (cleanup : Cleanup) (paths : List String) (world : World) :
    World.Within (discardAll cleanup paths world) world := by
  induction paths generalizing world with
  | nil => exact World.Within.refl world
  | cons path paths ih => exact (ih _).trans (within_discard cleanup path world)

theorem fileExists_discardAll (free : ∀ path ∈ paths, world.isDirectory path = false) :
    ∀ path ∈ paths, (discardAll .remove paths world).fileExists path = false := by
  induction paths generalizing world with
  | nil => nofun
  | cons first paths ih =>
    obtain ⟨here, others⟩ := List.forall_mem_cons.1 free
    have less := within_discard .remove first world
    -- The first file stays gone, as those that are deleted later only take more away.
    refine List.forall_mem_cons.2 ⟨?_, ih fun path member => less.isDirectory (others path member)⟩
    exact (within_discardAll .remove paths _).fileExists (fileExists_discard here)

end DiscardAll

theorem reconcile_world (cleanup : Cleanup) (staged : List Staged) (table : ArtifactTable) (world : World) :
    (reconcile cleanup staged table world).2 = discardAll cleanup (staged.map Staged.path) world := by
  induction staged generalizing table world with
  | nil => rfl
  | cons one staged ih => rw [reconcile_cons, ih, List.map_cons, discardAll, discardAll, List.foldl_cons]

theorem restore_world (cleanup : Cleanup) (staged : List Staged) (table : ArtifactTable) (world : World) :
    (restore cleanup staged table world).2 = discardAll cleanup (staged.map Staged.path) world := by
  induction staged generalizing table world with
  | nil => rfl
  | cons one staged ih =>
    rw [restore, List.foldl_cons, ← restore, ih, List.map_cons, discardAll, discardAll, List.foldl_cons]

end Staging

namespace ExternalCompiler

/-- The world as the child of a compile leaves it. A child that does not start changes nothing. -/
def left (launch : Launcher) (source : String) (compiler : ExternalCompiler) (world : World) : World :=
  match launch (compiler.invocation source world) (compiler.launchWorld world) with
  | .ok (_, after) => after
  | .error _ => compiler.launchWorld world

theorem run_world (launch : Launcher) (source : String) (name : Option String)
    (compiler : ExternalCompiler) (world : World) :
    (run launch source name compiler world).2.2 =
      Staging.discardAll compiler.state.cleanup ((compiler.staged world).map Staging.Staged.path)
        (compiler.left launch source world) := by
  unfold left
  cases ran : launch (compiler.invocation source world) (compiler.launchWorld world) with
  | error refusal => rw [run_refused name ran, Staging.restore_world]
  | ok ended =>
    obtain ⟨exit, after⟩ := ended
    rw [run_started name ran]
    exact Staging.reconcile_world ..

end ExternalCompiler

/-- The file that a buffer is written to for a call. -/
def Call.stagedSource (source : String) : Call → List String
  | .compileBuffer _ _ _ => [source]
  | _ => []

namespace Session

/-- The temporary files of a call: those of the requests for memory, and that of a buffer. -/
def temporaries (session : Session) (call : Call) (source : String) (world : World) : List String :=
  (session.compiler.staged world).map Staging.Staged.path ++ call.stagedSource source

section Temporaries

variable {session : Session} {call : Call} {launch : Launcher} {source : String} {world : World}

/-- A call ends with the temporary files, all of them and no others. -/
theorem Starts.world_eq (starts : session.Starts call launch source world) :
    (session.perform call).2.world =
      Staging.discardAll session.compiler.state.cleanup (session.temporaries call source world)
        (session.compiler.left launch source world) := by
  cases starts with
  | file =>
    have none : session.temporaries (.compileFile launch source) source session.world =
        (session.compiler.staged session.world).map Staging.Staged.path := List.append_nil _
    rw [none]
    exact ExternalCompiler.run_world ..
  | @buffer _ bytes name _ written =>
    have ran := ExternalCompiler.run_world launch (Staging.sourcePath session.world).1
      (CompilerState.properName name) session.compiler world
    rw [perform, ExternalCompiler.compileBuffer_staged launch name written, temporaries, Call.stagedSource, Staging.discardAll_append, ← ran]
    rfl

theorem Starts.changedAt (starts : session.Starts call launch source world) :
    World.ChangedAt (session.temporaries call source world) session.world
      (session.compiler.launchWorld world) := by
  cases starts with
  | file => exact World.changedAt_freshId _ _ _
  | @buffer _ bytes name _ written =>
    have first := World.changedAt_freshId (session.temporaries (.compileBuffer launch bytes name)
      (Staging.sourcePath session.world).1 world) session.world (session.world.nextId + 1)
    have second := (World.changedAt_writeFile written).mono (List.subset_append_right
      ((session.compiler.staged world).map Staging.Staged.path) _)
    exact (first.trans second).trans (World.changedAt_freshId _ _ _)

/-- A buffer is at its path when the child starts. -/
theorem found_source {bytes : Bytes} {name : Option String}
    (starts : session.Starts (.compileBuffer launch bytes name) launch source world) :
    (session.compiler.launchWorld world).found source = some bytes := by
  cases starts with
  | buffer written =>
    have named := World.changedAt_freshId [] world (session.compiler.launchWorld world).nextId
    exact (named.found nofun).trans (World.found_writeFile_self written)

/-- However a compile ends, its temporary files are deleted, or left as the child left them, and nothing
else is touched: neither before the child starts nor after it has ended is anything changed at other places,
such as those of the files that outputs are asked for in and that of the source. -/
theorem temporaries_cleared (starts : session.Starts call launch source world) :
    let temporaries := session.temporaries call source world
    let left := session.compiler.left launch source world
    let after := (session.perform call).2.world
    (session.compiler.state.cleanup = .remove → (∀ path ∈ temporaries, left.isDirectory path = false) →
      ∀ path ∈ temporaries, after.fileExists path = false) ∧
    (session.compiler.state.cleanup = .keep → after = left ∧
      ∀ bytes name refusal, call = .compileBuffer launch bytes name →
        launch (session.compiler.invocation source world) (session.compiler.launchWorld world) =
          .error refusal → after.found source = some bytes) ∧
    World.ChangedAt temporaries session.world (session.compiler.launchWorld world) ∧
    World.ChangedAt temporaries left after ∧
    ∀ other, (∀ path ∈ temporaries, left.Distinct path other) → after.found other = left.found other := by
  intro temporaries left after
  have cleared : after = Staging.discardAll session.compiler.state.cleanup temporaries left := starts.world_eq
  have changed : World.ChangedAt temporaries left after := by
    rw [cleared]
    exact Staging.changedAt_discardAll ..
  refine ⟨?_, ?_, starts.changedAt, changed, fun other distinct => changed.found distinct⟩
  · intro removes free
    rw [cleared, removes]
    exact Staging.fileExists_discardAll free
  · intro keeps
    have same : after = left := by rw [cleared, keeps, Staging.discardAll_keep]
    refine ⟨same, ?_⟩
    rintro bytes name refusal rfl refused
    have untouched : left = session.compiler.launchWorld world := by
      simp only [left, ExternalCompiler.left, refused]
    rw [same, untouched]
    exact found_source starts

end Temporaries

/-- A compiler that is asked for an object in memory. -/
def buffered : Session where
  compiler := { command := ⟨"dxc", "dxc"⟩, state := { artifacts := ArtifactTable.empty.toMemory .object } }
  world := { tree := ⟨[(["tmp"], .directory)]⟩ }

/-- A child that writes the object to the temporary file. -/
def objectWriter : Launcher := fun _ world =>
  let written := world.writeFile "/tmp/00000000000000000000000000000001-Fo.tmp" [1, 2]
  .ok (⟨some 0, []⟩, written.toOption.getD world)

theorem temporaries_cleared_buffered :
    let call := Call.compileBuffer objectWriter [7] none
    let source := (Staging.sourcePath buffered.world).1
    let staged := ((Staging.sourcePath buffered.world).2.writeFile source [7]).toOption.getD buffered.world
    buffered.Starts call objectWriter source staged ∧
      (buffered.temporaries call source staged).length = 2 ∧
      (∀ path ∈ buffered.temporaries call source staged,
        (buffered.compiler.left objectWriter source staged).fileExists path = true) ∧
      ∀ path ∈ buffered.temporaries call source staged,
        (buffered.perform call).2.world.fileExists path = false := by
  intro call source staged
  have writable : (Staging.sourcePath buffered.world).2.Writable source := by decide +kernel
  obtain ⟨after, written⟩ := writable.writeFile [7]
  have same : staged = after := by simp only [staged, written, Except.toOption, Option.getD_some]
  rw [← same] at written
  have starts : buffered.Starts call objectWriter source staged := .buffer written
  have free : ∀ path ∈ buffered.temporaries call source staged,
      (buffered.compiler.left objectWriter source staged).isDirectory path = false := by decide +kernel
  exact ⟨starts, by decide +kernel, by decide +kernel, (temporaries_cleared starts).1 rfl free⟩

end Session

end ShaderDriver
