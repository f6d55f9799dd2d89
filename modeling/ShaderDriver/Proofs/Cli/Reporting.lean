import ShaderDriver.Proofs.Cli.Invocation
import ShaderDriver.Proofs.World.Attempts

namespace ShaderDriver

namespace ArtifactReport

theorem kind_of_describe {kind : ArtifactKind} {binding : Binding} {report : ArtifactReport}
    (described : describe kind binding = some report) : report.kind = kind := by
  cases binding <;> cases described <;> rfl

theorem ofTable_eq (table : ArtifactTable) :
    ofTable table = ArtifactKind.all.filterMap fun kind => describe kind (table.get kind) := by
  rw [ofTable, ArtifactTable.entries, List.filterMap_map]
  rfl

/-- Each kind is reported at most once, in the order of kinds. -/
theorem kinds_ofTable (table : ArtifactTable) : ((ofTable table).map kind).Sublist ArtifactKind.all := by
  rw [ofTable_eq]
  exact ArtifactKind.sublist_filterMap (fun _ _ described => kind_of_describe described) ArtifactKind.all

theorem mem_ofTable {table : ArtifactTable} {report : ArtifactReport} :
    report ∈ ofTable table ↔ describe report.kind (table.get report.kind) = some report := by
  rw [ofTable_eq, List.mem_filterMap]
  constructor
  · rintro ⟨kind, -, described⟩
    rwa [kind_of_describe described]
  · intro described
    exact ⟨report.kind, report.kind.mem_all, described⟩

theorem mem_ofTable_file {table : ArtifactTable} {kind : ArtifactKind} {path : String} :
    ⟨kind, .file path⟩ ∈ ofTable table ↔ table.get kind = .file path := by
  rw [mem_ofTable]
  cases table.get kind <;> simp [describe]

theorem mem_ofTable_memory {table : ArtifactTable} {kind : ArtifactKind} {size : Nat} {digest : String} :
    ⟨kind, .memory size digest⟩ ∈ ofTable table ↔
      ∃ bytes, table.get kind = .memory bytes ∧ size = bytes.length ∧ digest = Xxh3.hex bytes := by
  rw [mem_ofTable]
  cases table.get kind <;> simp [describe, eq_comm]

end ArtifactReport

namespace Cli

/-- What is reported after a child has left the world: each file that was asked for, and each buffer that
was asked for and that the child has left at the path of its kind, with size and digest. -/
structure Reported (sinks : List (ArtifactKind × Sink)) (temporary : ArtifactKind → String) (after : World)
    (reports : List ArtifactReport) : Prop where
  ordered : (reports.map ArtifactReport.kind).Sublist ArtifactKind.all
  file (kind : ArtifactKind) (path : String) :
    ⟨kind, .file path⟩ ∈ reports ↔ (kind, .file path) ∈ sinks
  memory (kind : ArtifactKind) (size : Nat) (digest : String) :
    ⟨kind, .memory size digest⟩ ∈ reports ↔ (kind, .memory) ∈ sinks ∧
      ∃ bytes, after.found (temporary kind) = some bytes ∧ size = bytes.length ∧ digest = Xxh3.hex bytes

/-- Every file that is reported is there. -/
def Truthful (reports : List ArtifactReport) (world : World) : Prop :=
  ∀ report ∈ reports, ∀ path, report.destination = .file path → world.isFile path = true

theorem Reported.truthful_iff {sinks : List (ArtifactKind × Sink)} {temporary : ArtifactKind → String}
    {after : World} {reports : List ArtifactReport} (reported : Reported sinks temporary after reports)
    (world : World) :
    Truthful reports world ↔ ∀ kind path, (kind, .file path) ∈ sinks → world.isFile path = true := by
  constructor
  · intro truthful kind path asked
    exact truthful ⟨kind, .file path⟩ ((reported.file kind path).2 asked) path rfl
  · rintro there ⟨kind, destination⟩ member path rfl
    exact there kind path ((reported.file kind path).1 member)

/-- What is left at other paths than those of the temporary files stays. -/
theorem Attempt.isFile_cleared {attempt : Attempt} {after : World} {path : String}
    (apart : ∀ temporary ∈ attempt.temporaries, after.Distinct temporary path) :
    (attempt.cleared after).isFile path = after.isFile path := by
  have changed := Staging.changedAt_discardAll attempt.cleanup attempt.temporaries after
  rw [cleared, World.isFile_eq_found, World.isFile_eq_found, changed.found apart]

theorem get_returned_routed (artifacts : ArtifactsConfig) (world after : World) (kind : ArtifactKind) :
    let table := ArtifactTable.empty.routed artifacts.entries
    (Staging.returned table world after).get kind =
      match artifacts.sink kind with
      | none => .empty
      | some .memory => Staging.readBack (after.found (Staging.ownPath table world kind))
      | some (.file path) => .file path := by
  intro table
  simp only [Staging.returned, table, ArtifactTable.get_routed_entries]
  rcases artifacts.sink kind with _ | _ | path <;> rfl

theorem reported_routed (artifacts : ArtifactsConfig) (world after : World) :
    let table := ArtifactTable.empty.routed artifacts.entries
    Reported artifacts.entries (Staging.ownPath table world) after
      (ArtifactReport.ofTable (Staging.returned table world after)) := by
  intro table
  refine ⟨ArtifactReport.kinds_ofTable _, ?_, ?_⟩
  · intro kind path
    rw [ArtifactReport.mem_ofTable_file, get_returned_routed, ArtifactsConfig.mem_entries]
    rcases artifacts.sink kind with _ | _ | other
    · simp
    · cases after.found (Staging.ownPath table world kind) <;> simp [Staging.readBack]
    · simp
  · intro kind size digest
    rw [ArtifactReport.mem_ofTable_memory, get_returned_routed, ArtifactsConfig.mem_entries]
    rcases artifacts.sink kind with _ | _ | other
    · simp
    · cases after.found (Staging.ownPath table world kind) <;> simp [Staging.readBack]
    · simp

/-- A compile that gives a summary has started its child, and has what the child left. -/
theorem compileConfigured_eq_ok {launch : Launcher} {config : Config} {options : CompileOptions}
    {world left : World} {job : Job} {summary : Summary} {table : ArtifactTable}
    (compiled : compileConfigured launch config options world = (.ok (job, summary, table), left)) :
    ∃ artifacts source before exit after, Prepared world config options artifacts job ∧
      job.Placed world source before ∧
      launch (job.attempt source before).invocation (job.attempt source before).before = .ok (exit, after) ∧
      table = Staging.returned job.state.artifacts before after ∧
      left = (job.attempt source before).cleared after := by
  rcases Job.prepare_cases world config options with
    ⟨failure, refused, -⟩ | ⟨artifacts, ready, known, prepared⟩
  · simp only [compileConfigured, refused] at compiled
    cases compiled
  rcases compileConfigured_cases known prepared with
    ⟨failure, -, failed⟩ | ⟨source, before, placed, answers⟩
  · rw [failed] at compiled
    cases compiled
  rw [answers] at compiled
  cases ran : launch (ready.attempt source before).invocation (ready.attempt source before).before with
  | error refusal =>
    rw [ran] at compiled
    cases compiled
  | ok ended =>
    obtain ⟨exit, after⟩ := ended
    rw [ran] at compiled
    cases compiled
    exact ⟨artifacts, source, before, exit, after, prepared, placed, ran, rfl, rfl⟩

/-- A compile reports the files that were asked for, and of the buffers those that the child has left. The
report is true exactly if there is a file at each path that was asked for, and at a path of no temporary file
there is one exactly if the child has left it. -/
theorem report_truthful_iff {launch : Launcher} {config : Config} {options : CompileOptions}
    {world left : World} {job : Job} {summary : Summary} {table : ArtifactTable}
    (compiled : compileConfigured launch config options world = (.ok (job, summary, table), left)) :
    ∃ sinks attempt exit after, Attempt.Assembled world config options sinks attempt ∧
      launch attempt.invocation attempt.before = .ok (exit, after) ∧
      Reported sinks attempt.temporary after (ArtifactReport.ofTable table) ∧
      (Truthful (ArtifactReport.ofTable table) left ↔
        ∀ kind path, (kind, .file path) ∈ sinks → left.isFile path = true) ∧
      ∀ path, (∀ temporary ∈ attempt.temporaries, after.Distinct temporary path) →
        left.isFile path = after.isFile path := by
  obtain ⟨artifacts, source, before, exit, after, prepared, placed, ran, rfl, rfl⟩ :=
    compileConfigured_eq_ok compiled
  have reported : Reported artifacts.entries (job.attempt source before).temporary after
      (ArtifactReport.ofTable (Staging.returned job.state.artifacts before after)) := by
    have table : job.state.artifacts = ArtifactTable.empty.routed artifacts.entries := prepared.table
    simp only [Job.attempt, table]
    exact reported_routed artifacts before after
  exact ⟨artifacts.entries, job.attempt source before, exit, after, prepared.assembled placed, ran, reported,
    reported.truthful_iff _, fun path apart => Attempt.isFile_cleared apart⟩

/-- A command line that asks for an object in a file and a hash in memory. -/
def ordered : CompileOptions where
  file := "a.hlsl"
  artifacts := ["object=/a.dxil", "hash=memory"]

/-- A child that writes both. -/
def diligent : Launcher := fun _ world =>
  .ok (⟨some 0, []⟩, world.attemptAll
    [("/a.dxil", [1, 2]), ("/tmp/00000000000000000000000000000000-Fsh.tmp", [3])])

theorem report_truthful_iff_diligent :
    let done := compileConfigured diligent {} ordered { tree := ⟨[(["tmp"], .directory)]⟩ }
    ∃ job summary table, done.1 = .ok (job, summary, table) ∧
      Truthful (ArtifactReport.ofTable table) done.2 ∧
      ArtifactReport.ofTable table =
        [⟨.object, .file "/a.dxil"⟩, ⟨.hash, .memory 1 (Xxh3.hex [3])⟩] := by
  intro done
  have compiled : ∃ job summary table left, done = (.ok (job, summary, table), left) := ⟨_, _, _, _, rfl⟩
  obtain ⟨job, summary, table, left, compiled⟩ := compiled
  have merged : Settings.mergeArtifacts {} ordered.artifacts =
      .ok [(.object, .file "/a.dxil"), (.hash, .memory)] := by decide +kernel
  have there : done.2.isFile "/a.dxil" = true := by decide +kernel
  have listed : done.1.toOption.map (fun made => ArtifactReport.ofTable made.2.2) =
      some [⟨.object, .file "/a.dxil"⟩, ⟨.hash, .memory 1 (Xxh3.hex [3])⟩] := by decide +kernel
  rw [compiled] at there listed
  obtain ⟨sinks, attempt, exit, after, assembled, -, -, truthful, -⟩ := report_truthful_iff compiled
  have sinks_eq := Except.ok.inj (merged.symm.trans assembled.merged)
  rw [compiled]
  refine ⟨job, summary, table, rfl, truthful.2 ?_, Option.some.inj listed⟩
  intro kind path asked
  rw [← sinks_eq] at asked
  simp only [List.mem_cons, Prod.mk.injEq, Sink.file.injEq, reduceCtorEq, and_false, List.not_mem_nil,
    or_false] at asked
  rw [asked.2]
  exact there

/-- A child that writes nothing, whatever it is asked for. -/
def negligent : Launcher := fun _ world => .ok (⟨some 1, []⟩, world)

/-- The object is reported, but it is not there. -/
theorem not_truthful_negligent :
    let done := compileConfigured negligent {} ordered { tree := ⟨[(["tmp"], .directory)]⟩ }
    ∃ job summary table, done.1 = .ok (job, summary, table) ∧
      ⟨.object, .file "/a.dxil"⟩ ∈ ArtifactReport.ofTable table ∧
      done.2.fileExists "/a.dxil" = false ∧ ¬ Truthful (ArtifactReport.ofTable table) done.2 := by
  intro done
  have missing : done.2.isFile "/a.dxil" = false := by decide +kernel
  refine ⟨_, _, _, rfl, List.mem_cons_self, by decide +kernel, fun truthful => ?_⟩
  have there := truthful _ List.mem_cons_self "/a.dxil" rfl
  rw [missing] at there
  cases there

end Cli

end ShaderDriver
