import ShaderDriver.Proofs.World.Files

namespace ShaderDriver

theorem Tree.find?_insert_self {tree : Tree} {place : Place} (entry : Entry) (named : place ≠ []) :
    (tree.insert place entry).find? place = some entry := by
  obtain ⟨name, above, rfl⟩ := List.exists_cons_of_ne_nil named
  obtain ⟨entries⟩ := tree
  simp only [Tree.find?_cons, Tree.insert]
  split
  · rename_i present
    induction entries with
    | nil => cases present
    | cons old entries ih =>
      rw [List.map_cons]
      by_cases same : old.1 = name :: above
      · rw [if_pos (beq_iff_eq.2 same), List.lookup_cons_self]
      · have missed : (name :: above == old.1) = false := beq_eq_false_iff_ne.2 (Ne.symm same)
        rw [List.any_cons, beq_eq_false_iff_ne.2 same, Bool.false_or] at present
        rw [if_neg (by simpa using same), List.lookup_cons, missed]
        exact ih present
  · rename_i absent
    have missing : entries.lookup (name :: above) = none := by
      rw [List.lookup_eq_none_iff]
      intro old member
      rw [bne_iff_ne]
      exact fun same => absent (List.any_eq_true.2 ⟨old, member, beq_iff_eq.2 same.symm⟩)
    rw [List.lookup_append, missing, Option.none_or, List.lookup_cons_self]

theorem Tree.find?_insert {tree : Tree} {place other : Place} (entry : Entry) (apart : other ≠ place) :
    (tree.insert place entry).find? other = tree.find? other := by
  cases other with
  | nil => rfl
  | cons name above =>
    have missed : (name :: above == place) = false := beq_eq_false_iff_ne.2 apart
    obtain ⟨entries⟩ := tree
    simp only [Tree.find?_cons, Tree.insert]
    split
    · rename_i present
      clear present
      induction entries with
      | nil => rfl
      | cons old entries ih =>
        rw [List.map_cons]
        by_cases same : old.1 = place
        · rw [if_pos (beq_iff_eq.2 same), List.lookup_cons, List.lookup_cons, same, missed]
          exact ih
        · rw [if_neg (by simpa using same), List.lookup_cons, List.lookup_cons, ih]
    · rw [List.lookup_append, List.lookup_cons, missed, List.lookup_nil, Option.or_none]

namespace World

/-- A path to a file or to a free place, so that a file can be written to it. -/
def Writable (world : World) (path : String) : Prop :=
  ∃ place, world.locate path = .ok place ∧ world.tree.find? place ≠ some .directory

/-- A path with a slash at its end leads to a directory or nowhere. -/
theorem locate_slash {world : World} {path : String} {place : Place} (slash : path.toList.getLast? = some '/')
    (located : world.locate path = .ok place) : world.tree.find? place = some .directory := by
  obtain ⟨_, followed⟩ := locate_eq_ok.1 located
  rw [pieces, if_pos slash] at followed
  obtain ⟨between, _, last⟩ := follow_append_eq_ok.1 followed
  obtain ⟨directory, reached⟩ := follow_cons_eq_ok.1 last
  cases reached
  exact directory

/-- A file can be written exactly where there is no directory. -/
theorem locateForWriting_eq_ok {world : World} {path : String} {place : Place} :
    world.locateForWriting path = .ok place ↔
      world.locate path = .ok place ∧ world.tree.find? place ≠ some .directory := by
  unfold locateForWriting
  constructor
  · intro located
    simp only [bind, Except.bind] at located
    split at located
    · split at located <;> cases located
    · cases goes : world.locate path with
      | error fault => simp [goes] at located
      | ok there =>
        simp only [goes] at located
        split at located
        · cases located
        · rename_i free
          cases located
          exact ⟨rfl, free⟩
  · rintro ⟨located, free⟩
    have bare : Text.trimEnd (· == '/') path.toList = path.toList := by
      rw [Text.trimEnd, List.reverse_eq_iff, List.dropWhile_eq_self_iff]
      intro some slash
      refine free (locate_slash ?_ located)
      rw [← List.head?_reverse, List.head?_eq_getElem?, List.getElem?_eq_getElem some]
      exact congrArg Option.some (beq_iff_eq.1 slash)
    simp [bare, located, free, bind, Except.bind, pure, Except.pure]

theorem writable_iff {world : World} {path : String} :
    world.Writable path ↔ (world.locateForWriting path).isOk = true := by
  constructor
  · rintro ⟨place, target⟩
    rw [locateForWriting_eq_ok.2 target]
    rfl
  · intro found
    cases target : world.locateForWriting path with
    | error fault =>
      rw [target] at found
      cases found
    | ok place => exact ⟨place, locateForWriting_eq_ok.1 target⟩

instance (world : World) (path : String) : Decidable (world.Writable path) :=
  decidable_of_iff _ writable_iff.symm

/-- A path that a file can be written to is written to, whatever the bytes. -/
theorem Writable.writeFile {world : World} {path : String} (writable : world.Writable path)
    (bytes : Bytes) : ∃ after, world.writeFile path bytes = .ok after := by
  obtain ⟨place, target⟩ := writable
  rw [World.writeFile, locateForWriting_eq_ok.2 target]
  exact ⟨_, rfl⟩

theorem writeFile_eq_ok {world after : World} {path : String} {bytes : Bytes}
    (written : world.writeFile path bytes = .ok after) :
    ∃ place executable, world.locate path = .ok place ∧ world.tree.find? place ≠ some .directory ∧
      after = { world with tree := world.tree.insert place (.file bytes executable) } := by
  unfold writeFile at written
  cases target : world.locateForWriting path with
  | error fault => simp [target, bind, Except.bind] at written
  | ok place =>
    simp only [target, bind, Except.bind, pure, Except.pure] at written
    cases written
    obtain ⟨located, free⟩ := locateForWriting_eq_ok.1 target
    exact ⟨place, _, located, free, rfl⟩

/-- The directories are where they were. -/
theorem directories_writeFile {world after : World} {path : String} {bytes : Bytes}
    (written : world.writeFile path bytes = .ok after) (place : Place) :
    after.tree.find? place = some .directory ↔ world.tree.find? place = some .directory := by
  obtain ⟨target, executable, _, free, rfl⟩ := writeFile_eq_ok written
  by_cases same : place = target
  · rw [same, Tree.find?_insert_self _ (Tree.ne_nil_of_no_directory free)]
    exact iff_of_false nofun free
  · rw [Tree.find?_insert _ same]

theorem samePlaces_writeFile {world after : World} {path : String} {bytes : Bytes}
    (written : world.writeFile path bytes = .ok after) : SamePlaces world after := by
  have directories := directories_writeFile written
  obtain ⟨place, executable, _, _, rfl⟩ := writeFile_eq_ok written
  exact samePlaces_of_directories directories

theorem found_writeFile_self {world after : World} {path : String} {bytes : Bytes}
    (written : world.writeFile path bytes = .ok after) : after.found path = some bytes := by
  have same := samePlaces_writeFile written
  obtain ⟨place, executable, located, free, rfl⟩ := writeFile_eq_ok written
  rw [found_of_locate ((same path place).1 located),
    Tree.find?_insert_self _ (Tree.ne_nil_of_no_directory free)]
  rfl

theorem found_writeFile {world after : World} {path other : String} {bytes : Bytes}
    (written : world.writeFile path bytes = .ok after) (distinct : world.Distinct path other) :
    after.found other = world.found other := by
  have same := samePlaces_writeFile written
  obtain ⟨place, executable, located, _, rfl⟩ := writeFile_eq_ok written
  refine found_congr same fun target elsewhere => Tree.find?_insert _ ?_
  rintro rfl
  exact distinct target located elsewhere

/-- Writing a file makes no other path more or less writable. -/
theorem writable_writeFile {world after : World} {path other : String} {bytes : Bytes}
    (written : world.writeFile path bytes = .ok after) : after.Writable other ↔ world.Writable other := by
  have same := samePlaces_writeFile written
  have directories := directories_writeFile written
  unfold Writable
  simp only [← same other, ne_eq, directories]

/-- Writes files one after the other, up to the first that cannot be written. -/
def writeAll : List (String × Bytes) → World → Except Fault World
  | [], world => .ok world
  | write :: writes, world =>
    match world.writeFile write.1 write.2 with
    | .ok after => writeAll writes after
    | .error fault => .error fault

section WriteAll

variable {writes : List (String × Bytes)} {world after : World}

theorem writeAll_cons_eq_ok {write : String × Bytes} :
    writeAll (write :: writes) world = .ok after ↔
      ∃ between, world.writeFile write.1 write.2 = .ok between ∧ writeAll writes between = .ok after := by
  rw [writeAll]
  cases world.writeFile write.1 write.2 <;> simp

theorem writeAll_of_writable (writable : ∀ write ∈ writes, world.Writable write.1) :
    ∃ after, writeAll writes world = .ok after := by
  induction writes generalizing world with
  | nil => exact ⟨world, rfl⟩
  | cons write writes ih =>
    obtain ⟨between, written⟩ := (writable write List.mem_cons_self).writeFile write.2
    have others : ∀ other ∈ writes, between.Writable other.1 := fun other member =>
      (writable_writeFile written).2 (writable other (List.mem_cons_of_mem _ member))
    obtain ⟨after, later⟩ := ih others
    exact ⟨after, writeAll_cons_eq_ok.2 ⟨between, written, later⟩⟩

theorem samePlaces_writeAll (written : writeAll writes world = .ok after) : SamePlaces world after := by
  induction writes generalizing world with
  | nil =>
    cases written
    exact fun _ _ => Iff.rfl
  | cons write writes ih =>
    obtain ⟨between, first, later⟩ := writeAll_cons_eq_ok.1 written
    exact (samePlaces_writeFile first).trans (ih later)

/-- What is read elsewhere stays as it was. -/
theorem found_writeAll {other : String} (written : writeAll writes world = .ok after)
    (distinct : ∀ write ∈ writes, world.Distinct write.1 other) : after.found other = world.found other := by
  induction writes generalizing world with
  | nil =>
    cases written
    rfl
  | cons write writes ih =>
    obtain ⟨between, first, later⟩ := writeAll_cons_eq_ok.1 written
    have same := samePlaces_writeFile first
    rw [ih later fun other member => (distinct other (List.mem_cons_of_mem _ member)).transfer same,
      found_writeFile first (distinct write List.mem_cons_self)]

/-- If no two files are at one place, each holds what was written to it. -/
theorem found_writeAll_member {path : String} {bytes : Bytes} (written : writeAll writes world = .ok after)
    (apart : writes.Pairwise fun write other => world.Distinct write.1 other.1)
    (member : (path, bytes) ∈ writes) : after.found path = some bytes := by
  induction writes generalizing world with
  | nil => cases member
  | cons write writes ih =>
    obtain ⟨between, first, later⟩ := writeAll_cons_eq_ok.1 written
    obtain ⟨separate, apart⟩ := List.pairwise_cons.1 apart
    have same := samePlaces_writeFile first
    rcases List.mem_cons.1 member with rfl | below
    · rw [found_writeAll later fun other member => (separate other member).symm.transfer same,
        found_writeFile_self first]
    · exact ih later (apart.imp fun distinct => distinct.transfer same) below

end WriteAll

end World

end ShaderDriver
