import ShaderDriver.Proofs.World.Writing

namespace ShaderDriver.World

/-- Nothing differs but what is at the places of the paths, and the supply of fresh names. -/
structure ChangedAt (paths : List String) (before after : World) : Prop where
  samePlaces : SamePlaces before after
  kept (place : Place) (elsewhere : ∀ path ∈ paths, before.locate path ≠ .ok place) :
    after.tree.find? place = before.tree.find? place
  around : after = { before with tree := after.tree, nextId := after.nextId }

namespace ChangedAt

variable {paths others : List String} {before between after : World}

theorem refl (paths : List String) (world : World) : ChangedAt paths world world :=
  ⟨fun _ _ => Iff.rfl, fun _ _ => rfl, rfl⟩

theorem mono (changed : ChangedAt paths before after) (among : paths ⊆ others) :
    ChangedAt others before after where
  samePlaces := changed.samePlaces
  kept := fun place elsewhere => changed.kept place fun path member => elsewhere path (among member)
  around := changed.around

theorem trans (first : ChangedAt paths before between) (second : ChangedAt paths between after) :
    ChangedAt paths before after where
  samePlaces := first.samePlaces.trans second.samePlaces
  kept := by
    intro place elsewhere
    rw [second.kept place fun path member located =>
      elsewhere path member ((first.samePlaces path place).2 located), first.kept place elsewhere]
  around := by
    rw [second.around, first.around]

/-- Whatever leads to none of the places is read as before. -/
theorem found (changed : ChangedAt paths before after) {other : String}
    (distinct : ∀ path ∈ paths, before.Distinct path other) : after.found other = before.found other :=
  found_congr changed.samePlaces fun place located =>
    changed.kept place fun path member there => distinct path member place there located

end ChangedAt

theorem changedAt_freshId (paths : List String) (world : World) (nextId : Nat) :
    ChangedAt paths world { world with nextId } :=
  ⟨fun _ _ => Iff.rfl, fun _ _ => rfl, rfl⟩

theorem changedAt_writeFile {world after : World} {path : String} {bytes : Bytes}
    (written : world.writeFile path bytes = .ok after) : ChangedAt [path] world after where
  samePlaces := samePlaces_writeFile written
  kept := by
    intro place elsewhere
    obtain ⟨target, executable, located, -, rfl⟩ := writeFile_eq_ok written
    refine Tree.find?_insert _ ?_
    rintro rfl
    exact elsewhere path (List.mem_singleton_self path) located
  around := by
    obtain ⟨target, executable, -, -, rfl⟩ := writeFile_eq_ok written
    rfl

theorem changedAt_removeFile {world after : World} {path : String}
    (removed : world.removeFile path = .ok after) : ChangedAt [path] world after where
  samePlaces := samePlaces_removeFile removed
  kept := by
    intro place elsewhere
    obtain ⟨target, bytes, executable, located, -, rfl⟩ := removeFile_eq_ok removed
    refine Tree.find?_erase ?_
    rintro rfl
    exact elsewhere path (List.mem_singleton_self path) located
  around := by
    obtain ⟨target, bytes, executable, -, -, rfl⟩ := removeFile_eq_ok removed
    rfl

/-- A path at which there is something other than a directory can be cleared. -/
theorem removeFile_of_fileExists {world : World} {path : String} (free : world.isDirectory path = false)
    (filled : world.fileExists path = true) : ∃ after, world.removeFile path = .ok after := by
  obtain ⟨there, found⟩ := fileExists_iff.1 filled
  cases there with
  | directory =>
    rw [isDirectory_iff.2 found] at free
    cases free
  | file bytes executable =>
    obtain ⟨place, located, found⟩ := entry_eq_ok.1 found
    unfold removeFile
    simp only [located, found, bind, Except.bind]
    exact ⟨_, rfl⟩

theorem fileExists_removeFile {world after : World} {path : String}
    (removed : world.removeFile path = .ok after) : after.fileExists path = false := by
  have same := samePlaces_removeFile removed
  obtain ⟨target, bytes, executable, located, taken, rfl⟩ := removeFile_eq_ok removed
  have free : world.tree.find? target ≠ some .directory := by simp [taken]
  by_contra there
  rw [Bool.not_eq_false] at there
  obtain ⟨entry, found⟩ := fileExists_iff.1 there
  obtain ⟨place, located', found⟩ := entry_eq_ok.1 found
  have here := (same path place).2 located'
  rw [located] at here
  cases here
  rw [Tree.find?_erase_self (Tree.ne_nil_of_no_directory free)] at found
  cases found

/-- What is in the one world is in the other, at the same place. -/
structure Within (smaller larger : World) : Prop where
  samePlaces : SamePlaces larger smaller
  entries (place : Place) (entry : Entry) (there : smaller.tree.find? place = some entry) :
    larger.tree.find? place = some entry

theorem Within.refl (world : World) : Within world world := ⟨fun _ _ => Iff.rfl, fun _ _ there => there⟩

theorem Within.trans {smaller between larger : World} (first : Within smaller between)
    (second : Within between larger) : Within smaller larger where
  samePlaces := second.samePlaces.trans first.samePlaces
  entries := fun place entry there => second.entries place entry (first.entries place entry there)

theorem Within.entry {smaller larger : World} (shrunk : Within smaller larger) {path : String}
    {there : Entry} (found : smaller.entry path = .ok there) : larger.entry path = .ok there := by
  obtain ⟨place, located, found⟩ := entry_eq_ok.1 found
  exact entry_eq_ok.2 ⟨place, (shrunk.samePlaces path place).2 located, shrunk.entries place there found⟩

theorem Within.fileExists {smaller larger : World} (shrunk : Within smaller larger) {path : String}
    (missing : larger.fileExists path = false) : smaller.fileExists path = false := by
  by_contra there
  rw [Bool.not_eq_false] at there
  obtain ⟨entry, found⟩ := fileExists_iff.1 there
  rw [fileExists_iff.2 ⟨entry, shrunk.entry found⟩] at missing
  cases missing

theorem Within.isDirectory {smaller larger : World} (shrunk : Within smaller larger) {path : String}
    (free : larger.isDirectory path = false) : smaller.isDirectory path = false := by
  by_contra there
  rw [Bool.not_eq_false] at there
  rw [isDirectory_iff.2 (shrunk.entry (isDirectory_iff.1 there))] at free
  cases free

theorem within_removeFile {world after : World} {path : String}
    (removed : world.removeFile path = .ok after) : Within after world where
  samePlaces := samePlaces_removeFile removed
  entries := by
    obtain ⟨target, bytes, executable, -, taken, rfl⟩ := removeFile_eq_ok removed
    intro place entry there
    by_cases same : place = target
    · have free : world.tree.find? target ≠ some .directory := by simp [taken]
      rw [same, Tree.find?_erase_self (Tree.ne_nil_of_no_directory free)] at there
      cases there
    · rwa [Tree.find?_erase same] at there

end ShaderDriver.World
