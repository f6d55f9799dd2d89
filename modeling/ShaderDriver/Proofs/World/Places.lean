import ShaderDriver.Proofs.Text.Occurrence
import ShaderDriver.World.Basic

namespace ShaderDriver

theorem Tree.ne_nil_of_no_directory {tree : Tree} {place : Place}
    (free : tree.find? place ≠ some .directory) : place ≠ [] := by
  rintro rfl
  exact free rfl

namespace World

/-- The place to which a piece of a path leads from a directory. -/
def advance (place : Place) (piece : List Char) : Place :=
  if piece = ['.'] then place
  else if piece = ['.', '.'] then place.dropLast
  else place ++ [String.ofList piece]

theorem follow_cons_eq_ok {tree : Tree} {piece : List Char} {path : List (List Char)} {start place : Place} :
    follow tree (piece :: path) start = .ok place ↔
      tree.find? start = some .directory ∧ follow tree path (advance start piece) = .ok place := by
  rw [follow, advance]
  cases tree.find? start with
  | none => simp
  | some entry =>
    cases entry with
    | file bytes executable => simp
    | directory =>
      simp only [true_and]
      split
      · rfl
      · split <;> rfl

theorem follow_append_eq_ok {tree : Tree} {front back : List (List Char)} {start place : Place} :
    follow tree (front ++ back) start = .ok place ↔
      ∃ between, follow tree front start = .ok between ∧ follow tree back between = .ok place := by
  induction front generalizing start with
  | nil => simp [follow]
  | cons piece front ih =>
    rw [List.cons_append, follow_cons_eq_ok, ih]
    simp only [follow_cons_eq_ok, and_assoc, exists_and_left]

theorem follow_congr {tree other : Tree}
    (directories : ∀ place, other.find? place = some .directory ↔ tree.find? place = some .directory)
    (path : List (List Char)) (start place : Place) :
    follow other path start = .ok place ↔ follow tree path start = .ok place := by
  induction path generalizing start with
  | nil => rfl
  | cons piece path ih => rw [follow_cons_eq_ok, follow_cons_eq_ok, directories, ih]

theorem locate_eq_ok {world : World} {path : String} {place : Place} :
    world.locate path = .ok place ↔
      checkPath path = .ok () ∧ follow world.tree (pieces path)
        (if Path.isAbsolute path then [] else world.workingDir) = .ok place := by
  unfold locate
  cases checkPath path <;> simp [bind, Except.bind]

theorem entry_eq_ok {world : World} {path : String} {there : Entry} :
    world.entry path = .ok there ↔
      ∃ place, world.locate path = .ok place ∧ world.tree.find? place = some there := by
  unfold entry
  cases world.locate path with
  | error fault => simp [bind, Except.bind]
  | ok place =>
    simp only [bind, Except.bind, Except.ok.injEq, exists_eq_left']
    cases world.tree.find? place <;> simp [pure, Except.pure, throw, throwThe, MonadExceptOf.throw]

theorem fileExists_iff {world : World} {path : String} :
    world.fileExists path = true ↔ ∃ there, world.entry path = .ok there := by
  unfold fileExists
  cases world.entry path <;> simp [Except.toOption]

theorem isDirectory_iff {world : World} {path : String} :
    world.isDirectory path = true ↔ world.entry path = .ok .directory := by
  unfold isDirectory
  cases world.entry path <;> simp [Except.toOption]

theorem isFile_iff {world : World} {path : String} :
    world.isFile path = true ↔ ∃ bytes executable, world.entry path = .ok (.file bytes executable) := by
  unfold isFile
  cases world.entry path with
  | error fault => simp [Except.toOption]
  | ok there => cases there <;> simp [Except.toOption, Entry.isFile]

/-- In both worlds every path leads to the same place. -/
def SamePlaces (one other : World) : Prop :=
  ∀ path place, one.locate path = .ok place ↔ other.locate path = .ok place

theorem SamePlaces.symm {one other : World} (same : SamePlaces one other) : SamePlaces other one :=
  fun path place => (same path place).symm

theorem SamePlaces.trans {one other third : World} (first : SamePlaces one other)
    (second : SamePlaces other third) : SamePlaces one third :=
  fun path place => (first path place).trans (second path place)

theorem samePlaces_of_directories {world : World} {tree : Tree}
    (directories : ∀ place, tree.find? place = some .directory ↔ world.tree.find? place = some .directory) :
    SamePlaces world { world with tree } := by
  intro path place
  rw [locate_eq_ok, locate_eq_ok, follow_congr directories]

/-- The two paths never lead to one place. -/
def Distinct (world : World) (path other : String) : Prop :=
  ∀ place, world.locate path = .ok place → world.locate other ≠ .ok place

theorem Distinct.symm {world : World} {path other : String} (distinct : world.Distinct path other) :
    world.Distinct other path :=
  fun place located elsewhere => distinct place elsewhere located

theorem Distinct.transfer {one after : World} {path other : String} (same : SamePlaces one after)
    (distinct : one.Distinct path other) : after.Distinct path other :=
  fun place located elsewhere =>
    distinct place ((same path place).2 located) ((same other place).2 elsewhere)

instance (world : World) (path other : String) : Decidable (world.Distinct path other) :=
  match located : world.locate path, elsewhere : world.locate other with
  | .ok place, .ok there =>
    if same : there = place then .isFalse fun distinct => distinct place located (same ▸ elsewhere)
    else .isTrue fun _ here together => by
      rw [located] at here
      rw [elsewhere] at together
      cases here
      cases together
      exact same rfl
  | .error _, _ => .isTrue fun _ here => by rw [located] at here; cases here
  | _, .error _ => .isTrue fun _ _ together => by rw [elsewhere] at together; cases together

/-- The bytes at a path, if there is a file that can be read. -/
def found (world : World) (path : String) : Option Bytes := (world.readBytes path).toOption

theorem found_of_locate {world : World} {path : String} {place : Place}
    (located : world.locate path = .ok place) :
    world.found path = (world.tree.find? place).bind Entry.bytes? := by
  unfold found readBytes entry
  cases there : world.tree.find? place with
  | none => simp [located, there, bind, Except.bind, Except.toOption, throw, throwThe, MonadExceptOf.throw]
  | some entry =>
    cases entry <;> simp [located, there, bind, Except.bind, pure, Except.pure, Except.toOption,
      Entry.bytes?, throw, throwThe, MonadExceptOf.throw]

theorem found_of_nowhere {world : World} {path : String} {fault : Fault}
    (nowhere : world.locate path = .error fault) : world.found path = none := by
  simp [found, readBytes, entry, nowhere, bind, Except.bind, Except.toOption]

theorem isFile_eq_found (world : World) (path : String) : world.isFile path = (world.found path).isSome := by
  unfold isFile found readBytes
  cases world.entry path with
  | error fault => rfl
  | ok there => cases there <;> rfl

/-- What is read at a path depends only on what is at its place. -/
theorem found_congr {one after : World} {path : String} (same : SamePlaces one after)
    (kept : ∀ place, one.locate path = .ok place → after.tree.find? place = one.tree.find? place) :
    after.found path = one.found path := by
  cases located : one.locate path with
  | ok place => rw [found_of_locate located, found_of_locate ((same path place).1 located), kept place located]
  | error fault =>
    rw [found_of_nowhere located]
    cases elsewhere : after.locate path with
    | error fault => exact found_of_nowhere elsewhere
    | ok place =>
      rw [(same path place).2 elsewhere] at located
      cases located

end World

end ShaderDriver
