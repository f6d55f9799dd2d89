import ShaderDriver.Cli.Run
import ShaderDriver.Proofs.Text.Numerals
import ShaderDriver.Proofs.Toolchain.Order
import ShaderDriver.Proofs.World.Listing

namespace ShaderDriver

namespace Version

/-- The components that are printed. -/
def shown (v : Version) : List UInt32 := if v.patch = 0 then [v.major, v.minor, v.micro] else v.parts

theorem display_toList (v : Version) :
    v.display.toList = ['.'].intercalate (v.shown.map fun part => Numeral.digits part.toNat) := by
  rw [display, String.toList_intercalate, List.map_map]
  simp only [Function.comp_def, Nat.toString_eq_repr, Nat.toList_repr, Numeral.digits]
  rfl

theorem shown_ne_nil (v : Version) : v.shown ≠ [] := by
  unfold shown parts
  split <;> nofun

theorem fields_display (v : Version) :
    Text.fields '.' v.display.toList = v.shown.map fun part => Numeral.digits part.toNat := by
  rw [display_toList]
  refine Text.fields_intercalate (by simpa using v.shown_ne_nil) ?_
  intro piece member
  obtain ⟨part, -, rfl⟩ := List.mem_map.1 member
  exact Numeral.not_mem (Numeral.digits_denotes part).numeral rfl

/-- A printed version is made of digits and dots. -/
theorem mem_display {v : Version} {c : Char} (member : c ∈ v.display.toList) :
    c.isDigit = true ∨ c = '.' := by
  rw [display_toList] at member
  rcases Text.mem_intercalate member with dot | ⟨piece, among, inside⟩
  · exact .inr dot
  · obtain ⟨part, -, rfl⟩ := List.mem_map.1 among
    exact .inl ((Numeral.isNumeral_iff.1 (Numeral.digits_denotes part).numeral).2 c inside)

/-- What a version prints is read as that version. -/
theorem read?_display (v : Version) : read? v.display = some v := by
  have unmarked : Text.strip? ['v'] v.display.toList = none := by
    cases stripped : Text.strip? ['v'] v.display.toList with
    | none => rfl
    | some rest =>
      have front : 'v' ∈ v.display.toList := by
        rw [Text.strip?_eq_some.1 stripped]
        exact List.mem_cons_self
      rcases mem_display front with digit | dot
      · cases digit
      · cases dot
  have numerals (part : UInt32) : Numeral.read? (Numeral.digits part.toNat) = some part :=
    Numeral.read?_eq_some_iff.2 (Numeral.digits_denotes part)
  simp only [read?, unmarked, Option.getD_none, fields_display]
  by_cases whole : v.patch = 0
  · simp only [shown, if_pos whole, List.map_cons, List.map_nil, List.mapM_cons, List.mapM_nil, numerals]
    cases v
    cases whole
    rfl
  · simp only [shown, if_neg whole, parts, List.map_cons, List.map_nil, List.mapM_cons, List.mapM_nil,
      numerals]
    rfl

theorem directoryName_toList (v : Version) :
    v.directoryName.toList = 'd' :: 'x' :: 'c' :: '-' :: v.display.toList := String.toList_append

theorem not_mem_directoryName {v : Version} {c : Char} (other : c ∉ ['d', 'x', 'c', '-', '.'])
    (noDigit : c.isDigit = false) : c ∉ v.directoryName.toList := by
  intro member
  rw [directoryName_toList] at member
  simp only [List.mem_cons, not_or] at member other
  obtain ⟨notD, notX, notC, notDash, notDot, -⟩ := other
  rcases member with d | x | c | dash | shown
  · exact notD d
  · exact notX x
  · exact notC c
  · exact notDash dash
  · rcases mem_display shown with digit | dot
    · rw [noDigit] at digit
      cases digit
    · exact notDot dot

theorem directoryName_isName (v : Version) : Path.IsName v.directoryName.toList where
  nonempty := by rw [directoryName_toList]; nofun
  flat := not_mem_directoryName (by decide) rfl
  notHere := by rw [directoryName_toList]; nofun
  notAbove := by rw [directoryName_toList]; nofun

end Version

namespace Installation

/-- The name that a version prints for its installation is one that is found by a scan. -/
theorem versionOf?_directoryName (v : Version) : versionOf? v.directoryName = some v := by
  have stripped : Text.strip? "dxc-".toList v.directoryName.toList = some v.display.toList :=
    Text.strip?_eq_some.2 v.directoryName_toList
  rw [versionOf?, stripped, Option.bind_some, String.ofList_toList, Version.read?_display]

/-- A name that the root lists and that has a compiler below it. -/
def Holds (world : World) (root name : String) : Prop :=
  ∃ names, world.listDirectory root = .ok names ∧ name ∈ names ∧
    world.isFile (binary (Path.join root name)) = true

section Scan

variable {world : World} {root : String}

theorem scanned_iff : (∃ found, versions world root = .ok found) ↔
    ∃ names, world.listDirectory root = .ok names := by
  unfold versions
  cases world.listDirectory root <;> simp

/-- The reported versions are those that the names with a compiler are read as. -/
theorem mem_versions {found : List Version} (scanned : versions world root = .ok found) {v : Version} :
    v ∈ found ↔ ∃ name, Holds world root name ∧ versionOf? name = some v := by
  unfold versions at scanned
  split at scanned
  · cases scanned
  · rename_i names listed
    cases scanned
    rw [(Version.newestFirst_perm id _).mem_iff]
    simp only [List.mem_filterMap, Option.filter_eq_some_iff]
    constructor
    · rintro ⟨name, among, read, runs⟩
      exact ⟨name, ⟨names, listed, among, runs⟩, read⟩
    · rintro ⟨name, ⟨names', listed', among, runs⟩, read⟩
      rw [listed] at listed'
      cases listed'
      exact ⟨name, among, read, runs⟩

/-- A compiler below a path takes a directory at the path. -/
theorem directory_of_binary {installation : String} (named : installation ≠ "")
    (runs : world.isFile (binary installation) = true) :
    ∃ place, world.locate installation = .ok place ∧ world.tree.find? place = some .directory := by
  have binName : Path.IsName "bin".toList := ⟨nofun, by decide, by decide, by decide⟩
  have dxcName : Path.IsName "dxc".toList := ⟨nofun, by decide, by decide, by decide⟩
  obtain ⟨_, _, there⟩ := World.isFile_iff.1 runs
  obtain ⟨_, located, -⟩ := World.entry_eq_ok.1 there
  obtain ⟨_, inside, -, -⟩ :=
    (World.locate_join_eq_ok (Path.join_ne_empty named binName.relative) dxcName (by decide)).1 located
  obtain ⟨place, below, directory, -⟩ := (World.locate_join_eq_ok named binName (by decide)).1 inside
  exact ⟨place, below, directory⟩

theorem holds_directoryName {names : List String} (listed : world.listDirectory root = .ok names)
    {v : Version} : Holds world root v.directoryName ↔ world.isFile (binary (directory root v)) = true := by
  constructor
  · rintro ⟨_, _, _, runs⟩
    exact runs
  · intro runs
    obtain ⟨place, located, -, -⟩ := World.listDirectory_eq_ok.1 listed
    have named := (World.checkPath_eq_ok_iff.1 (World.locate_eq_ok.1 located).1).1
    obtain ⟨_, below, directory⟩ :=
      directory_of_binary (Path.join_ne_empty named v.directoryName_isName.relative) runs
    have among := World.mem_listDirectory listed v.directoryName_isName
      (Version.not_mem_directoryName (by decide) rfl) below directory
    exact ⟨names, listed, among, runs⟩

/-- Every version that a name with a compiler is read as also has a compiler under the name that the
version prints. -/
def AsPrinted (world : World) (root : String) : Prop :=
  ∀ name v, Holds world root name → versionOf? name = some v → Holds world root v.directoryName

theorem AsPrinted.runs (printed : AsPrinted world root) {found : List Version}
    (scanned : versions world root = .ok found) {v : Version} (member : v ∈ found) :
    world.isFile (binary (directory root v)) = true := by
  obtain ⟨name, holds, read⟩ := (mem_versions scanned).1 member
  obtain ⟨_, _, _, runs⟩ := printed name v holds read
  exact runs

theorem versions_of_latest {v : Version} (resolved : latest world root = .ok v) :
    ∃ found, versions world root = .ok found ∧ v ∈ found := by
  unfold latest at resolved
  cases scanned : versions world root with
  | error failure => simp [scanned, bind, Except.bind] at resolved
  | ok found =>
    simp only [scanned, bind, Except.bind] at resolved
    split at resolved
    · rename_i newest first
      cases resolved
      exact ⟨found, rfl, List.mem_of_head? first⟩
    · cases resolved

theorem latest_of_resolveExecutable {compiler : CompilerConfig} {executable : String}
    (unset : compiler.path = none) (managed : compiler.toolchainDir = some root)
    (resolved : Settings.resolveExecutable world compiler = .ok executable) :
    ∃ v, latest world root = .ok v ∧ executable = binary (directory root v) := by
  unfold Settings.resolveExecutable at resolved
  simp only [unset, managed] at resolved
  cases newest : latest world root with
  | error failure => simp [newest, bind, Except.bind] at resolved
  | ok v =>
    simp only [newest, bind, Except.bind, pure, Except.pure] at resolved
    exact ⟨v, rfl, (Except.ok.inj resolved).symm⟩

end Scan

end Installation

namespace Cli

/-- One line of a list of installations. -/
def line (row : Version × String) : String := s!"{row.1.display}\t{row.2}\n"

theorem installations_eq_ok {world : World} {root : String} {rows : List (Version × String)} :
    installations world root = .ok rows ↔ ∃ found, Installation.versions world root = .ok found ∧
      rows = found.map fun v => (v, Installation.binary (Installation.directory root v)) := by
  unfold installations
  cases Installation.versions world root <;> simp [bind, Except.bind, pure, Except.pure, eq_comm]

theorem rows_of_listInstallations {globals : GlobalOptions} {dir : Option String} {world : World}
    {root : String} {outcome : Outcome} (resolved : toolchainDir globals dir world = .ok root)
    (listed : listInstallations globals dir world = .ok outcome) :
    ∃ rows, installations world root = .ok rows ∧ outcome.output = String.join (rows.map line) := by
  unfold listInstallations at listed
  simp only [resolved, bind, Except.bind] at listed
  cases found : installations world root with
  | error failure => simp [found, Except.mapError] at listed
  | ok rows =>
    simp only [found, Except.mapError, pure, Except.pure] at listed
    cases listed
    exact ⟨rows, rfl, rfl⟩

end Cli

namespace Installation

/-- All that is reported about a root can be run. -/
structure Runnable (world : World) (root : String) : Prop where
  versions (found : List Version) (scanned : Installation.versions world root = .ok found) :
    ∀ v ∈ found, world.isFile (binary (directory root v)) = true
  latest (v : Version) (newest : Installation.latest world root = .ok v) :
    world.isFile (binary (directory root v)) = true
  executable (compiler : CompilerConfig) (path : String) (unset : compiler.path = none)
    (managed : compiler.toolchainDir = some root)
    (resolved : Settings.resolveExecutable world compiler = .ok path) : world.isFile path = true
  rows (globals : Cli.GlobalOptions) (dir : Option String) (outcome : Cli.Outcome)
    (resolved : Cli.toolchainDir globals dir world = .ok root)
    (listed : Cli.listInstallations globals dir world = .ok outcome) :
    ∃ rows : List (Version × String), outcome.output = String.join (rows.map Cli.line) ∧
      ∀ row ∈ rows, world.isFile row.2 = true

/-- What is reported can be run exactly where every installed version has a directory that is called as it
prints. What is installed so is always reported. -/
theorem runnable_iff (world : World) (root : String) :
    (Runnable world root ↔ AsPrinted world root) ∧
    ∀ found, versions world root = .ok found →
      ∀ v, world.isFile (binary (directory root v)) = true → v ∈ found := by
  refine ⟨⟨?_, ?_⟩, ?_⟩
  · rintro runnable name v ⟨names, listed, among, runs⟩ read
    obtain ⟨found, scanned⟩ := scanned_iff.2 ⟨names, listed⟩
    have member : v ∈ found := (mem_versions scanned).2 ⟨name, ⟨names, listed, among, runs⟩, read⟩
    exact (holds_directoryName listed).2 (runnable.versions found scanned v member)
  · intro printed
    have newest (v : Version) (resolved : latest world root = .ok v) :
        world.isFile (binary (directory root v)) = true := by
      obtain ⟨found, scanned, member⟩ := versions_of_latest resolved
      exact printed.runs scanned member
    refine ⟨fun found scanned v member => printed.runs scanned member, newest, ?_, ?_⟩
    · intro compiler path unset managed resolved
      obtain ⟨v, reported, same⟩ := latest_of_resolveExecutable unset managed resolved
      rw [same]
      exact newest v reported
    · intro globals dir outcome resolved listed
      obtain ⟨rows, installed, output⟩ := Cli.rows_of_listInstallations resolved listed
      obtain ⟨found, scanned, rfl⟩ := Cli.installations_eq_ok.1 installed
      refine ⟨_, output, fun row member => ?_⟩
      obtain ⟨v, reported, same⟩ := List.mem_map.1 member
      subst same
      dsimp only
      exact printed.runs scanned reported
  · intro found scanned v runs
    obtain ⟨names, listed⟩ := scanned_iff.1 ⟨found, scanned⟩
    exact (mem_versions scanned).2
      ⟨v.directoryName, (holds_directoryName listed).2 runs, versionOf?_directoryName v⟩

/-- A directory of tools in which the only version is called as it prints. -/
def unmarked : World where
  tree := ⟨[(["tools"], .directory), (["tools", "dxc-1.7.2308"], .directory),
    (["tools", "dxc-1.7.2308", "bin"], .directory),
    (["tools", "dxc-1.7.2308", "bin", "dxc"], .file [] true)]⟩

theorem runnable_unmarked : Runnable unmarked "/tools" ∧
    unmarked.isFile (binary (directory "/tools" ⟨1, 7, 2308, 0⟩)) = true ∧
    Cli.installations unmarked "/tools" =
      .ok [(⟨1, 7, 2308, 0⟩, binary (directory "/tools" ⟨1, 7, 2308, 0⟩))] := by
  refine ⟨(runnable_iff unmarked "/tools").1.2 ?_, by decide +kernel, by decide +kernel⟩
  rintro name v ⟨names, listed, among, runs⟩ read
  have only : unmarked.listDirectory "/tools" = .ok ["dxc-1.7.2308"] := by decide +kernel
  rw [only] at listed
  cases listed
  rw [List.mem_singleton.1 among] at read runs
  have printed : versionOf? "dxc-1.7.2308" = some ⟨1, 7, 2308, 0⟩ := by decide +kernel
  rw [printed] at read
  cases read
  exact ⟨["dxc-1.7.2308"], only, List.mem_singleton.2 (by decide +kernel), runs⟩

/-- A directory of tools in which the only version is spelled with a `v`. -/
def marked : World where
  tree := ⟨[(["tools"], .directory), (["tools", "dxc-v1.10.1"], .directory),
    (["tools", "dxc-v1.10.1", "bin"], .directory),
    (["tools", "dxc-v1.10.1", "bin", "dxc"], .file [] true)]⟩

/-- The version is reported, but its compiler is looked for where there is none. -/
theorem not_runnable_marked : ¬ Runnable marked "/tools" := by
  intro runnable
  have missing := runnable.executable { toolchainDir := some "/tools" } "/tools/dxc-1.10.1/bin/dxc" rfl rfl
    (by decide +kernel)
  revert missing
  decide +kernel

end Installation

end ShaderDriver
