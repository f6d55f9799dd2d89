import ShaderDriver.Cli.Job
import ShaderDriver.Proofs.Text.Occurrence
import ShaderDriver.Proofs.Toml.Sections

namespace ShaderDriver

namespace Stage

theorem ofName?_eq_some_iff {s : String} {stage : Stage} : ofName? s = some stage ↔ s = stage.name := by
  constructor
  · intro found
    have same := List.find?_some found
    exact (beq_iff_eq.1 same).symm
  · rintro rfl
    cases stage <;> decide

theorem name_flat (stage : Stage) : '_' ∉ stage.name.toList := by cases stage <;> decide

end Stage

namespace Profile

theorem of?_eq_some_iff {stage : Stage} {minor : Nat} {profile : Profile} :
    of? stage minor = some profile ↔ profile.stage = stage ∧ profile.minor = minor := by
  unfold of?
  constructor
  · intro made
    split at made
    · cases made
      exact ⟨rfl, rfl⟩
    · cases made
  · rintro ⟨rfl, rfl⟩
    exact dif_pos profile.supported

theorem mem_all (profile : Profile) : profile ∈ all := by
  have below : profile.minor ∈ List.range (lastMinor + 1) :=
    List.mem_range.2 (Nat.lt_succ_of_le profile.supported.2)
  have made : of? profile.stage profile.minor = some profile := of?_eq_some_iff.2 ⟨rfl, rfl⟩
  exact List.mem_flatMap.2 ⟨_, profile.stage.mem_all, List.mem_filterMap.2 ⟨_, below, made⟩⟩

theorem minor_lt (profile : Profile) : profile.minor < 10 :=
  Nat.lt_of_le_of_lt profile.supported.2 (by decide)

theorem isDigit_minor (profile : Profile) : profile.minor.digitChar.isDigit = true := by
  have digits : ∀ n < 10, (Nat.digitChar n).isDigit = true := by decide
  exact digits _ profile.minor_lt

theorem display_toList (profile : Profile) :
    profile.display.toList =
      ['_'].intercalate [profile.stage.name.toList, ['6'], [profile.minor.digitChar]] := by
  have digit : toString profile.minor = String.singleton profile.minor.digitChar :=
    Nat.repr_of_lt profile.minor_lt
  have major : (toString "_6_").toList = ['_', '6', '_'] := rfl
  change (profile.stage.name ++ toString "_6_" ++ toString profile.minor).toList = _
  simp [digit, major, List.intercalate]

theorem fields_display (profile : Profile) :
    Text.fields '_' profile.display.toList =
      [profile.stage.name.toList, ['6'], [profile.minor.digitChar]] := by
  have minor : '_' ∉ [profile.minor.digitChar] := by
    rw [List.mem_singleton]
    intro same
    exact absurd (same ▸ profile.isDigit_minor) (by decide)
  rw [display_toList]
  refine Text.fields_intercalate nofun ?_
  simp only [List.forall_mem_cons, List.not_mem_nil, false_imp_iff, implies_true, and_true]
  exact ⟨profile.stage.name_flat, by decide, minor⟩

/-- A digit is what its value is printed as. -/
theorem digitChar_of_isDigit {digit : Char} (isDigit : digit.isDigit = true) :
    (digit.toNat - '0'.toNat).digitChar = digit := by
  obtain ⟨lower, upper⟩ := Char.isDigit_iff_toNat.1 isDigit
  have zero : '0'.toNat = 48 := rfl
  have nine : '9'.toNat = 57 := rfl
  have small : digit.toNat - '0'.toNat < 10 := by omega
  have back : (digit.toNat - '0'.toNat).digitChar.toNat = digit.toNat := by
    rw [Nat.toNat_digitChar_of_lt_ten small]
    omega
  exact Char.toNat_inj.1 back

/-- What a profile prints, in any case of its letters, spells the profile. -/
def Spelled (s : String) (profile : Profile) : Prop :=
  s.toList.map Char.toLower = profile.display.toList ∧ profile ∈ all

theorem read?_eq_some_iff {s : String} {profile : Profile} : read? s = some profile ↔ Spelled s profile := by
  rw [Spelled, and_iff_left profile.mem_all]
  unfold read?
  constructor
  · intro read
    split at read
    · next stage digit split =>
      have whole : ['_'].intercalate (Text.fields '_' (s.toList.map Char.toLower)) = s.toList.map Char.toLower :=
        Text.intercalate_fields _
      rw [split] at whole
      by_cases isDigit : digit.isDigit = true
      · rw [if_pos isDigit, Option.bind_eq_some_iff] at read
        obtain ⟨_, named, made⟩ := read
        obtain ⟨rfl, minor⟩ := of?_eq_some_iff.1 made
        have name : stage = profile.stage.name.toList := by
          rw [← Stage.ofName?_eq_some_iff.1 named, String.toList_ofList]
        rw [← whole, display_toList, name, minor, digitChar_of_isDigit isDigit]
      · rw [if_neg isDigit] at read
        cases read
    · cases read
  · intro spelled
    have value : profile.minor.digitChar.toNat - '0'.toNat = profile.minor := by
      rw [Nat.toNat_digitChar_of_lt_ten profile.minor_lt]
      exact Nat.add_sub_cancel_left 48 _
    have named : Stage.ofName? profile.stage.name = some profile.stage := Stage.ofName?_eq_some_iff.2 rfl
    have made : of? profile.stage profile.minor = some profile := of?_eq_some_iff.2 ⟨rfl, rfl⟩
    rw [spelled, fields_display]
    simp only [isDigit_minor, if_true, String.ofList_toList, named, Option.bind_some, value, made]

-- A long s folds to no letter of a stage, and a minor version is one digit.
example : read? "p\u017f_6_7" = none ∧ read? "ps_6_07" = none ∧ read? "ms_6_5" ≠ none := by decide

theorem lower_display (profile : Profile) :
    profile.display.toList.map Char.toLower = profile.display.toList := by
  have name : profile.stage.name.toList.map Char.toLower = profile.stage.name.toList := by
    cases profile.stage <;> decide
  have digit : ∀ n < 10, (Nat.digitChar n).toLower = Nat.digitChar n := by decide
  rw [display_toList]
  simp [List.intercalate, name, digit _ profile.minor_lt]

theorem read?_display (profile : Profile) : read? profile.display = some profile :=
  read?_eq_some_iff.2 ⟨profile.lower_display, profile.mem_all⟩

theorem ofValue_string (s : String) :
    ofValue (.string s) = (read? s).elim (.error (.custom (unsupportedText s))) .ok := by
  rw [ofValue]
  cases read? s <;> rfl

/-- The answer to a text that should be a profile: what is made of the profile that the text spells, or an
error with the text as it was given. -/
structure Understood {α ε : Type} (s : String) (made : Profile → α) (refusal : String → ε)
    (answer : Except ε α) : Prop where
  accepted (result : α) : answer = .ok result ↔ ∃ profile, Spelled s profile ∧ result = made profile
  refused (e : ε) : answer = .error e ↔ (∀ profile, ¬ Spelled s profile) ∧
    e = refusal (unsupportedText s)

theorem understood {α ε : Type} (s : String) (made : Profile → α) (refusal : String → ε) :
    Understood s made refusal
      ((read? s).elim (.error (refusal (unsupportedText s))) fun profile => .ok (made profile)) where
  accepted result := by
    simp only [← read?_eq_some_iff]
    cases read? s <;> simp [eq_comm]
  refused e := by
    simp only [← read?_eq_some_iff]
    cases read? s <;> simp [eq_comm]

theorem unsupportedText_injective {s other : String} (same : unsupportedText s = unsupportedText other) :
    s = other :=
  (String.append_right_inj _).1 ((String.append_left_inj _).1 same)

end Profile

theorem Settings.parseProfile_eq (s : String) :
    parseProfile s = (Profile.read? s).elim (.error (Profile.unsupportedText s)) .ok := by
  unfold parseProfile
  cases Profile.read? s <;> rfl

theorem Cli.Job.profileOf_eq {options : CompileOptions} {s : String} (given : options.profile = some s)
    (config : Config) :
    profileOf config options =
      (Profile.read? s).elim (.error (.settings (Profile.unsupportedText s))) fun profile => .ok (some profile) := by
  unfold profileOf
  rw [given]
  dsimp only
  rw [Settings.parseProfile_eq]
  cases Profile.read? s <;> rfl

theorem Decode.profile_eq (s : String) :
    profile (.string s) =
      (Profile.read? s).elim (.error (.custom (Profile.unsupportedText s))) .ok := by
  have named : plainText (.string s) = pure s := rfl
  rw [profile, named, pure_bind]
  cases Profile.read? s <;> rfl

namespace Config

/-- A document with nothing but a profile. -/
def OnlyProfile (content s : String) : Prop :=
  ∃ form, Toml.parse? content = some [("shader", .table form [("profile", .string s)])]

theorem parse_profile {content s : String} (only : OnlyProfile content s) (origin : String) :
    parse content origin =
      (Profile.read? s).elim (.error (.mismatch origin (Profile.unsupportedText s)))
        fun profile => .ok { shader := { profile := some profile } } := by
  obtain ⟨form, parsed⟩ := only
  have decoded : Decode.config [("shader", .table form [("profile", .string s)])] =
      (Decode.profile (.string s)).map fun profile => { shader := { profile := some profile } } := by
    rw [Decode.config, Decode.byName, List.foldlM_cons]
    simp only [Decode.sections, List.find?_cons, String.reduceBEq, Decode.record, Decode.byName,
      List.foldlM_cons, Decode.shaderFields, List.foldlM_nil]
    cases Decode.profile (.string s) <;> rfl
  simp only [parse, parsed, decoded, Decode.profile_eq]
  cases Profile.read? s <;> rfl

end Config

namespace Cli.Arguments

theorem shape_profile (s : String) :
    Shape.ofArgument ("--profile=" ++ s).toList = .long "profile".toList (some s.toList) := by
  have whole : ("--profile=" ++ s).toList = '-' :: '-' :: ("profile".toList ++ ['='] ++ s.toList) := by
    rw [String.toList_append]
    rfl
  have parted : Text.splitFirst ['='] ("profile".toList ++ ['='] ++ s.toList) =
      some ("profile".toList, s.toList) :=
    Text.splitFirst_eq_some_iff.2 (Text.firstAt_single (by decide) _)
  rw [whole, Shape.ofArgument, parted]
  simp

/-- Any text can be given as the profile of a compile. -/
theorem read_profile {file : String} (operand : Shape.ofArgument file.toList = .operand) (s : String) :
    read ["compile", file, "--profile=" ++ s] = .ok ⟨{}, .compile { file, profile := some s }⟩ := by
  have top : top.read none {} ["compile", file, "--profile=" ++ s] =
      .ok ({}, ["compile", file, "--profile=" ++ s]) := rfl
  have noted : compileLevel.readLong "profile".toList (some s.toList) { operands := [file] } =
      .ok ({ operands := [file], options := [("profile", s)] }, none) := by
    change (Given.add { operands := [file] } ⟨"profile", some 'T', .single anyText⟩
      (String.ofList s.toList)).map (fun given => (given, none)) = _
    rw [String.ofList_toList]
    rfl
  have given : compileLevel.read none {} [file, "--profile=" ++ s] =
      .ok ({ operands := [file], options := [("profile", s)] }, []) := by
    have noCommand : compileLevel.commands.contains file = false := rfl
    simp only [Level.read, operand, shape_profile, noCommand, Bool.false_eq_true, if_false]
    rw [if_pos (by decide), List.nil_append, noted]
    rfl
  have known : compileOptions? { operands := [file], options := [("profile", s)] } =
      some { file, profile := some s } := rfl
  unfold read
  rw [top]
  simp only [bind, Except.bind, given, known]
  rfl

end Cli.Arguments

namespace Profile

open Cli

/-- The places in which a text may stand for a profile. They all take it in the same way. -/
structure TakenEverywhere (s : String) : Prop where
  setting : Understood s id id (Settings.parseProfile s)
  commandLine (file : String) (config : Config) : Shape.ofArgument file.toList = .operand →
    ∃ options, Arguments.read ["compile", file, "--profile=" ++ s] = .ok ⟨{}, .compile options⟩ ∧
      Understood s some Failure.settings (Job.profileOf config options)
  configuration (content origin : String) : Config.OnlyProfile content s →
    Understood s (fun profile => ({ shader := { profile := some profile } } : Config)) (.mismatch origin)
      (Config.parse content origin)
  entry : Understood s id .custom (Decode.profile (.string s))
  serialized : Understood s id .custom (ofValue (.string s))
  printed (profile : Profile) : profile.toValue = .string s → ofValue (.string s) = .ok profile

theorem takenEverywhere (s : String) : TakenEverywhere s where
  setting := by
    rw [Settings.parseProfile_eq]
    exact understood s id id
  commandLine file config operand := by
    refine ⟨_, Arguments.read_profile operand s, ?_⟩
    rw [Job.profileOf_eq rfl]
    exact understood s some Failure.settings
  configuration content origin only := by
    rw [Config.parse_profile only]
    exact understood s _ _
  entry := by
    rw [Decode.profile_eq]
    exact understood s id _
  serialized := by
    rw [ofValue_string]
    exact understood s id _
  printed profile written := by
    cases written
    rw [ofValue_string, read?_display]
    rfl

/-- A text is read as a profile exactly if it is what the profile prints, in any case of its ASCII letters,
so the stage exists in that version of the shader model. Wherever a profile is asked for the same texts are
taken, and the error for any other tells the text as it was given. -/
theorem read_everywhere (s : String) :
    (∀ profile, read? s = some profile ↔
      s.toList.map Char.toLower = profile.display.toList ∧ profile ∈ all) ∧
    (∀ stage minor, (∃ profile, read? s = some profile ∧ profile.stage = stage ∧ profile.minor = minor) ↔
      (stage.firstMinor ≤ minor ∧ minor ≤ lastMinor) ∧
        s.toList.map Char.toLower = (s!"{stage.name}_6_{minor}").toList) ∧
    TakenEverywhere s ∧ ∀ other, unsupportedText other = unsupportedText s → other = s := by
  refine ⟨fun profile => read?_eq_some_iff, fun stage minor => ⟨?_, ?_⟩, takenEverywhere s,
    fun other => unsupportedText_injective⟩
  · rintro ⟨profile, read, rfl, rfl⟩
    exact ⟨profile.supported, (read?_eq_some_iff.1 read).1⟩
  · rintro ⟨supported, spelled⟩
    let profile : Profile := ⟨stage, minor, supported⟩
    exact ⟨profile, read?_eq_some_iff.2 ⟨spelled, profile.mem_all⟩, rfl, rfl⟩

/-- A profile in capital letters, and one of a stage that came later. -/
theorem read_everywhere_capital :
    let content := "[shader]\nprofile = \"LIB_6_3\"\n"
    let late := "[shader]\nprofile = 'Ms_6_4'\n"
    (∃ profile, read? "LIB_6_3" = some profile ∧ profile.stage = .library ∧ profile.minor = 3 ∧
      Config.parse content "shc.toml" = .ok { shader := { profile := some profile } } ∧
      ∃ options, Arguments.read ["compile", "a.hlsl", "--profile=LIB_6_3"] = .ok ⟨{}, .compile options⟩ ∧
        Job.profileOf {} options = .ok (some profile)) ∧
    Config.parse late "shc.toml" = .error (.mismatch "shc.toml" "unsupported target profile `Ms_6_4`") := by
  intro content late
  obtain ⟨reads, spells, taken, -⟩ := read_everywhere "LIB_6_3"
  obtain ⟨-, -, refused, -⟩ := read_everywhere "Ms_6_4"
  obtain ⟨profile, read, stage, minor⟩ := (spells .library 3).2 (by decide)
  have spelled := (reads profile).1 read
  have plain : (Toml.parse? content).bind Toml.section? =
      some ("shader", .header, [("profile", "LIB_6_3")]) := by decide +kernel
  have plain' : (Toml.parse? late).bind Toml.section? =
      some ("shader", .header, [("profile", "Ms_6_4")]) := by decide +kernel
  have only : Config.OnlyProfile content "LIB_6_3" := ⟨.header, Toml.parse?_of_section? plain⟩
  have only' : Config.OnlyProfile late "Ms_6_4" := ⟨.header, Toml.parse?_of_section? plain'⟩
  obtain ⟨options, given, understood⟩ := taken.commandLine "a.hlsl" {} (by decide)
  have none : ∀ profile, ¬ Spelled "Ms_6_4" profile := by
    intro profile spelled
    have unread : read? "Ms_6_4" = none := by decide
    rw [read?_eq_some_iff.2 spelled] at unread
    cases unread
  refine ⟨⟨profile, read, stage, minor, ?_, options, given, ?_⟩, ?_⟩
  · exact ((taken.configuration content "shc.toml" only).accepted _).2 ⟨profile, spelled, rfl⟩
  · exact (understood.accepted _).2 ⟨profile, spelled, rfl⟩
  · exact ((refused.configuration late "shc.toml" only').refused _).2 ⟨none, rfl⟩

end Profile

end ShaderDriver
