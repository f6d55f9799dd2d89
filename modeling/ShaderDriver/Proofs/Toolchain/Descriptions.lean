import Mathlib.Data.List.Induction
import ShaderDriver.Toolchain.Release

namespace ShaderDriver

theorem Version.eq_invalidVersion_of_parse {s : String} {failure : ToolchainError}
    (refused : parse s = .error failure) : failure = .invalidVersion s := by
  unfold parse at refused
  split at refused
  · cases refused
  · cases refused
    rfl

namespace Release

/-- What a value states where something may be given, or left out by a null. -/
inductive States {α : Type} (write : α → JsonValue) : JsonValue → Option α → Prop
  | nothing : States write .null none
  | given (x : α) : States write (write x) (some x)

/-- What the fields of an object state under a name. Each field of the name states something, and the last
one counts. -/
inductive Field {α : Type} (write : α → JsonValue) (name : String) :
    List (String × JsonValue) → Option α → Prop
  | missing : Field write name [] none
  | other {fields field part} : Field write name fields part → field.1 ≠ name →
      Field write name (fields ++ [field]) part
  | own {fields value earlier part} : Field write name fields earlier → States write value part →
      Field write name (fields ++ [(name, value)]) part

/-- How a description is written: as an object, or as an array of its parts, the second of which may be
missing. -/
inductive Decoded : JsonValue → Description → Prop
  | object {fields tag assets} : Field .string "tag_name" fields tag →
      Field .array "assets" fields assets → Decoded (.object fields) ⟨tag, assets⟩
  | tagged {value tag} : States .string value tag → Decoded (.array [value]) ⟨tag, none⟩
  | pair {value items tag assets} : States .string value tag → States .array items assets →
      Decoded (.array [value, items]) ⟨tag, assets⟩

theorem text?_eq_ok_iff {value : JsonValue} {part : Option String} :
    text? value = .ok part ↔ States .string value part := by
  constructor
  · intro decoded
    unfold text? at decoded
    split at decoded
    · cases decoded
      exact .nothing
    · cases decoded
      exact .given _
    · cases decoded
  · intro stated
    cases stated <;> rfl

theorem list?_eq_ok_iff {value : JsonValue} {part : Option (List JsonValue)} :
    list? value = .ok part ↔ States .array value part := by
  constructor
  · intro decoded
    unfold list? at decoded
    split at decoded
    · cases decoded
      exact .nothing
    · cases decoded
      exact .given _
    · cases decoded
  · intro stated
    cases stated <;> rfl

section Field

variable {α : Type} {write : α → JsonValue} {name : String} {fields : List (String × JsonValue)}
  {field : String × JsonValue} {part : Option α}

theorem field_nil : Field write name [] part ↔ part = none := by
  constructor
  · intro stated
    generalize whole : ([] : List (String × JsonValue)) = fields at stated
    cases stated with
    | missing => rfl
    | other => simp at whole
    | own => simp at whole
  · rintro rfl
    exact .missing

theorem field_concat : Field write name (fields ++ [field]) part ↔
    ∃ earlier, Field write name fields earlier ∧
      if field.1 = name then States write field.2 part else part = earlier := by
  constructor
  · intro stated
    generalize whole : fields ++ [field] = all at stated
    cases stated with
    | missing => simp at whole
    | other earlier different =>
      obtain ⟨rfl, rfl⟩ := List.append_singleton_inj.1 whole
      exact ⟨part, earlier, by rw [if_neg different]⟩
    | own earlier stated =>
      obtain ⟨rfl, rfl⟩ := List.append_singleton_inj.1 whole
      exact ⟨_, earlier, by rwa [if_pos rfl]⟩
  · rintro ⟨earlier, before, stated⟩
    by_cases same : field.1 = name
    · rw [if_pos same] at stated
      subst same
      exact .own before stated
    · rw [if_neg same] at stated
      subst stated
      exact .other before same

end Field

/-- One more field of a description that is an object. -/
def readField (description : Description) (field : String × JsonValue) : Except Decode.Error Description :=
  match field.1 with
  | "tag_name" => do pure { description with tag := ← text? field.2 }
  | "assets" => do pure { description with assets := ← list? field.2 }
  | _ => .ok description

theorem describe_object (fields : List (String × JsonValue)) :
    describe (.object fields) = fields.foldlM readField ⟨none, none⟩ := rfl

theorem readField_eq_ok_iff {before after : Description} {field : String × JsonValue} :
    readField before field = .ok after ↔
      (if field.1 = "tag_name" then States .string field.2 after.tag else after.tag = before.tag) ∧
      (if field.1 = "assets" then States .array field.2 after.assets else after.assets = before.assets) := by
  have apart : "tag_name" ≠ "assets" := by decide
  obtain ⟨name, value⟩ := field
  obtain ⟨tag, assets⟩ := after
  by_cases tagged : name = "tag_name"
  · subst tagged
    simp only [readField, if_true, if_neg apart, ← text?_eq_ok_iff]
    cases text? value <;> simp [bind, Except.bind, pure, Except.pure, eq_comm]
  · by_cases listed : name = "assets"
    · subst listed
      simp only [readField, if_true, if_neg apart.symm, ← list?_eq_ok_iff]
      cases list? value <;> simp [bind, Except.bind, pure, Except.pure, eq_comm, and_comm]
    · have other : readField before (name, value) = .ok before := by
        unfold readField
        split
        · contradiction
        · contradiction
        · rfl
      obtain ⟨tag', assets'⟩ := before
      rw [other, if_neg tagged, if_neg listed]
      simp [eq_comm]

/-- The fields of an object are read one after the other. -/
theorem foldlM_readField_eq_ok_iff {fields : List (String × JsonValue)} {description : Description} :
    fields.foldlM readField ⟨none, none⟩ = .ok description ↔
      Field .string "tag_name" fields description.tag ∧
        Field .array "assets" fields description.assets := by
  induction fields using List.reverseRecOn generalizing description with
  | nil =>
    obtain ⟨tag, assets⟩ := description
    simp [field_nil, pure, Except.pure, eq_comm]
  | append_singleton fields field ih =>
    have run : (fields ++ [field]).foldlM readField ⟨none, none⟩ = .ok description ↔
        ∃ earlier, fields.foldlM readField ⟨none, none⟩ = .ok earlier ∧
          readField earlier field = .ok description := by
      simp only [List.foldlM_append, List.foldlM_cons, List.foldlM_nil, bind_pure]
      cases fields.foldlM readField ⟨none, none⟩ <;> simp [bind, Except.bind]
    rw [run, field_concat, field_concat]
    constructor
    · rintro ⟨earlier, read, last⟩
      obtain ⟨tag, assets⟩ := ih.1 read
      obtain ⟨lastTag, lastAssets⟩ := readField_eq_ok_iff.1 last
      exact ⟨⟨_, tag, lastTag⟩, ⟨_, assets, lastAssets⟩⟩
    · rintro ⟨⟨earlierTag, tag, lastTag⟩, ⟨earlierAssets, assets, lastAssets⟩⟩
      exact ⟨⟨earlierTag, earlierAssets⟩, ih.2 ⟨tag, assets⟩,
        readField_eq_ok_iff.2 ⟨lastTag, lastAssets⟩⟩

theorem decoded_of_describe_array {items : List JsonValue} {description : Description}
    (described : describe (.array items) = .ok description) : Decoded (.array items) description := by
  cases items with
  | nil => cases described
  | cons value items =>
    cases tagged : text? value with
    | error => cases items <;> simp [describe, tagged, bind, Except.bind] at described
    | ok tag =>
      have tag := text?_eq_ok_iff.1 tagged
      cases items with
      | nil =>
        simp only [describe, tagged, bind, Except.bind, pure, Except.pure, Except.ok.injEq] at described
        subst described
        exact .tagged tag
      | cons items more =>
        cases listed : list? items with
        | error => simp [describe, tagged, listed, bind, Except.bind] at described
        | ok assets =>
          have assets := list?_eq_ok_iff.1 listed
          cases more with
          | nil =>
            simp [describe, tagged, listed, bind, Except.bind, pure, Except.pure] at described
            subst described
            exact .pair tag assets
          | cons =>
            simp [describe, tagged, listed, bind, Except.bind, throw, throwThe, MonadExceptOf.throw]
              at described

theorem describe_eq_ok_iff {value : JsonValue} {description : Description} :
    describe value = .ok description ↔ Decoded value description := by
  constructor
  · intro described
    cases value with
    | object fields =>
      rw [describe_object] at described
      obtain ⟨tag, assets⟩ := foldlM_readField_eq_ok_iff.1 described
      exact .object tag assets
    | array items => exact decoded_of_describe_array described
    | null | boolean | integer | float | string => cases described
  · intro decoded
    cases decoded with
    | object tag assets =>
      rw [describe_object]
      exact foldlM_readField_eq_ok_iff.2 ⟨tag, assets⟩
    | tagged tag =>
      simp only [describe, text?_eq_ok_iff.2 tag]
      rfl
    | pair tag assets =>
      simp only [describe, text?_eq_ok_iff.2 tag, list?_eq_ok_iff.2 assets]
      rfl

/-- How an asset with a name and an address is written: as an object with both, or as an array of the two. -/
inductive Asset (name address : String) : JsonValue → Prop
  | object {fields} : fields.lookup "name" = some (.string name) →
      fields.lookup "url" = some (.string address) → Asset name address (.object fields)
  | pair : Asset name address (.array [.string name, .string address])

/-- A value is an archive of the given name and path: an asset that is named as a zip file of the compiler and
stands below the root of the service. -/
structure Archive (name path : String) (value : JsonValue) : Prop where
  asset : Asset name (serviceRoot ++ path) value
  compiler : ∃ rest, name = "dxc" ++ rest
  zip : ∃ front, name = front ++ ".zip"

/-- Whether an entry of the assets can be used. -/
def Usable (value : JsonValue) : Prop := ∃ name path, Archive name path value

theorem asset?_eq_some_iff {value : JsonValue} {name address : String} :
    asset? value = some (name, address) ↔ Asset name address value := by
  constructor
  · intro found
    unfold asset? at found
    split at found
    · split at found
      · rename_i named located
        cases found
        exact .object named located
      · cases found
    · cases found
      exact .pair
    · cases found
  · intro asset
    cases asset with
    | object named located => simp only [asset?, named, located]
    | pair => rfl

theorem strip?_isSome_iff {pat name : String} :
    (Text.strip? pat.toList name.toList).isSome = true ↔ ∃ rest, name = pat ++ rest := by
  rw [Option.isSome_iff_exists]
  simp only [Text.strip?_toList]
  constructor
  · rintro ⟨rest, whole⟩
    exact ⟨_, whole⟩
  · rintro ⟨rest, whole⟩
    exact ⟨rest.toList, by rwa [String.ofList_toList]⟩

theorem stripEnd?_isSome_iff {pat name : String} :
    (Text.stripEnd? pat.toList name.toList).isSome = true ↔ ∃ front, name = front ++ pat := by
  rw [Option.isSome_iff_exists]
  simp only [Text.stripEnd?_eq_some]
  constructor
  · rintro ⟨front, whole⟩
    exact ⟨String.ofList front, String.toList_inj.1 (by rw [whole, String.toList_append, String.toList_ofList])⟩
  · rintro ⟨front, rfl⟩
    exact ⟨front.toList, String.toList_append ..⟩

theorem archive?_eq_some_iff {asset : String × String} {name path : String} :
    archive? asset = some (name, path) ↔ asset = (name, serviceRoot ++ path) ∧
      (∃ rest, name = "dxc" ++ rest) ∧ ∃ front, name = front ++ ".zip" := by
  obtain ⟨shown, address⟩ := asset
  unfold archive?
  simp only [Bool.and_eq_true, strip?_isSome_iff, stripEnd?_isSome_iff, Option.ite_none_right_eq_some,
    Option.map_eq_some_iff, Text.strip?_toList, Prod.mk.injEq]
  constructor
  · rintro ⟨⟨start, ending⟩, path, below, rfl, rfl⟩
    exact ⟨⟨rfl, below⟩, start, ending⟩
  · rintro ⟨⟨rfl, rfl⟩, start, ending⟩
    exact ⟨⟨start, ending⟩, path.toList, by rw [String.ofList_toList], rfl, String.ofList_toList⟩

theorem archiveOf?_eq_some_iff {value : JsonValue} {name path : String} :
    (asset? value).bind archive? = some (name, path) ↔ Archive name path value := by
  rw [Option.bind_eq_some_iff]
  constructor
  · rintro ⟨⟨shown, address⟩, found, archive⟩
    obtain ⟨same, compiler, zip⟩ := archive?_eq_some_iff.1 archive
    cases same
    exact ⟨asset?_eq_some_iff.1 found, compiler, zip⟩
  · rintro ⟨asset, compiler, zip⟩
    exact ⟨_, asset?_eq_some_iff.2 asset, archive?_eq_some_iff.2 ⟨rfl, compiler, zip⟩⟩

theorem archiveOf?_eq_none_iff {value : JsonValue} :
    (asset? value).bind archive? = none ↔ ¬ Usable value := by
  rw [Option.eq_none_iff_forall_ne_some, Usable]
  constructor
  · rintro none ⟨name, path, archive⟩
    exact none (name, path) (archiveOf?_eq_some_iff.2 archive)
  · rintro unusable ⟨name, path⟩ found
    exact unusable ⟨name, path, archiveOf?_eq_some_iff.1 found⟩

/-- The first entry that can be used is an archive of the given name and path. -/
def FirstArchive (name path : String) (entries : List JsonValue) : Prop :=
  ∃ before entry behind, entries = before ++ entry :: behind ∧ Archive name path entry ∧
    ∀ other ∈ before, ¬ Usable other

theorem firstArchive_iff {entries : List JsonValue} {name path : String} :
    (entries.findSome? fun value => (asset? value).bind archive?) = some (name, path) ↔
      FirstArchive name path entries := by
  rw [List.findSome?_eq_some_iff]
  simp only [archiveOf?_eq_some_iff, archiveOf?_eq_none_iff]
  rfl

/-- Some entry can be used if and only if one of them is the first. -/
theorem exists_firstArchive_iff {entries : List JsonValue} :
    (∃ name path, FirstArchive name path entries) ↔ ∃ entry ∈ entries, Usable entry := by
  constructor
  · rintro ⟨name, path, before, entry, behind, rfl, archive, -⟩
    exact ⟨entry, List.mem_append_right before List.mem_cons_self, name, path, archive⟩
  · rintro ⟨entry, among, usable⟩
    cases found : entries.findSome? fun value => (asset? value).bind archive? with
    | some archive => exact ⟨archive.1, archive.2, firstArchive_iff.1 found⟩
    | none =>
      have unusable := List.findSome?_eq_none_iff.1 found entry among
      exact absurd usable (archiveOf?_eq_none_iff.1 unusable)

/-- Why the parts of a description yield no release. -/
inductive Refused : Option String → Option (List JsonValue) → ToolchainError → Prop
  | untagged {assets} : Refused none assets (.invalidRelease "missing tag_name")
  | misread {text assets} : (∀ version, Version.parse text ≠ .ok version) →
      Refused (some text) assets (.invalidVersion text)
  | bare {text version} : Version.parse text = .ok version →
      Refused (some text) none (.invalidRelease s!"release {text} has no assets")
  | unusable {text version entries} : Version.parse text = .ok version →
      (∀ entry ∈ entries, ¬ Usable entry) →
      Refused (some text) (some entries) (.invalidRelease s!"release {text} has no dxc zip archive")

/-- What the parts of a description come to. -/
inductive Yields : Option String → Option (List JsonValue) → Except ToolchainError Release → Prop
  | release {text entries release} : Version.parse text = .ok release.version →
      FirstArchive release.asset release.path entries → Yields (some text) (some entries) (.ok release)
  | refused {tag assets failure} : Refused tag assets failure → Yields tag assets (.error failure)

theorem yields_of_tagged {text : String} {version : Version} (read : Version.parse text = .ok version)
    (entries : List JsonValue) : Yields (some text) (some entries)
      (match entries.findSome? fun value => (asset? value).bind archive? with
      | some (name, path) => .ok ⟨version, name, path⟩
      | none => .error (.invalidRelease s!"release {text} has no dxc zip archive")) := by
  split
  · next found => exact .release read (firstArchive_iff.1 found)
  · next missing =>
    refine .refused (.unusable read fun entry among => ?_)
    exact archiveOf?_eq_none_iff.1 (List.findSome?_eq_none_iff.1 missing entry among)

/-- The parts are looked at in turn: the tag, its version, the list of assets, its entries. -/
theorem yields_ofValue {value : JsonValue} {tag : Option String} {assets : Option (List JsonValue)}
    (decoded : Decoded value ⟨tag, assets⟩) : Yields tag assets (ofValue value) := by
  have described := describe_eq_ok_iff.2 decoded
  unfold ofValue
  rw [described]
  cases tag with
  | none => exact .refused .untagged
  | some text =>
    simp only [Except.mapError, bind, Except.bind]
    cases read : Version.parse text with
    | error failure =>
      have own := Version.eq_invalidVersion_of_parse read
      subst own
      refine .refused (.misread fun version accepted => ?_)
      rw [read] at accepted
      cases accepted
    | ok version =>
      cases assets with
      | none => exact .refused (.bare read)
      | some entries => exact yields_of_tagged read entries

theorem FirstArchive.unique {entries : List JsonValue} {name path name' path' : String}
    (one : FirstArchive name path entries) (other : FirstArchive name' path' entries) :
    name = name' ∧ path = path' := by
  have found := firstArchive_iff.2 one
  rw [firstArchive_iff.2 other] at found
  cases found
  exact ⟨rfl, rfl⟩

theorem FirstArchive.exists_usable {entries : List JsonValue} {name path : String}
    (first : FirstArchive name path entries) : ∃ entry ∈ entries, Usable entry :=
  exists_firstArchive_iff.1 ⟨name, path, first⟩

theorem Refused.unique {tag : Option String} {assets : Option (List JsonValue)}
    {failure failure' : ToolchainError} (one : Refused tag assets failure)
    (other : Refused tag assets failure') : failure = failure' := by
  cases one with
  | untagged => cases other; rfl
  | misread unread =>
    cases other with
    | misread => rfl
    | bare read => exact absurd read (unread _)
    | unusable read => exact absurd read (unread _)
  | bare read =>
    cases other with
    | misread unread => exact absurd read (unread _)
    | bare => rfl
  | unusable read =>
    cases other with
    | misread unread => exact absurd read (unread _)
    | unusable => rfl

theorem Refused.no_release {text : String} {entries : List JsonValue} {release : Release}
    {failure : ToolchainError} (refused : Refused (some text) (some entries) failure)
    (read : Version.parse text = .ok release.version) :
    ¬ FirstArchive release.asset release.path entries := by
  intro first
  cases refused with
  | misread unread => exact unread _ read
  | unusable _ unusable =>
    obtain ⟨entry, among, usable⟩ := first.exists_usable
    exact unusable entry among usable

/-- The parts come to one thing only. -/
theorem Yields.unique {tag : Option String} {assets : Option (List JsonValue)}
    {answer answer' : Except ToolchainError Release} (one : Yields tag assets answer)
    (other : Yields tag assets answer') : answer = answer' := by
  cases one with
  | @release text entries release read first =>
    cases other with
    | @release _ _ release' read' first' =>
      obtain ⟨named, placed⟩ := first.unique first'
      rw [read] at read'
      obtain ⟨version, name, path⟩ := release
      obtain ⟨version', name', path'⟩ := release'
      cases read'
      cases named
      cases placed
      rfl
    | refused refused => exact absurd first (refused.no_release read)
  | refused refused =>
    cases other with
    | release read first => exact absurd first (refused.no_release read)
    | refused refused' => rw [refused.unique refused']

theorem Refused.invalidVersion_iff {tag : Option String} {assets : Option (List JsonValue)} {text : String} :
    Refused tag assets (.invalidVersion text) ↔
      tag = some text ∧ ∀ version, Version.parse text ≠ .ok version := by
  constructor
  · intro refused
    cases refused with
    | misread unread => exact ⟨rfl, unread⟩
  · rintro ⟨rfl, unread⟩
    exact .misread unread

theorem Refused.kind {tag : Option String} {assets : Option (List JsonValue)} {failure : ToolchainError}
    (refused : Refused tag assets failure) :
    (∃ text, failure = .invalidVersion text) ∨ ∃ reason, failure = .invalidRelease reason := by
  cases refused with
  | misread => exact .inl ⟨_, rfl⟩
  | untagged | bare | unusable => exact .inr ⟨_, rfl⟩

theorem Yields.ok_iff {tag : Option String} {assets : Option (List JsonValue)} :
    (∃ release, Yields tag assets (.ok release)) ↔
      ∃ text version entries, tag = some text ∧ Version.parse text = .ok version ∧
        assets = some entries ∧ ∃ entry ∈ entries, Usable entry := by
  constructor
  · rintro ⟨_, ⟨read, first⟩⟩
    exact ⟨_, _, _, rfl, read, rfl, first.exists_usable⟩
  · rintro ⟨text, version, entries, rfl, read, rfl, usable⟩
    obtain ⟨name, path, first⟩ := exists_firstArchive_iff.2 usable
    exact ⟨⟨version, name, path⟩, .release read first⟩

/-- A value that is decoded as a description yields a release exactly if it has a tag that is a version, and
assets of which some entry can be used. The release is that of the first such entry, whatever stands around
it. A tag that is no version is to blame for a refusal, and in every other case the release is invalid, as it
is if the value is not decoded. -/
theorem ofValue_yields (value : JsonValue) :
    (∀ tag assets, Decoded value ⟨tag, assets⟩ →
      (∀ answer, ofValue value = answer ↔ Yields tag assets answer) ∧
      ((∃ release, ofValue value = .ok release) ↔
        ∃ text version entries, tag = some text ∧ Version.parse text = .ok version ∧
          assets = some entries ∧ ∃ entry ∈ entries, Usable entry) ∧
      (∀ text, ofValue value = .error (.invalidVersion text) ↔
        tag = some text ∧ ∀ version, Version.parse text ≠ .ok version) ∧
      (∀ failure, ofValue value = .error failure →
        (∃ text, failure = .invalidVersion text) ∨ ∃ reason, failure = .invalidRelease reason)) ∧
    ((¬ ∃ description, Decoded value description) →
      ∃ reason, ofValue value = .error (.invalidRelease reason)) := by
  constructor
  · intro tag assets decoded
    have answers (answer : Except ToolchainError Release) :
        ofValue value = answer ↔ Yields tag assets answer := by
      constructor
      · rintro rfl
        exact yields_ofValue decoded
      · exact (yields_ofValue decoded).unique
    have refuses (failure : ToolchainError) :
        ofValue value = .error failure ↔ Refused tag assets failure := by
      rw [answers]
      constructor
      · intro yielded
        cases yielded with
        | refused refused => exact refused
      · exact .refused
    refine ⟨answers, ?_, fun text => ?_, fun failure failed => ?_⟩
    · simp only [answers, Yields.ok_iff]
    · rw [refuses, Refused.invalidVersion_iff]
    · exact ((refuses failure).1 failed).kind
  · intro undecoded
    cases described : describe value with
    | ok description => exact absurd ⟨description, describe_eq_ok_iff.1 described⟩ undecoded
    | error failure =>
      refine ⟨failure.message, ?_⟩
      unfold ofValue
      rw [described]
      rfl

/-- A description whose first two assets are a number and one without an address. -/
def littered : List JsonValue :=
  [.integer 42, .object [("name", .string "dxc_a.zip")],
    .object [("name", .string "dxc_b.zip"), ("url", .string "https://api.github.com/assets/9")]]

theorem ofValue_yields_littered :
    Decoded (.object [("assets", .array littered), ("tag_name", .string "v1.8.2403.2")])
      ⟨some "v1.8.2403.2", some littered⟩ ∧
    ofValue (.object [("assets", .array littered), ("tag_name", .string "v1.8.2403.2")]) =
      .ok ⟨⟨1, 8, 2403, 2⟩, "dxc_b.zip", "assets/9"⟩ ∧
    ∃ reason, ofValue (.array [.integer 5]) = .error (.invalidRelease reason) := by
  have decoded : Decoded (.object [("assets", .array littered), ("tag_name", .string "v1.8.2403.2")])
      ⟨some "v1.8.2403.2", some littered⟩ := describe_eq_ok_iff.1 rfl
  have first : FirstArchive "dxc_b.zip" "assets/9" littered := firstArchive_iff.1 (by decide +kernel)
  have read : Version.parse "v1.8.2403.2" = .ok ⟨1, 8, 2403, 2⟩ := by decide +kernel
  have undecoded : ¬ ∃ description, Decoded (.array [.integer 5]) description := by
    rintro ⟨description, pair⟩
    have described := describe_eq_ok_iff.2 pair
    cases described
  obtain ⟨answers, -⟩ := (ofValue_yields _).1 _ _ decoded
  exact ⟨decoded, (answers _).2 (.release read first), (ofValue_yields _).2 undecoded⟩

end Release

end ShaderDriver
