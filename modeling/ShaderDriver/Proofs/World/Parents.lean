import ShaderDriver.Proofs.World.Listing

namespace ShaderDriver

namespace Text

theorem joinWith_eq_intercalate {α : Type} (sep : List α) (pieces : List (List α)) :
    joinWith sep pieces = sep.intercalate pieces := by
  induction pieces with
  | nil => rfl
  | cons piece pieces ih =>
    cases pieces with
    | nil => rw [joinWith, List.intercalate_singleton]
    | cons next pieces => rw [joinWith, ih, List.intercalate_cons_cons]; exact nofun

variable {sep : Char}

/-- The pieces of a text consist of its characters, the separator apart. -/
theorem mem_of_mem_fields {cs piece : List Char} (listed : piece ∈ fields sep cs) {c : Char}
    (member : c ∈ piece) : c ∈ cs ∧ c ≠ sep := by
  induction cs generalizing piece with
  | nil =>
    rw [fields, List.mem_singleton] at listed
    rw [listed] at member
    cases member
  | cons d cs ih =>
    rw [fields] at listed
    by_cases same : d = sep
    · rw [if_pos same, List.mem_cons] at listed
      rcases listed with rfl | later
      · cases member
      · obtain ⟨inside, other⟩ := ih later member
        exact ⟨List.mem_cons_of_mem d inside, other⟩
    · have filled : fields sep cs ≠ [] := fields_ne_nil cs
      obtain ⟨first, others, split⟩ := List.exists_cons_of_ne_nil filled
      rw [if_neg same] at listed
      simp only [split, List.mem_cons] at listed ih
      rcases listed with rfl | later
      · rcases List.mem_cons.1 member with rfl | inside
        · exact ⟨List.mem_cons_self, same⟩
        · obtain ⟨inside, other⟩ := ih (.inl rfl) inside
          exact ⟨List.mem_cons_of_mem d inside, other⟩
      · obtain ⟨inside, other⟩ := ih (.inr later) member
        exact ⟨List.mem_cons_of_mem d inside, other⟩

end Text

namespace Path

theorem isAbsolute_slash (body : List Char) : isAbsolute (String.ofList ('/' :: body)) = true := by
  rw [isAbsolute_eq, String.toList_ofList]
  rfl

/-- A piece of an absolute path that leads nowhere. -/
def Idle (piece : List Char) : Prop := piece = [] ∨ piece = ['.']

theorem isTrailing_iff {piece : List Char} {earlier : List (List Char)} :
    isTrailing true piece earlier = true ↔ Idle piece := by
  simp [isTrailing, Idle]

/-- What is dropped at the end leads nowhere, and the piece before it leads somewhere. -/
theorem dropTrailing_spec (pieces : List (List Char)) :
    (∃ idle, pieces = (dropTrailing true pieces.reverse).reverse ++ idle ∧ ∀ piece ∈ idle, Idle piece) ∧
    ∀ last earlier, dropTrailing true pieces.reverse = last :: earlier → ¬ Idle last := by
  induction pieces using List.reverseRecOn with
  | nil => exact ⟨⟨[], rfl, nofun⟩, nofun⟩
  | append_singleton pieces piece ih =>
    rw [List.reverse_concat, dropTrailing]
    obtain ⟨⟨idle, split, all⟩, first⟩ := ih
    by_cases trailing : isTrailing true piece pieces.reverse = true
    · rw [if_pos trailing]
      refine ⟨⟨idle ++ [piece], by rw [← List.append_assoc, ← split], fun other member => ?_⟩, first⟩
      rcases List.mem_append.1 member with earlier | same
      · exact all other earlier
      · rw [List.mem_singleton.1 same]
        exact isTrailing_iff.1 trailing
    · rw [if_neg trailing]
      refine ⟨⟨[], by simp, nofun⟩, ?_⟩
      rintro last earlier ⟨⟩
      exact mt isTrailing_iff.2 trailing

/-- The last name of an absolute path stands between pieces that lead nowhere, and is dropped with them. -/
theorem parent?_cases {path : String} {body : List Char} (absolute : path.toList = '/' :: body) :
    (∀ piece ∈ Text.fields '/' body, Idle piece) ∨
    ∃ front before last after, Text.fields '/' body = front ++ before ++ last :: after ∧
      (∀ piece ∈ before, Idle piece) ∧ (∀ piece ∈ after, Idle piece) ∧ ¬ Idle last ∧
      parent? path = some (String.ofList ('/' :: Text.joinWith ['/'] front)) := by
  have slash : isAbsolute path = true := by rw [isAbsolute_eq, absolute]; rfl
  obtain ⟨⟨after, fields, idle⟩, named⟩ := dropTrailing_spec (Text.fields '/' body)
  cases kept : dropTrailing true (Text.fields '/' body).reverse with
  | nil =>
    left
    rw [kept, List.reverse_nil, List.nil_append] at fields
    rw [fields]
    exact idle
  | cons last earlier =>
    right
    obtain ⟨⟨before, split, idle'⟩, -⟩ := dropTrailing_spec earlier.reverse
    rw [List.reverse_reverse] at split
    have leads := named last earlier kept
    refine ⟨(dropTrailing true earlier).reverse, before, last, after, ?_, idle', idle, leads, ?_⟩
    · rw [fields, kept, List.reverse_cons, split, List.append_assoc, List.singleton_append]
    · simp only [parent?, slash, if_true, absolute, List.drop_one, List.tail_cons, kept]
      rfl

end Path

namespace World

/-- All places above are directories. -/
def Rooted (tree : Tree) (place : Place) : Prop :=
  ∀ above, above <+: place → above ≠ place → tree.find? above = some .directory

theorem rooted_nil (tree : Tree) : Rooted tree [] := fun _ inside apart =>
  absurd (List.prefix_nil.1 inside) apart

section Rooted

variable {tree : Tree} {start place : Place}

theorem Rooted.advance (rooted : Rooted tree place) (directory : tree.find? place = some .directory)
    (piece : List Char) : Rooted tree (advance place piece) := by
  have upTo : ∀ above, above <+: place → tree.find? above = some .directory := by
    intro above inside
    by_cases same : above = place
    · rw [same]
      exact directory
    · exact rooted above inside same
  unfold World.advance
  split
  · exact rooted
  · split
    · exact fun above inside _ => upTo above (inside.trans (List.dropLast_prefix place))
    · intro above inside apart
      exact upTo above ((List.prefix_concat_iff.1 inside).resolve_left apart)

theorem Rooted.follow {path : List (List Char)} (rooted : Rooted tree start)
    (followed : follow tree path start = .ok place) : Rooted tree place := by
  induction path generalizing start with
  | nil =>
    cases followed
    exact rooted
  | cons piece path ih =>
    obtain ⟨directory, rest⟩ := follow_cons_eq_ok.1 followed
    exact ih (rooted.advance directory piece) rest

theorem Rooted.dropLast (rooted : Rooted tree place) (directory : tree.find? place = some .directory) :
    tree.find? place.dropLast = some .directory := by
  by_cases root : place.dropLast = place
  · rw [root]
    exact directory
  · exact rooted place.dropLast (List.dropLast_prefix place) root

/-- A path through nothing but dots stays where it is. -/
theorem follow_idle {path : List (List Char)} (idle : ∀ piece ∈ path, piece = ['.'])
    (followed : World.follow tree path start = .ok place) : place = start := by
  induction path generalizing start with
  | nil =>
    cases followed
    rfl
  | cons piece path ih =>
    obtain ⟨here, others⟩ := List.forall_mem_cons.1 idle
    have rest := (follow_cons_eq_ok.1 followed).2
    rw [World.advance, if_pos here] at rest
    exact ih others rest

end Rooted

/-- The pieces of a way that lead somewhere, or stay. -/
theorem idle_filter {pieces : List (List Char)} (idle : ∀ piece ∈ pieces, Path.Idle piece) :
    ∀ piece ∈ pieces.filter (fun piece => !piece.isEmpty), piece = ['.'] := by
  intro piece member
  obtain ⟨listed, some⟩ := List.mem_filter.1 member
  rcases idle piece listed with rfl | dot
  · cases some
  · exact dot

theorem exists_pieces_eq (path : String) :
    ∃ dots, pieces path = way path ++ dots ∧ ∀ piece ∈ dots, piece = ['.'] := by
  unfold pieces
  split
  · exact ⟨[['.']], rfl, fun piece member => List.mem_singleton.1 member⟩
  · exact ⟨[], (List.append_nil _).symm, nofun⟩

theorem way_absolute {path : String} {body : List Char} (absolute : path.toList = '/' :: body) :
    way path = (Text.fields '/' body).filter fun piece => !piece.isEmpty := by
  rw [way, absolute, Text.fields, if_pos rfl]
  rfl

/-- The pieces of an absolute path are found again. -/
theorem way_joined {front : List (List Char)} (flat : ∀ piece ∈ front, '/' ∉ piece) :
    way (String.ofList ('/' :: Text.joinWith ['/'] front)) = front.filter fun piece => !piece.isEmpty := by
  rw [way_absolute String.toList_ofList, Text.joinWith_eq_intercalate]
  by_cases empty : front = []
  · rw [empty]
    rfl
  · rw [Text.fields_intercalate empty flat]

/-- A path of pieces without slashes is absolute, and leads where its pieces lead. -/
theorem locate_joined {world : World} {front : List (List Char)} {place : Place}
    (flat : ∀ piece ∈ front, '/' ∉ piece ∧ '\x00' ∉ piece)
    (directory : world.tree.find? place = some .directory)
    (followed : follow world.tree (front.filter fun piece => !piece.isEmpty) [] = .ok place) :
    world.locate (String.ofList ('/' :: Text.joinWith ['/'] front)) = .ok place := by
  have printable : '\x00' ∉ '/' :: Text.joinWith ['/'] front := by
    rw [Text.joinWith_eq_intercalate, List.mem_cons]
    rintro (same | inside)
    · cases same
    · rcases Text.mem_intercalate inside with same | ⟨piece, listed, member⟩
      · cases same
      · exact (flat piece listed).2 member
  have noSlash : ∀ piece ∈ front, '/' ∉ piece := fun piece listed => (flat piece listed).1
  rw [locate_eq_ok, if_pos (Path.isAbsolute_slash _), follow_pieces directory, way_joined noSlash,
    checkPath_eq_ok_iff, String.toList_ofList]
  refine ⟨⟨fun empty => ?_, printable⟩, followed⟩
  rw [← String.toList_eq_nil_iff, String.toList_ofList] at empty
  cases empty

/-- A way with one name between pieces that lead nowhere ends in one step from where the front leads. -/
theorem follow_around {tree : Tree} {front before after : List (List Char)} {name : List Char} {place : Place}
    (idle : ∀ piece ∈ before, Path.Idle piece) (idle' : ∀ piece ∈ after, Path.Idle piece)
    (named : ¬ Path.Idle name)
    (followed : follow tree ((front ++ before ++ name :: after).filter fun piece => !piece.isEmpty) [] =
      .ok place) :
    ∃ above, follow tree (front.filter fun piece => !piece.isEmpty) [] = .ok above ∧
      tree.find? above = some .directory ∧ place = advance above name := by
  have kept : [name].filter (fun piece => !piece.isEmpty) = [name] := by
    simpa using fun empty => named (.inl empty)
  rw [List.filter_append, List.filter_append, ← List.singleton_append, List.filter_append, kept] at followed
  obtain ⟨above, toAbove, onward⟩ := follow_append_eq_ok.1 followed
  obtain ⟨between, toFront, stays⟩ := follow_append_eq_ok.1 toAbove
  cases follow_idle (idle_filter idle) stays
  obtain ⟨directory, rest⟩ := follow_cons_eq_ok.1 onward
  exact ⟨above, toFront, directory, follow_idle (idle_filter idle') rest⟩

/-- The step to what is no directory goes down. -/
theorem Rooted.advance_eq {tree : Tree} {above : Place} {name : List Char} (rooted : Rooted tree above)
    (directory : tree.find? above = some .directory) (named : ¬ Path.Idle name)
    (notDirectory : tree.find? (World.advance above name) ≠ some .directory) :
    World.advance above name = above ++ [String.ofList name] := by
  have notAbove : name ≠ ['.', '.'] := by
    intro up
    rw [World.advance, up, if_neg (by decide), if_pos rfl] at notDirectory
    exact notDirectory (rooted.dropLast directory)
  rw [World.advance, if_neg fun here => named (.inr here), if_neg notAbove]

/-- The directory with which the path to a file starts, and in which the file is. -/
structure DirectoryOf (world : World) (path directory : String) : Prop where
  parent : Path.parent? path = some directory
  absolute : Path.isAbsolute directory = true
  holds : ∃ above name, world.locate directory = .ok above ∧ world.tree.find? above = some .directory ∧
    world.locate path = .ok (above ++ [name])

/-- The path without its last name leads to the directory of the file. -/
theorem exists_directoryOf {world : World} {path : String} {place : Place} {bytes : Bytes} {executable : Bool}
    (absolute : Path.isAbsolute path = true) (located : world.locate path = .ok place)
    (file : world.tree.find? place = some (.file bytes executable)) :
    ∃ directory, world.DirectoryOf path directory := by
  obtain ⟨body, whole⟩ : ∃ body, path.toList = '/' :: body := by
    rw [Path.isAbsolute_eq, beq_iff_eq, List.head?_eq_some_iff] at absolute
    exact absolute
  obtain ⟨checked, followed⟩ := locate_eq_ok.1 located
  obtain ⟨dots, split, onlyDots⟩ := exists_pieces_eq path
  rw [if_pos absolute, split, way_absolute whole] at followed
  obtain ⟨between, onWay, stays⟩ := follow_append_eq_ok.1 followed
  cases follow_idle onlyDots stays
  have notDirectory : world.tree.find? place ≠ some .directory := by
    rw [file]
    exact nofun
  rcases Path.parent?_cases whole with idle | ⟨front, before, name, after, fields, idle, idle', named, parent⟩
  · -- a path without a name leads to the root
    cases follow_idle (idle_filter idle) onWay
    exact absurd rfl notDirectory
  · rw [fields] at onWay
    obtain ⟨above, toFront, directory, rfl⟩ := follow_around idle idle' named onWay
    have flat : ∀ piece ∈ front, '/' ∉ piece ∧ '\x00' ∉ piece := by
      intro piece listed
      have among : piece ∈ Text.fields '/' body := by simp [fields, listed]
      have printable : '\x00' ∉ body := by
        rw [checkPath_eq_ok_iff, whole] at checked
        exact fun nul => checked.2 (List.mem_cons_of_mem _ nul)
      exact ⟨fun slash => (Text.mem_of_mem_fields among slash).2 rfl, fun nul =>
        printable (Text.mem_of_mem_fields among nul).1⟩
    have rooted := (rooted_nil world.tree).follow toFront
    have below := rooted.advance_eq directory named notDirectory
    have found := locate_joined flat directory toFront
    exact ⟨_, parent, Path.isAbsolute_slash _, above, String.ofList name, found, directory, below ▸ located⟩

end World

end ShaderDriver
