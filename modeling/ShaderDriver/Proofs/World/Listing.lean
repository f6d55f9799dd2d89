import ShaderDriver.Proofs.World.Files

namespace ShaderDriver

theorem Tree.mem_namesBelow {tree : Tree} {place : Place} {name : String} {entry : Entry}
    (there : tree.find? (place ++ [name]) = some entry) : name ∈ tree.namesBelow place := by
  have listed : (place ++ [name], entry) ∈ tree.entries := by
    obtain ⟨first, rest, whole⟩ := List.exists_cons_of_ne_nil (List.append_ne_nil_of_right_ne_nil place
      (List.cons_ne_nil name []))
    rw [whole, Tree.find?_cons, List.lookup_eq_some_iff] at there
    obtain ⟨before, after, split, -⟩ := there
    rw [split, whole]
    exact List.mem_append_right _ List.mem_cons_self
  refine List.mem_filterMap.2 ⟨_, listed, ?_⟩
  simp

theorem Path.isAbsolute_eq (path : String) : isAbsolute path = (path.toList.head? == some '/') := by
  unfold isAbsolute
  split
  · rename_i rest slash
    rw [slash]
    rfl
  · rename_i other
    cases start : path.toList with
    | nil => rfl
    | cons c rest =>
      refine (beq_eq_false_iff_ne.2 fun same => ?_).symm
      cases same
      exact other rest start

theorem Path.IsName.relative {name : String} (isName : IsName name.toList) : isAbsolute name = false :=
  isAbsolute_of_flat isName.flat

/-- A path seen from a directory starts with the directory and a slash, which may be the directory's own. -/
theorem Path.join_below {base path : String} (named : base ≠ "") (relative : isAbsolute path = false) :
    ∃ front, (join base path).toList = front ++ '/' :: path.toList ∧
      (base.toList = front ∨ base.toList = front ++ ['/']) := by
  have nonempty : base.isEmpty = false := by
    rw [Bool.eq_false_iff, ne_eq, String.isEmpty_iff]
    exact named
  unfold join
  rw [relative, Bool.false_or, nonempty, if_neg Bool.false_ne_true]
  split
  · rename_i slash
    obtain ⟨front, whole⟩ := List.getLast?_eq_some_iff.1 slash
    exact ⟨front, by rw [String.toList_append, whole, List.append_assoc, List.singleton_append], .inr whole⟩
  · exact ⟨base.toList, by simp, .inl rfl⟩

theorem Path.join_ne_empty {base path : String} (named : base ≠ "") (relative : isAbsolute path = false) :
    join base path ≠ "" := by
  obtain ⟨front, below, -⟩ := join_below named relative
  intro empty
  rw [empty] at below
  exact List.append_ne_nil_of_right_ne_nil front (List.cons_ne_nil _ _) below.symm

theorem Path.isAbsolute_join {base path : String} (named : base ≠ "") (relative : isAbsolute path = false) :
    isAbsolute (join base path) = isAbsolute base := by
  obtain ⟨front, below, whole⟩ := join_below named relative
  have same : (join base path).toList.head? = base.toList.head? := by
    rw [below]
    cases front with
    | nil =>
      rcases whole with empty | slash
      · exact absurd (String.toList_eq_nil_iff.1 empty) named
      · rw [slash]
        rfl
    | cons c front =>
      rcases whole with same | slash
      · rw [same]
        rfl
      · rw [slash]
        rfl
  rw [isAbsolute_eq, isAbsolute_eq, same]

namespace World

theorem checkPath_eq_ok_iff {path : String} :
    checkPath path = .ok () ↔ path ≠ "" ∧ '\x00' ∉ path.toList := by
  unfold checkPath
  by_cases empty : path = ""
  · simp [empty]
  · rw [if_neg (mt String.isEmpty_iff.1 empty)]
    by_cases nul : '\x00' ∈ path.toList
    · rw [if_pos (List.contains_iff_mem.2 nul)]
      exact iff_of_false nofun fun printable => printable.2 nul
    · rw [if_neg (mt List.contains_iff_mem.1 nul)]
      exact iff_of_true rfl ⟨empty, nul⟩

/-- The pieces that a path leads through, whether or not it ends in a slash. -/
def way (path : String) : List (List Char) :=
  (Text.fields '/' path.toList).filter fun piece => !piece.isEmpty

theorem follow_pieces {tree : Tree} {path : String} {start place : Place}
    (directory : tree.find? place = some .directory) :
    follow tree (pieces path) start = .ok place ↔ follow tree (way path) start = .ok place := by
  unfold pieces
  split
  · change follow tree (way path ++ [['.']]) start = .ok place ↔ _
    rw [follow_append_eq_ok]
    constructor
    · rintro ⟨between, followed, last⟩
      obtain ⟨-, reached⟩ := follow_cons_eq_ok.1 last
      cases reached
      exact followed
    · intro followed
      exact ⟨place, followed, follow_cons_eq_ok.2 ⟨directory, rfl⟩⟩
  · rfl

theorem way_ne_nil {path : String} (relative : Path.isAbsolute path = false) (nonempty : path ≠ "") :
    way path ≠ [] := by
  obtain ⟨c, rest, whole⟩ := List.exists_cons_of_ne_nil (mt String.toList_eq_nil_iff.1 nonempty)
  have notSlash : c ≠ '/' := by
    rintro rfl
    rw [Path.isAbsolute_eq, whole] at relative
    cases relative
  have filled : Text.fields '/' rest ≠ [] := Text.fields_ne_nil rest
  obtain ⟨piece, pieces, fields⟩ := List.exists_cons_of_ne_nil filled
  simp [way, whole, Text.fields, notSlash, fields]

section Join

variable {base path name : String}

theorem way_join (named : base ≠ "") (relative : Path.isAbsolute path = false) :
    way (Path.join base path) = way base ++ way path := by
  obtain ⟨front, below, whole⟩ := Path.join_below named relative
  have sameWay : way base = (Text.fields '/' front).filter fun piece => !piece.isEmpty := by
    rcases whole with same | slash
    · rw [way, same]
    · rw [way, slash, Text.fields_append, List.filter_append]
      exact List.append_nil _
  rw [sameWay, way, below, Text.fields_append, List.filter_append]
  rfl

theorem pieces_below (named : base ≠ "") (relative : Path.isAbsolute path = false) (nonempty : path ≠ "") :
    pieces (Path.join base path) = way base ++ pieces path := by
  obtain ⟨front, below, -⟩ := Path.join_below named relative
  have sameLast : (Path.join base path).toList.getLast? = path.toList.getLast? := by
    rw [below, List.getLast?_append_cons,
      List.getLast?_cons_of_ne_nil (mt String.toList_eq_nil_iff.1 nonempty)]
  change (if (Path.join base path).toList.getLast? = some '/' then way (Path.join base path) ++ [['.']]
    else way (Path.join base path)) =
      way base ++ if path.toList.getLast? = some '/' then way path ++ [['.']] else way path
  rw [sameLast, way_join named relative]
  split
  · exact List.append_assoc ..
  · rfl

theorem checkPath_join (named : base ≠ "") (relative : Path.isAbsolute path = false) (nonempty : path ≠ "") :
    checkPath (Path.join base path) = .ok () ↔ checkPath base = .ok () ∧ checkPath path = .ok () := by
  obtain ⟨front, below, whole⟩ := Path.join_below named relative
  have printable : '\x00' ∉ (Path.join base path).toList ↔ '\x00' ∉ base.toList ∧ '\x00' ∉ path.toList := by
    rw [below]
    rcases whole with same | slash
    · simp [same]
    · simp [slash]
  simp only [checkPath_eq_ok_iff, printable, ne_eq, named, nonempty, Path.join_ne_empty named relative,
    not_false_eq_true, true_and]

/-- A path seen from a directory leads where it leads for who works in the directory. -/
theorem locate_join_relative {world : World} {place : Place} (named : base ≠ "")
    (relative : Path.isAbsolute path = false) (nonempty : path ≠ "") :
    world.locate (Path.join base path) = .ok place ↔
      ∃ above, world.locate base = .ok above ∧ world.tree.find? above = some .directory ∧
        { world with workingDir := above }.locate path = .ok place := by
  have steps : ∃ piece others, pieces path = piece :: others := by
    refine List.exists_cons_of_ne_nil ?_
    unfold pieces
    split
    · exact List.append_ne_nil_of_right_ne_nil _ (List.cons_ne_nil _ _)
    · exact way_ne_nil relative nonempty
  have directory {above : Place} (followed : follow world.tree (pieces path) above = .ok place) :
      world.tree.find? above = some .directory := by
    obtain ⟨piece, others, split⟩ := steps
    rw [split] at followed
    exact (follow_cons_eq_ok.1 followed).1
  simp only [locate_eq_ok, checkPath_join named relative nonempty, Path.isAbsolute_join named relative,
    pieces_below named relative nonempty, follow_append_eq_ok, relative, Bool.false_eq_true, if_false]
  constructor
  · rintro ⟨⟨checked, checked'⟩, above, toAbove, onward⟩
    exact ⟨above, ⟨checked, (follow_pieces (directory onward)).2 toAbove⟩, directory onward, checked', onward⟩
  · rintro ⟨above, ⟨checked, toAbove⟩, there, checked', onward⟩
    exact ⟨⟨checked, checked'⟩, above, (follow_pieces there).1 toAbove, onward⟩

/-- A path to a name in a directory leads to that name below the place of the directory. -/
theorem locate_join_eq_ok {world : World} {place : Place} (named : base ≠ "")
    (isName : Path.IsName name.toList) (printable : '\x00' ∉ name.toList) :
    world.locate (Path.join base name) = .ok place ↔
      ∃ above, world.locate base = .ok above ∧ world.tree.find? above = some .directory ∧
        place = above ++ [name] := by
  have nonempty : name ≠ "" := mt String.toList_eq_nil_iff.2 isName.nonempty
  have notSlash : name.toList.getLast? ≠ some '/' := fun ends =>
    isName.flat (List.mem_of_getLast? ends)
  have alone : pieces name = [name.toList] := by
    rw [pieces, if_neg notSlash, Text.fields_of_not_mem isName.flat]
    simp [isName.nonempty]
  have advanced (above : Place) : advance above name.toList = above ++ [name] := by
    rw [advance, if_neg isName.notHere, if_neg isName.notAbove, String.ofList_toList]
  have down {above : Place} (directory : world.tree.find? above = some .directory) :
      { world with workingDir := above }.locate name = .ok place ↔ place = above ++ [name] := by
    rw [locate_eq_ok, checkPath_eq_ok_iff, isName.relative, alone, follow_cons_eq_ok]
    simp [nonempty, printable, directory, advanced, follow, eq_comm]
  rw [locate_join_relative named isName.relative nonempty]
  constructor
  · rintro ⟨above, root, directory, below⟩
    exact ⟨above, root, directory, (down directory).1 below⟩
  · rintro ⟨above, root, directory, below⟩
    exact ⟨above, root, directory, (down directory).2 below⟩

end Join

theorem listDirectory_eq_ok {world : World} {path : String} {names : List String} :
    world.listDirectory path = .ok names ↔ ∃ place, world.locate path = .ok place ∧
      world.tree.find? place = some .directory ∧ names = world.tree.namesBelow place := by
  unfold listDirectory
  cases located : world.locate path with
  | error fault => simp [bind, Except.bind]
  | ok place =>
    cases there : world.tree.find? place with
    | none => simp [there, bind, Except.bind, throw, throwThe, MonadExceptOf.throw]
    | some entry =>
      cases entry <;> simp [there, bind, Except.bind, pure, Except.pure, eq_comm, throw, throwThe,
        MonadExceptOf.throw]

/-- What is at a name in a directory is listed. -/
theorem mem_listDirectory {world : World} {path name : String} {names : List String} {place : Place}
    {entry : Entry} (listed : world.listDirectory path = .ok names) (isName : Path.IsName name.toList)
    (printable : '\x00' ∉ name.toList) (located : world.locate (Path.join path name) = .ok place)
    (there : world.tree.find? place = some entry) : name ∈ names := by
  obtain ⟨above, root, -, rfl⟩ := listDirectory_eq_ok.1 listed
  have named := (checkPath_eq_ok_iff.1 (locate_eq_ok.1 root).1).1
  obtain ⟨above', root', -, rfl⟩ := (locate_join_eq_ok named isName printable).1 located
  rw [root] at root'
  cases root'
  exact Tree.mem_namesBelow there

end World

end ShaderDriver
