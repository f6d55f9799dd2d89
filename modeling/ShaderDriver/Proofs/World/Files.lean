import ShaderDriver.Proofs.World.Places

namespace ShaderDriver

theorem Tree.find?_erase {tree : Tree} {place other : Place} (apart : other ≠ place) :
    (tree.erase place).find? other = tree.find? other := by
  cases other with
  | nil => rfl
  | cons name above =>
    simp only [Tree.find?_cons, Tree.erase]
    induction tree.entries with
    | nil => rfl
    | cons old entries ih =>
      obtain ⟨owner, entry⟩ := old
      by_cases erased : owner = place
      · have missed : (name :: above == owner) = false := by
          rw [erased]
          exact beq_eq_false_iff_ne.2 apart
        rw [List.filter_cons_of_neg (by simp [erased]), List.lookup_cons, missed]
        exact ih
      · rw [List.filter_cons_of_pos (by simp [erased]), List.lookup_cons, List.lookup_cons, ih]

theorem Tree.find?_erase_self {tree : Tree} {place : Place} (named : place ≠ []) :
    (tree.erase place).find? place = none := by
  obtain ⟨name, above, rfl⟩ := List.exists_cons_of_ne_nil named
  simp only [Tree.find?_cons, Tree.erase, List.lookup_eq_none_iff, List.mem_filter]
  rintro old ⟨-, kept⟩
  exact bne_iff_ne.2 (Ne.symm (bne_iff_ne.1 kept))

namespace World

theorem removeFile_eq_ok {world after : World} {path : String} (removed : world.removeFile path = .ok after) :
    ∃ place bytes executable, world.locate path = .ok place ∧
      world.tree.find? place = some (.file bytes executable) ∧
      after = { world with tree := world.tree.erase place } := by
  unfold removeFile at removed
  cases located : world.locate path with
  | error fault => simp [located, bind, Except.bind] at removed
  | ok place =>
    simp only [located, bind, Except.bind] at removed
    split at removed
    · rename_i bytes executable there
      cases removed
      exact ⟨place, bytes, executable, rfl, there, rfl⟩
    · cases removed
    · cases removed

theorem samePlaces_removeFile {world after : World} {path : String}
    (removed : world.removeFile path = .ok after) : SamePlaces world after := by
  obtain ⟨place, bytes, executable, _, there, rfl⟩ := removeFile_eq_ok removed
  refine samePlaces_of_directories fun other => ?_
  by_cases same : other = place
  · have free : world.tree.find? place ≠ some .directory := by simp [there]
    rw [same, Tree.find?_erase_self (Tree.ne_nil_of_no_directory free)]
    exact iff_of_false nofun free
  · rw [Tree.find?_erase same]

/-- Deleting a file changes nothing of what is read elsewhere. -/
theorem found_removeFile {world after : World} {path other : String}
    (removed : world.removeFile path = .ok after) (distinct : world.Distinct path other) :
    after.found other = world.found other := by
  have same := samePlaces_removeFile removed
  obtain ⟨place, bytes, executable, located, _, rfl⟩ := removeFile_eq_ok removed
  refine found_congr same fun target elsewhere => Tree.find?_erase ?_
  rintro rfl
  exact distinct target located elsewhere

end World

/-- A name that a file can have in a directory. -/
structure Path.IsName (name : List Char) : Prop where
  nonempty : name ≠ []
  flat : '/' ∉ name
  notHere : name ≠ ['.']
  notAbove : name ≠ ['.', '.']

theorem Path.isAbsolute_of_flat {name : String} (flat : '/' ∉ name.toList) : isAbsolute name = false := by
  unfold isAbsolute
  split
  · rename_i rest slash
    rw [slash] at flat
    exact absurd List.mem_cons_self flat
  · rfl

theorem Path.join_toList (base : String) {name : String} (flat : '/' ∉ name.toList) :
    (join base name).toList = name.toList ∨
      ∃ before, (join base name).toList = before ++ '/' :: name.toList := by
  have relative := isAbsolute_of_flat flat
  unfold join
  rw [relative, Bool.false_or]
  split
  · exact Or.inl rfl
  · split
    · rename_i ends
      obtain ⟨before, front⟩ := List.getLast?_eq_some_iff.1 ends
      refine Or.inr ⟨before, ?_⟩
      rw [String.toList_append, front, List.append_assoc, List.singleton_append]
    · refine Or.inr ⟨base.toList, ?_⟩
      simp

/-- A path to a name in a directory starts with the directory, perhaps with a slash behind it. -/
theorem Path.join_front (base : String) {name : String} (flat : '/' ∉ name.toList) :
    ∃ front, (join base name).toList = front ++ name.toList ∧
      (front = base.toList ∨ front = base.toList ++ ['/']) := by
  unfold join
  rw [isAbsolute_of_flat flat, Bool.false_or]
  split
  · rename_i empty
    exact ⟨[], rfl, Or.inl (String.toList_eq_nil_iff.2 (String.isEmpty_iff.1 empty)).symm⟩
  · split
    · exact ⟨base.toList, String.toList_append, Or.inl rfl⟩
    · exact ⟨base.toList ++ ['/'], by simp, Or.inr rfl⟩

/-- Different names in one directory make different paths. -/
theorem Path.join_injective {base name other : String} (flat : '/' ∉ name.toList)
    (flat' : '/' ∉ other.toList) (same : join base name = join base other) : name = other := by
  unfold join at same
  rw [isAbsolute_of_flat flat, isAbsolute_of_flat flat', Bool.false_or] at same
  split at same
  · exact same
  · split at same
    · exact (String.append_right_inj _).1 same
    · exact (String.append_right_inj _).1 same

namespace World

theorem pieces_join (base : String) {name : String} (isName : Path.IsName name.toList) :
    ∃ front, pieces (Path.join base name) = front ++ [name.toList] := by
  have kept : [name.toList].filter (fun piece => !piece.isEmpty) = [name.toList] := by
    simp [isName.nonempty]
  have notSlash : name.toList.getLast? ≠ some '/' := fun ends =>
    isName.flat (List.mem_of_getLast? ends)
  rcases Path.join_toList base isName.flat with alone | ⟨before, below⟩
  · refine ⟨[], ?_⟩
    simp only [pieces, alone, if_neg notSlash, Text.fields_of_not_mem isName.flat]
    rw [kept, List.nil_append]
  · refine ⟨(Text.fields '/' before).filter fun piece => !piece.isEmpty, ?_⟩
    have sameLast : (before ++ '/' :: name.toList).getLast? = name.toList.getLast? := by
      rw [List.getLast?_append_cons, List.getLast?_cons_of_ne_nil isName.nonempty]
    simp only [pieces, below, sameLast, if_neg notSlash, Text.fields_append,
      Text.fields_of_not_mem isName.flat, List.filter_append]
    rw [kept]

/-- A file in a directory is at a place of its name. -/
theorem locate_join {world : World} {base name : String} {place : Place}
    (isName : Path.IsName name.toList) (located : world.locate (Path.join base name) = .ok place) :
    place.getLast? = some name := by
  obtain ⟨front, split⟩ := pieces_join base isName
  obtain ⟨_, followed⟩ := locate_eq_ok.1 located
  rw [split] at followed
  obtain ⟨between, _, last⟩ := follow_append_eq_ok.1 followed
  obtain ⟨_, reached⟩ := follow_cons_eq_ok.1 last
  rw [advance, if_neg isName.notHere, if_neg isName.notAbove, String.ofList_toList] at reached
  cases reached
  exact List.getLast?_concat ..

theorem exists_digit_of_mem_toDigits {c : Char} {n : Nat} (member : c ∈ Nat.toDigits 16 n) :
    ∃ d < 16, Nat.digitChar d = c := by
  induction n using Nat.strongRecOn with
  | ind n ih =>
    rw [Nat.toDigits_eq_if (by omega)] at member
    split at member
    · rename_i small
      exact ⟨n, small, (List.mem_singleton.1 member).symm⟩
    · rcases List.mem_append.1 member with front | last
      · exact ih (n / 16) (by omega) front
      · exact ⟨n % 16, Nat.mod_lt n (by omega), (List.mem_singleton.1 last).symm⟩

/-- What is no hexadecimal digit is not in a fresh name. -/
theorem not_mem_idDigits {c : Char} (other : ∀ d < 16, Nat.digitChar d ≠ c) (n : Nat) :
    c ∉ (idDigits n).toList := by
  simp only [idDigits, String.toList_ofList, List.mem_append, List.mem_replicate, not_or]
  constructor
  · rintro ⟨_, rfl⟩
    exact other 0 (by decide) rfl
  · intro member
    obtain ⟨d, small, same⟩ := exists_digit_of_mem_toDigits member
    exact other d small same

theorem idDigits_flat (n : Nat) : '/' ∉ (idDigits n).toList := not_mem_idDigits (by decide) n

end World

end ShaderDriver
