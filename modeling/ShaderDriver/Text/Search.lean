namespace ShaderDriver.Text

/-- The text without a leading `pat`, if it has one. -/
def strip? : (pat cs : List Char) → Option (List Char)
  | [], cs => some cs
  | _ :: _, [] => none
  | p :: pat, c :: cs => if p = c then strip? pat cs else none

/-- The text before and after the first occurrence of `pat`. -/
def splitFirst (pat : List Char) : List Char → Option (List Char × List Char)
  | [] => (strip? pat []).map ([], ·)
  | c :: cs =>
    match strip? pat (c :: cs) with
    | some rest => some ([], rest)
    | none => (splitFirst pat cs).map fun parts => (c :: parts.1, parts.2)

/-- The text before and after the last `sep`. -/
def splitLast (sep : Char) : List Char → Option (List Char × List Char)
  | [] => none
  | c :: cs =>
    match splitLast sep cs with
    | some parts => some (c :: parts.1, parts.2)
    | none => if c = sep then some ([], cs) else none

/-- The pieces between the occurrences of `sep`, at least one. -/
def fields (sep : Char) : List Char → List (List Char)
  | [] => [[]]
  | c :: cs =>
    if c = sep then [] :: fields sep cs
    else
      match fields sep cs with
      | [] => [[c]]
      | piece :: pieces => (c :: piece) :: pieces

theorem strip?_eq_some {pat cs rest : List Char} : strip? pat cs = some rest ↔ cs = pat ++ rest := by
  induction pat generalizing cs with
  | nil => simp [strip?, eq_comm]
  | cons p pat ih =>
    cases cs with
    | nil => simp [strip?]
    | cons c cs =>
      simp only [strip?]
      split
      · next h => subst h; simp [ih]
      · next h => simp [Ne.symm h]

theorem strip?_toList {pat s : String} {rest : List Char} :
    strip? pat.toList s.toList = some rest ↔ s = pat ++ String.ofList rest := by
  rw [strip?_eq_some, ← String.toList_inj, String.toList_append]
  have back : (String.ofList rest).toList = rest := String.toList_ofList
  rw [back]

theorem splitFirst_join {pat cs before after : List Char}
    (h : splitFirst pat cs = some (before, after)) : cs = before ++ pat ++ after := by
  induction cs generalizing before with
  | nil =>
    simp only [splitFirst, Option.map_eq_some_iff] at h
    obtain ⟨rest, found, same⟩ := h
    cases same
    simpa using strip?_eq_some.1 found
  | cons c cs ih =>
    simp only [splitFirst] at h
    split at h
    · next rest found =>
      cases h
      simpa using strip?_eq_some.1 found
    · obtain ⟨parts, found, same⟩ := Option.map_eq_some_iff.1 h
      cases same
      simp [ih found]

theorem splitLast_join {sep : Char} {cs before after : List Char}
    (h : splitLast sep cs = some (before, after)) : cs = before ++ sep :: after := by
  induction cs generalizing before with
  | nil => simp [splitLast] at h
  | cons c cs ih =>
    simp only [splitLast] at h
    split at h
    · next parts found =>
      cases h
      simp [ih found]
    · split at h
      · next same => cases h; simp [same]
      · cases h

/-- What follows an occurrence of a nonempty pattern is shorter than the text. -/
theorem splitFirst_shorter {pat cs before after : List Char} (nonempty : pat ≠ [])
    (found : splitFirst pat cs = some (before, after)) : after.length < cs.length := by
  have := List.length_pos_iff.2 nonempty
  simp only [splitFirst_join found, List.length_append]
  omega

/-- Replaces the occurrences of `pat` by `new`, each search starting behind the previous find. An
empty `pat` is nowhere. -/
def replaceAll (pat new cs : List Char) : List Char :=
  if nonempty : pat = [] then cs
  else
    match found : splitFirst pat cs with
    | none => cs
    | some (before, after) =>
      have := splitFirst_shorter nonempty found
      before ++ new ++ replaceAll pat new after
termination_by cs.length

/-- Drops the longest ending whose characters all satisfy `p`. -/
def trimEnd (p : Char → Bool) (cs : List Char) : List Char := (cs.reverse.dropWhile p).reverse

/-- The text that stands before a final `pat`. -/
def stripEnd? (pat cs : List Char) : Option (List Char) :=
  (strip? pat.reverse cs.reverse).map List.reverse

theorem stripEnd?_eq_some {pat cs front : List Char} :
    stripEnd? pat cs = some front ↔ cs = front ++ pat := by
  rw [stripEnd?, Option.map_eq_some_iff]
  constructor
  · rintro ⟨rest, stripped, rfl⟩
    have reversed := congrArg List.reverse (strip?_eq_some.1 stripped)
    simpa using reversed
  · rintro rfl
    exact ⟨front.reverse, strip?_eq_some.2 List.reverse_append, List.reverse_reverse front⟩

/-- Writes `sep` between neighbouring pieces. -/
def joinWith (sep : List α) : List (List α) → List α
  | [] => []
  | [piece] => piece
  | piece :: pieces => piece ++ sep ++ joinWith sep pieces

end ShaderDriver.Text
