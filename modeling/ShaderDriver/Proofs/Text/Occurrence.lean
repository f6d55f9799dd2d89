import Mathlib.Data.List.Chain
import Mathlib.Data.List.DropRight
import ShaderDriver.Text.Search

namespace ShaderDriver.Text

/-- The first occurrence of `pat` in `cs` stands between `before` and `after`. -/
structure FirstAt (pat cs before after : List Char) : Prop where
  joined : cs = before ++ pat ++ after
  earliest : ∀ earlier later, cs = earlier ++ pat ++ later → before.length ≤ earlier.length

theorem FirstAt.unique {pat cs before after before' after' : List Char}
    (one : FirstAt pat cs before after) (other : FirstAt pat cs before' after') :
    before = before' ∧ after = after' := by
  have lower := one.earliest _ _ other.joined
  have upper := other.earliest _ _ one.joined
  have same := one.joined.symm.trans other.joined
  simp only [List.append_assoc] at same
  obtain ⟨head, tail⟩ := List.append_inj same (by omega)
  exact ⟨head, List.append_cancel_left tail⟩

theorem FirstAt.isInfix {pat cs before after : List Char} (found : FirstAt pat cs before after) :
    pat <:+: cs := ⟨before, after, found.joined.symm⟩

theorem FirstAt.absent {pat cs before after : List Char} (found : FirstAt pat cs before after)
    (nonempty : pat ≠ []) : ¬ pat <:+: before := by
  rintro ⟨earlier, later, same⟩
  have positive := List.length_pos_iff.2 nonempty
  have bound := found.earliest earlier (later ++ pat ++ after) (by
    rw [found.joined, ← same]; simp only [List.append_assoc])
  have length := congrArg List.length same
  simp only [List.length_append] at length
  omega

theorem splitFirst_eq_none_iff {pat cs : List Char} : splitFirst pat cs = none ↔ ¬ pat <:+: cs := by
  induction cs with
  | nil =>
    cases pat with
    | nil => simp [splitFirst, strip?]
    | cons p pat => simp [splitFirst, strip?]
  | cons c cs ih =>
    rw [List.infix_cons_iff]
    cases stripped : strip? pat (c :: cs) with
    | some rest =>
      have start : pat <+: c :: cs := ⟨rest, (strip?_eq_some.1 stripped).symm⟩
      simp [splitFirst, stripped, start]
    | none =>
      have start : ¬ pat <+: c :: cs := by
        rintro ⟨rest, same⟩
        simp [strip?_eq_some.2 same.symm] at stripped
      simp [splitFirst, stripped, start, ih]

theorem splitFirst_earliest {pat cs before after earlier later : List Char}
    (found : splitFirst pat cs = some (before, after)) (same : cs = earlier ++ pat ++ later) :
    before.length ≤ earlier.length := by
  induction cs generalizing before earlier with
  | nil =>
    simp only [splitFirst, Option.map_eq_some_iff] at found
    obtain ⟨rest, _, equal⟩ := found
    cases equal
    simp
  | cons c cs ih =>
    simp only [splitFirst] at found
    split at found
    · cases found
      simp
    · rename_i notStripped
      obtain ⟨parts, inTail, equal⟩ := Option.map_eq_some_iff.1 found
      cases equal
      cases earlier with
      | nil =>
        rw [strip?_eq_some.2 (show c :: cs = pat ++ later by simpa using same)] at notStripped
        cases notStripped
      | cons first earlier =>
        simp only [List.cons_append, List.cons.injEq] at same
        have bound := ih inTail same.2
        simp only [List.length_cons]
        omega

theorem splitFirst_eq_some_iff {pat cs before after : List Char} :
    splitFirst pat cs = some (before, after) ↔ FirstAt pat cs before after := by
  constructor
  · intro found
    exact ⟨splitFirst_join found, fun _ _ same => splitFirst_earliest found same⟩
  · intro first
    cases found : splitFirst pat cs with
    | none => exact absurd first.isInfix (splitFirst_eq_none_iff.1 found)
    | some parts =>
      have other : FirstAt pat cs parts.1 parts.2 :=
        ⟨splitFirst_join found, fun _ _ same => splitFirst_earliest found same⟩
      obtain ⟨head, tail⟩ := first.unique other
      rw [head, tail]

section Single

variable {x : Char}

theorem single_infix_iff {cs : List Char} : [x] <:+: cs ↔ x ∈ cs := by
  constructor
  · intro inside
    exact inside.subset (List.mem_singleton_self x)
  · intro member
    obtain ⟨before, after, rfl⟩ := List.append_of_mem member
    exact ⟨before, after, by simp⟩

/-- A character that is not in `before` is found right behind it. -/
theorem firstAt_single {before : List Char} (missing : x ∉ before) (after : List Char) :
    FirstAt [x] (before ++ [x] ++ after) before after := by
  refine ⟨rfl, fun earlier later same => ?_⟩
  by_contra shorter
  have inside : earlier.length < before.length := by omega
  have there : before[earlier.length] = x := by
    have at_ := congrArg (fun cs => cs[earlier.length]?) same
    simpa [List.getElem?_append_left, inside] using at_
  exact missing (there ▸ List.getElem_mem inside)

end Single

section Pair

variable {x y : Char}

/-- Two neighbours are nowhere in a text if no two neighbouring characters are they. -/
theorem pair_absent_iff {cs : List Char} :
    ¬ [x, y] <:+: cs ↔ cs.IsChain fun a b => ¬ (a = x ∧ b = y) := by
  rw [List.isChain_iff_forall_rel_of_append_cons_cons]
  constructor
  · rintro absent a b before after same ⟨rfl, rfl⟩
    exact absent ⟨before, after, by simp [same]⟩
  · rintro free ⟨before, after, same⟩
    have joined : cs = before ++ x :: y :: after := by simp [← same]
    exact free joined ⟨rfl, rfl⟩

/-- A pair can come up in a joined text only in one of the parts or across the seam. -/
theorem pair_absent_append {before after : List Char} :
    ¬ [x, y] <:+: before ++ after ↔
      ¬ [x, y] <:+: before ∧ ¬ [x, y] <:+: after ∧ ¬ (before.getLast? = some x ∧ after.head? = some y) := by
  simp only [pair_absent_iff, List.isChain_append]
  refine and_congr_right fun _ => and_congr_right fun _ => ?_
  constructor
  · rintro free ⟨last, head⟩
    exact free x (by simp [last]) y (by simp [head]) ⟨rfl, rfl⟩
  · rintro free a last b head ⟨rfl, rfl⟩
    exact free ⟨by simpa using last, by simpa using head⟩

theorem pair_absent_of_not_mem_right {cs : List Char} (missing : y ∉ cs) : ¬ [x, y] <:+: cs :=
  fun inside => missing (inside.subset (by simp))

/-- If a pair of different characters is not in `before`, the first one behind it is the first. -/
theorem firstAt_pair (different : x ≠ y) {before : List Char} (absent : ¬ [x, y] <:+: before)
    (after : List Char) : FirstAt [x, y] (before ++ [x, y] ++ after) before after := by
  refine ⟨rfl, fun earlier later same => ?_⟩
  by_contra shorter
  have room : earlier.length + 1 ≤ before.length := by omega
  -- The pair would end inside `before` or with the `x` of the later pair.
  have start : earlier ++ [x, y] <+: before ++ [x] := by
    have whole : earlier ++ [x, y] <+: before ++ [x, y] ++ after := ⟨later, by rw [same]⟩
    have part : before ++ [x] <+: before ++ [x, y] ++ after := ⟨y :: after, by simp⟩
    exact List.prefix_of_prefix_length_le whole part (by simp; omega)
  have inside : [x, y] <:+: before ++ [x] :=
    (List.infix_append earlier [x, y] []).trans (by simpa using start.isInfix)
  refine absurd inside (pair_absent_append.2 ⟨absent, pair_absent_of_not_mem_right ?_, ?_⟩)
  · simpa using different.symm
  · simp [different]

end Pair

section Last

variable {sep : Char}

theorem splitLast_eq_none_iff {cs : List Char} : splitLast sep cs = none ↔ sep ∉ cs := by
  induction cs with
  | nil => simp [splitLast]
  | cons c cs ih =>
    cases found : splitLast sep cs with
    | some parts =>
      have member : sep ∈ cs := by
        by_contra missing
        simp [ih.2 missing] at found
      simp [splitLast, found, member]
    | none =>
      have missing := ih.1 found
      simp [splitLast, found, missing, eq_comm]

theorem splitLast_append {before after : List Char} (missing : sep ∉ after) :
    splitLast sep (before ++ sep :: after) = some (before, after) := by
  induction before with
  | nil => simp [splitLast, splitLast_eq_none_iff.2 missing]
  | cons c before ih => simp [splitLast, ih]

theorem splitLast_missing {cs before after : List Char}
    (found : splitLast sep cs = some (before, after)) : sep ∉ after := by
  induction cs generalizing before with
  | nil => simp [splitLast] at found
  | cons c cs ih =>
    simp only [splitLast] at found
    split at found
    · rename_i parts inTail
      cases found
      exact ih inTail
    · rename_i inTail
      split at found
      · cases found
        exact splitLast_eq_none_iff.1 inTail
      · cases found

/-- What follows the last `sep`; the whole text if there is none. -/
def lastToken (sep : Char) (cs : List Char) : List Char := cs.rtakeWhile (· ≠ sep)

theorem lastToken_append {before after : List Char} (missing : sep ∉ after) :
    lastToken sep (before ++ sep :: after) = after := by
  have free : ∀ c ∈ after.reverse, (decide (c ≠ sep)) = true := by
    intro c member
    simp only [decide_eq_true_eq]
    rintro rfl
    exact missing (List.mem_reverse.1 member)
  simp only [lastToken, List.rtakeWhile, List.reverse_append, List.reverse_cons, List.append_assoc]
  rw [List.takeWhile_append_of_pos free]
  simp

theorem lastToken_of_not_mem {cs : List Char} (missing : sep ∉ cs) : lastToken sep cs = cs := by
  refine List.rtakeWhile_eq_self_iff.2 fun c member => ?_
  simp only [decide_eq_true_eq]
  rintro rfl
  exact missing member

theorem fields_of_not_mem {cs : List Char} (missing : sep ∉ cs) : fields sep cs = [cs] := by
  induction cs with
  | nil => rfl
  | cons c cs ih =>
    have other : c ≠ sep := by
      rintro rfl
      exact missing List.mem_cons_self
    rw [fields, if_neg other, ih fun member => missing (List.mem_cons_of_mem _ member)]

theorem fields_ne_nil (cs : List Char) : fields sep cs ≠ [] := by
  cases cs with
  | nil => simp [fields]
  | cons c cs =>
    rw [fields]
    split
    · simp
    · split <;> simp

theorem fields_append (before after : List Char) :
    fields sep (before ++ sep :: after) = fields sep before ++ fields sep after := by
  induction before with
  | nil => simp [fields]
  | cons c before ih =>
    rw [List.cons_append, fields, fields, ih]
    by_cases same : c = sep
    · simp only [if_pos same, List.cons_append]
    · simp only [if_neg same]
      cases front : fields sep before with
      | nil => exact absurd front (fields_ne_nil before)
      | cons piece pieces => rfl

theorem fields_intercalate {pieces : List (List Char)} (nonempty : pieces ≠ [])
    (flat : ∀ piece ∈ pieces, sep ∉ piece) : fields sep ([sep].intercalate pieces) = pieces := by
  induction pieces with
  | nil => exact absurd rfl nonempty
  | cons piece pieces ih =>
    obtain ⟨first, others⟩ := List.forall_mem_cons.1 flat
    cases pieces with
    | nil => rw [List.intercalate_singleton, fields_of_not_mem first]
    | cons next pieces =>
      rw [List.intercalate_cons_cons, List.append_assoc, List.singleton_append, fields_append,
        fields_of_not_mem first, ih nofun others, List.singleton_append]

/-- The pieces of a text, joined again, are the text. -/
theorem intercalate_fields (cs : List Char) : [sep].intercalate (fields sep cs) = cs := by
  induction cs with
  | nil => rfl
  | cons c cs ih =>
    have some : fields sep cs ≠ [] := fields_ne_nil cs
    obtain ⟨piece, pieces, split⟩ := List.exists_cons_of_ne_nil some
    rw [split] at ih
    rw [fields, split]
    split
    · next same => rw [List.intercalate_cons_cons, ih, same, List.nil_append, List.singleton_append]
    · rw [List.intercalate_cons_cons_left, ih]

theorem mem_intercalate {c : Char} {pieces : List (List Char)}
    (member : c ∈ [sep].intercalate pieces) : c = sep ∨ ∃ piece ∈ pieces, c ∈ piece := by
  induction pieces with
  | nil => cases member
  | cons piece pieces ih =>
    cases pieces with
    | nil =>
      rw [List.intercalate_singleton] at member
      exact .inr ⟨piece, List.mem_cons_self, member⟩
    | cons next pieces =>
      rw [List.intercalate_cons_cons, List.append_assoc, List.singleton_append, List.mem_append,
        List.mem_cons] at member
      rcases member with first | same | later
      · exact .inr ⟨piece, List.mem_cons_self, first⟩
      · exact .inl same
      · rcases ih later with same | ⟨other, among, inside⟩
        · exact .inl same
        · exact .inr ⟨other, List.mem_cons_of_mem _ among, inside⟩

end Last

end ShaderDriver.Text
