import ShaderDriver.Proofs.Text.Occurrence

namespace ShaderDriver.Text

/-- The second text is the first with every occurrence of `pat` replaced, each search starting behind the
occurrence before. -/
inductive Replaced (pat new : List Char) : List Char → List Char → Prop
  | done : Replaced pat new [] []
  | find {cs ds} : Replaced pat new cs ds → Replaced pat new (pat ++ cs) (new ++ ds)
  | keep {c cs ds} : ¬ pat <+: c :: cs → Replaced pat new cs ds → Replaced pat new (c :: cs) (c :: ds)

section Replacing

variable {pat new : List Char}

theorem splitFirst_start (nonempty : pat ≠ []) (rest : List Char) :
    splitFirst pat (pat ++ rest) = some ([], rest) := by
  have start : strip? pat (pat ++ rest) = some rest := strip?_eq_some.2 rfl
  obtain ⟨p, ps, rfl⟩ := List.exists_cons_of_ne_nil nonempty
  rw [List.cons_append] at start ⊢
  rw [splitFirst, start]

theorem splitFirst_cons {c : Char} {cs : List Char} (absent : ¬ pat <+: c :: cs) :
    splitFirst pat (c :: cs) = (splitFirst pat cs).map fun parts => (c :: parts.1, parts.2) := by
  cases start : strip? pat (c :: cs) with
  | none => rw [splitFirst, start]
  | some rest => exact absurd ⟨rest, (strip?_eq_some.1 start).symm⟩ absent

theorem replaceAll_of_absent {cs : List Char} (absent : ¬ pat <:+: cs) : replaceAll pat new cs = cs := by
  have missing := splitFirst_eq_none_iff.2 absent
  rw [replaceAll]
  split
  · rfl
  · split
    · rfl
    · rename_i found
      rw [missing] at found
      cases found

theorem replaceAll_nil (nonempty : pat ≠ []) : replaceAll pat new [] = [] :=
  replaceAll_of_absent (mt List.infix_nil.1 nonempty)

theorem replaceAll_of_split {cs before after : List Char} (nonempty : pat ≠ [])
    (split : splitFirst pat cs = some (before, after)) :
    replaceAll pat new cs = before ++ new ++ replaceAll pat new after := by
  rw [replaceAll, dif_neg nonempty]
  split
  · rename_i found
    rw [split] at found
    cases found
  · rename_i found
    rw [split] at found
    cases found
    rfl

theorem replaceAll_start (nonempty : pat ≠ []) (rest : List Char) :
    replaceAll pat new (pat ++ rest) = new ++ replaceAll pat new rest :=
  replaceAll_of_split nonempty (splitFirst_start nonempty rest)

theorem replaceAll_cons {c : Char} {cs : List Char} (absent : ¬ pat <+: c :: cs) :
    replaceAll pat new (c :: cs) = c :: replaceAll pat new cs := by
  have nonempty : pat ≠ [] := by
    rintro rfl
    exact absent List.nil_prefix
  have front := splitFirst_cons absent
  cases split : splitFirst pat cs with
  | none =>
    rw [split] at front
    rw [replaceAll_of_absent (splitFirst_eq_none_iff.1 split),
      replaceAll_of_absent (splitFirst_eq_none_iff.1 front)]
  | some parts =>
    rw [split] at front
    rw [replaceAll_of_split nonempty split, replaceAll_of_split nonempty front]
    rfl

/-- The replaced text is the only one that the relation allows. -/
theorem replaced_iff (nonempty : pat ≠ []) {cs ds : List Char} :
    Replaced pat new cs ds ↔ ds = replaceAll pat new cs := by
  constructor
  · intro replaced
    induction replaced with
    | done => rw [replaceAll_nil nonempty]
    | find _ ih => rw [replaceAll_start nonempty, ih]
    | keep absent _ ih => rw [replaceAll_cons absent, ih]
  · rintro rfl
    -- An occurrence is passed over as a whole, so the induction is on the length.
    induction length : cs.length using Nat.strongRecOn generalizing cs with
    | ind n ih =>
      cases cs with
      | nil =>
        rw [replaceAll_nil nonempty]
        exact .done
      | cons c cs =>
        by_cases start : pat <+: c :: cs
        · obtain ⟨rest, joined⟩ := start
          have shorter : rest.length < n := by
            have positive := List.length_pos_iff.2 nonempty
            rw [← length, ← joined, List.length_append]
            omega
          rw [← joined, replaceAll_start nonempty]
          exact .find (ih rest.length shorter rfl)
        · rw [replaceAll_cons start]
          exact .keep start (ih cs.length (by rw [← length]; exact Nat.lt_succ_self _) rfl)

theorem replaceAll_replaced (nonempty : pat ≠ []) (new cs : List Char) :
    Replaced pat new cs (replaceAll pat new cs) :=
  (replaced_iff nonempty).2 rfl

/-- A text at whose seam no occurrence lies is replaced part by part. -/
theorem replaceAll_append {before after : List Char} (nonempty : pat ≠ [])
    (apart : ∀ earlier later, earlier ≠ [] → later ≠ [] → earlier <:+ before → later <+: after →
      pat ≠ earlier ++ later) :
    replaceAll pat new (before ++ after) = replaceAll pat new before ++ replaceAll pat new after := by
  have replaced := replaceAll_replaced nonempty new before
  generalize replaceAll pat new before = front at replaced ⊢
  induction replaced with
  | done => rfl
  | @find cs ds _ ih =>
    rw [List.append_assoc, replaceAll_start nonempty, List.append_assoc]
    rw [ih fun earlier later some more inside => apart earlier later some more (inside.trans ⟨pat, rfl⟩)]
  | @keep c cs ds absent _ ih =>
    have start : ¬ pat <+: c :: (cs ++ after) := by
      rintro ⟨rest, joined⟩
      rw [← List.cons_append] at joined
      rcases List.append_eq_append_iff.1 joined with ⟨tail, inside, _⟩ | ⟨later, across, within⟩
      · exact absent ⟨tail, inside.symm⟩
      · by_cases empty : later = []
        · rw [empty, List.append_nil] at across
          exact absent (across ▸ List.prefix_rfl)
        · exact apart (c :: cs) later (by simp) empty List.suffix_rfl ⟨rest, within.symm⟩ across
    rw [List.cons_append, replaceAll_cons start, List.cons_append]
    rw [ih fun earlier later some more inside =>
      apart earlier later some more (inside.trans (List.suffix_cons c cs))]

/-- A character that is not in `pat` cuts the text. -/
theorem replaceAll_append_cons {c : Char} (nonempty : pat ≠ []) (missing : c ∉ pat)
    (before after : List Char) :
    replaceAll pat new (before ++ c :: after) =
      replaceAll pat new before ++ c :: replaceAll pat new after := by
  have start : ¬ pat <+: c :: after := by
    intro start
    obtain ⟨p, ps, rfl⟩ := List.exists_cons_of_ne_nil nonempty
    obtain ⟨same, _⟩ := List.cons_prefix_cons.1 start
    exact missing (same ▸ List.mem_cons_self)
  rw [replaceAll_append nonempty, replaceAll_cons start]
  rintro earlier later - more - within rfl
  obtain ⟨d, ds, rfl⟩ := List.exists_cons_of_ne_nil more
  obtain ⟨same, _⟩ := List.cons_prefix_cons.1 within
  exact missing (by simp [same])

/-- A first character with which `pat` does not start stays in front. -/
theorem Replaced.head? {c : Char} {cs ds : List Char} (replaced : Replaced pat new cs ds)
    (nonempty : pat ≠ []) (starts : cs.head? = some c) (other : pat.head? ≠ some c) :
    ds.head? = some c := by
  cases replaced with
  | done => exact starts
  | find replaced => exact absurd (by rwa [List.head?_append_of_ne_nil pat nonempty] at starts) other
  | keep _ _ => exact starts

theorem Replaced.eq_nil_iff {cs ds : List Char} (replaced : Replaced pat new cs ds)
    (nonempty : pat ≠ []) (some : new ≠ []) : ds = [] ↔ cs = [] := by
  cases replaced <;> simp [nonempty, some]

/-- The last character stays or comes from the replacement. -/
theorem Replaced.getLast? {p : Char → Prop} {cs ds : List Char} (replaced : Replaced pat new cs ds)
    (nonempty : pat ≠ []) (some : new ≠ []) (inserted : ∀ c ∈ new, p c) (last : ∀ c ∈ cs.getLast?, p c) :
    ∀ c ∈ ds.getLast?, p c := by
  induction replaced with
  | done => exact last
  | @find cs ds replaced ih =>
    by_cases empty : cs = []
    · rw [(replaced.eq_nil_iff nonempty some).2 empty, List.append_nil]
      exact fun c member => inserted c (List.mem_of_getLast? member)
    · rw [List.getLast?_append_of_ne_nil _ empty] at last
      rw [List.getLast?_append_of_ne_nil _ (mt (replaced.eq_nil_iff nonempty some).1 empty)]
      exact ih last
  | @keep c cs ds _ replaced ih =>
    by_cases empty : cs = []
    · rw [(replaced.eq_nil_iff nonempty some).2 empty]
      rwa [empty] at last
    · rw [List.getLast?_cons_of_ne_nil empty] at last
      rw [List.getLast?_cons_of_ne_nil (mt (replaced.eq_nil_iff nonempty some).1 empty)]
      exact ih last

end Replacing

end ShaderDriver.Text
