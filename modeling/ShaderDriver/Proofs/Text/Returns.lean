import Mathlib.Data.List.Basic
import ShaderDriver.Proofs.Text.Numerals
import ShaderDriver.Proofs.Text.Replacement
import ShaderDriver.Text.Utf8

namespace ShaderDriver.Text

/-- Every LF becomes CR LF. -/
def crlf (cs : List Char) : List Char := cs.flatMap fun c => if c = '\n' then ['\r', '\n'] else [c]

section Growth

variable {c : Char} {cs before after : List Char}

@[simp] theorem crlf_nil : crlf [] = [] := rfl

@[simp] theorem crlf_feed (cs : List Char) : crlf ('\n' :: cs) = '\r' :: '\n' :: crlf cs := rfl

theorem crlf_cons (plain : c ≠ '\n') (cs : List Char) : crlf (c :: cs) = c :: crlf cs := by
  rw [crlf, List.flatMap_cons, if_neg plain, List.singleton_append, crlf]

@[simp] theorem crlf_append (before after : List Char) :
    crlf (before ++ after) = crlf before ++ crlf after := List.flatMap_append

theorem crlf_flatten (pieces : List (List Char)) : crlf pieces.flatten = (pieces.map crlf).flatten := by
  induction pieces with
  | nil => rfl
  | cons piece pieces ih => rw [List.flatten_cons, crlf_append, ih, List.map_cons, List.flatten_cons]

theorem crlf_of_not_mem (feedless : '\n' ∉ cs) : crlf cs = cs := by
  induction cs with
  | nil => rfl
  | cons c cs ih =>
    obtain ⟨first, others⟩ := not_or.1 (mt List.mem_cons.2 feedless)
    rw [crlf_cons (Ne.symm first), ih others]

theorem feed_mem_crlf (member : '\n' ∈ cs) : '\n' ∈ crlf cs :=
  List.mem_flatMap.2 ⟨'\n', member, by simp⟩

theorem isEmpty_crlf (cs : List Char) : (crlf cs).isEmpty = cs.isEmpty := by
  cases cs with
  | nil => rfl
  | cons c cs =>
    by_cases feed : c = '\n'
    · rw [feed, crlf_feed]
      rfl
    · rw [crlf_cons feed]
      rfl

/-- Nothing is put behind the last character. -/
theorem getLast?_crlf (cs : List Char) : (crlf cs).getLast? = cs.getLast? := by
  rcases List.eq_nil_or_concat cs with rfl | ⟨front, last, rfl⟩
  · rfl
  · rw [List.concat_eq_append, crlf_append]
    by_cases feed : last = '\n'
    · rw [feed, crlf_feed, crlf_nil]
      simp
    · rw [crlf_cons feed, crlf_nil]
      simp

theorem all_crlf (p : Char → Bool) (kept : p '\n' = true → p '\r' = true) (cs : List Char) :
    (crlf cs).all p = cs.all p := by
  rw [crlf, List.all_flatMap]
  refine congrArg cs.all (funext fun c => ?_)
  split
  · next feed =>
    subst feed
    cases ended : p '\n' with
    | false => simp [ended]
    | true => simp [ended, kept ended]
  · simp

theorem size_crlf (cs : List Char) : Utf8.size (crlf cs) = Utf8.size cs + cs.count '\n' := by
  induction cs with
  | nil => rfl
  | cons c cs ih =>
    by_cases feed : c = '\n'
    · subst feed
      have one : ('\r' : Char).utf8Size = 1 := by decide
      rw [crlf_feed, List.count_cons_self]
      simp only [Utf8.size, List.foldr_cons] at ih ⊢
      omega
    · rw [crlf_cons feed, List.count_cons_of_ne feed]
      simp only [Utf8.size, List.foldr_cons] at ih ⊢
      omega

end Growth

section Searching

variable {pat : List Char} {sep : Char}

theorem strip?_crlf (flat : ∀ c ∈ pat, c ≠ '\n' ∧ c ≠ '\r') (cs : List Char) :
    strip? pat (crlf cs) = (strip? pat cs).map crlf := by
  induction pat generalizing cs with
  | nil => rfl
  | cons p pat ih =>
    obtain ⟨⟨feed, carriage⟩, others⟩ := List.forall_mem_cons.1 flat
    cases cs with
    | nil => rfl
    | cons c cs =>
      by_cases ended : c = '\n'
      · subst ended
        rw [crlf_feed, strip?, strip?, if_neg carriage, if_neg feed, Option.map_none]
      · rw [crlf_cons ended, strip?, strip?]
        split
        · exact ih others cs
        · rfl

theorem splitFirst_crlf (flat : ∀ c ∈ pat, c ≠ '\n' ∧ c ≠ '\r') (nonempty : pat ≠ []) (cs : List Char) :
    splitFirst pat (crlf cs) =
      (splitFirst pat cs).map fun parts => (crlf parts.1, crlf parts.2) := by
  obtain ⟨p, ps, rfl⟩ := List.exists_cons_of_ne_nil nonempty
  obtain ⟨feed, carriage⟩ := flat p List.mem_cons_self
  have absent {c : Char} (other : p ≠ c) (rest : List Char) : ¬ p :: ps <+: c :: rest :=
    fun start => other (List.cons_prefix_cons.1 start).1
  induction cs with
  | nil => rfl
  | cons c cs ih =>
    by_cases ended : c = '\n'
    · subst ended
      rw [crlf_feed, splitFirst_cons (absent carriage _), splitFirst_cons (absent feed _),
        splitFirst_cons (absent feed _), ih]
      cases splitFirst (p :: ps) cs <;> rfl
    · have stripped := strip?_crlf flat (c :: cs)
      rw [crlf_cons ended] at stripped ⊢
      rw [splitFirst, splitFirst, stripped, ih]
      cases strip? (p :: ps) (c :: cs) with
      | some rest => rfl
      | none =>
        cases splitFirst (p :: ps) cs with
        | none => rfl
        | some parts => simp [crlf_cons ended]

theorem splitLast_crlf (flat : sep ≠ '\n' ∧ sep ≠ '\r') (cs : List Char) :
    splitLast sep (crlf cs) = (splitLast sep cs).map fun parts => (crlf parts.1, crlf parts.2) := by
  induction cs with
  | nil => rfl
  | cons c cs ih =>
    by_cases ended : c = '\n'
    · subst ended
      rw [crlf_feed, splitLast, splitLast, splitLast, ih]
      cases splitLast sep cs with
      | none => simp [flat.1.symm, flat.2.symm]
      | some parts => rfl
    · rw [crlf_cons ended, splitLast, splitLast, ih]
      cases splitLast sep cs with
      | none => by_cases same : c = sep <;> simp [same]
      | some parts => simp [crlf_cons ended]

end Searching

end ShaderDriver.Text

namespace ShaderDriver.Numeral

theorem isNumeral_crlf (cs : List Char) : isNumeral (Text.crlf cs) = isNumeral cs := by
  rw [isNumeral, isNumeral, Text.isEmpty_crlf, Text.all_crlf _ (by decide)]

/-- A numeral has no line feed, and what has one is no numeral afterwards either. -/
theorem read?_crlf (cs : List Char) : read? (Text.crlf cs) = read? cs := by
  by_cases numeral : isNumeral cs = true
  · rw [Text.crlf_of_not_mem (not_mem numeral (by decide))]
  · rw [read?, read?, isNumeral_crlf, Bool.eq_false_iff.2 numeral]
    rfl

end ShaderDriver.Numeral
