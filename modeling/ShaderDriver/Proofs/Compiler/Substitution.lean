import ShaderDriver.Compiler.State
import ShaderDriver.Proofs.Text.Replacement

namespace ShaderDriver

namespace Text

/-- Behind the piece `pat` stands for the first time: in the two together it is at the end only. -/
def EndsAtFirst (pat piece : List Char) : Prop :=
  ∀ before after, piece ++ pat = before ++ pat ++ after → after = []

/-- The pieces of a text around occurrences of `pat`, each of which is the first one behind the one
before, and all that are there. -/
structure Parted (pat cs : List Char) (pieces : List (List Char)) : Prop where
  joined : pat.intercalate pieces = cs
  nonempty : pieces ≠ []
  earlier : ∀ piece ∈ pieces.dropLast, EndsAtFirst pat piece
  last : ∀ piece ∈ pieces.getLast?, ¬ pat <:+: piece

section Parting

variable {pat new cs piece next : List Char} {pieces others : List (List Char)}

theorem EndsAtFirst.firstAt (first : EndsAtFirst pat piece) (rest : List Char) :
    FirstAt pat (piece ++ pat ++ rest) piece rest where
  joined := rfl
  earliest := by
    intro before after same
    by_contra shorter
    -- An occurrence that starts inside the piece ends inside the piece and `pat`.
    have inside : before ++ pat <+: piece ++ pat := by
      have whole : before ++ pat <+: piece ++ pat ++ rest := ⟨after, same.symm⟩
      exact List.prefix_of_prefix_length_le whole (List.prefix_append _ _) (by simp; omega)
    obtain ⟨tail, split⟩ := inside
    obtain rfl := first before tail split.symm
    have length := congrArg List.length split
    simp only [List.length_append, List.length_nil] at length
    omega

theorem FirstAt.endsAtFirst {rest : List Char} (found : FirstAt pat cs piece rest) :
    EndsAtFirst pat piece := by
  intro before after same
  have bound := found.earliest before (after ++ rest) (by
    rw [found.joined, same, List.append_assoc])
  have length := congrArg List.length same
  simp only [List.length_append] at length
  exact List.length_eq_zero_iff.1 (by omega)

theorem parted_singleton : Parted pat cs [piece] ↔ piece = cs ∧ ¬ pat <:+: cs := by
  constructor
  · intro parted
    have joined := parted.joined
    rw [List.intercalate_singleton] at joined
    exact ⟨joined, joined ▸ parted.last piece rfl⟩
  · rintro ⟨rfl, absent⟩
    refine ⟨List.intercalate_singleton, List.cons_ne_nil _ _, nofun, ?_⟩
    rintro _ ⟨⟩
    exact absent

theorem parted_cons_cons : Parted pat cs (piece :: next :: pieces) ↔
    ∃ rest, FirstAt pat cs piece rest ∧ Parted pat rest (next :: pieces) := by
  constructor
  · intro parted
    have joined := parted.joined
    rw [List.intercalate_cons_cons] at joined
    have first := parted.earlier piece List.mem_cons_self
    exact ⟨_, joined ▸ first.firstAt _, rfl, List.cons_ne_nil _ _,
      fun other member => parted.earlier other (List.mem_cons_of_mem _ member), parted.last⟩
  · rintro ⟨rest, found, parted⟩
    refine ⟨?_, List.cons_ne_nil _ _, ?_, parted.last⟩
    · rw [List.intercalate_cons_cons, parted.joined, found.joined]
    · intro other member
      rcases List.mem_cons.1 member with rfl | member
      · exact found.endsAtFirst
      · exact parted.earlier other member

/-- A text falls into pieces in one way. -/
theorem Parted.unique (one : Parted pat cs pieces) (two : Parted pat cs others) : pieces = others := by
  induction pieces generalizing cs others with
  | nil => exact absurd rfl one.nonempty
  | cons piece pieces ih =>
    obtain ⟨other, others, rfl⟩ := List.exists_cons_of_ne_nil two.nonempty
    cases pieces with
    | nil =>
      obtain ⟨rfl, absent⟩ := parted_singleton.1 one
      cases others with
      | nil => rw [(parted_singleton.1 two).1]
      | cons next others =>
        obtain ⟨rest, found, -⟩ := parted_cons_cons.1 two
        exact absurd found.isInfix absent
    | cons after pieces =>
      obtain ⟨rest, found, behind⟩ := parted_cons_cons.1 one
      cases others with
      | nil => exact absurd found.isInfix (parted_singleton.1 two).2
      | cons next others =>
        obtain ⟨rest', found', behind'⟩ := parted_cons_cons.1 two
        obtain ⟨rfl, rfl⟩ := found.unique found'
        rw [ih behind behind']

theorem exists_parted (nonempty : pat ≠ []) (cs : List Char) : ∃ pieces, Parted pat cs pieces := by
  -- The rest behind an occurrence is shorter, so the induction is on the length.
  induction length : cs.length using Nat.strongRecOn generalizing cs with
  | ind n ih =>
    cases split : splitFirst pat cs with
    | none => exact ⟨[cs], parted_singleton.2 ⟨rfl, splitFirst_eq_none_iff.1 split⟩⟩
    | some parts =>
      have shorter := splitFirst_shorter nonempty split
      obtain ⟨pieces, behind⟩ := ih parts.2.length (length ▸ shorter) parts.2 rfl
      obtain ⟨next, pieces, rfl⟩ := List.exists_cons_of_ne_nil behind.nonempty
      exact ⟨_, parted_cons_cons.2 ⟨parts.2, splitFirst_eq_some_iff.1 split, behind⟩⟩

theorem Parted.replaceAll_eq (nonempty : pat ≠ []) (parted : Parted pat cs pieces) (new : List Char) :
    replaceAll pat new cs = new.intercalate pieces := by
  induction pieces generalizing cs with
  | nil => exact absurd rfl parted.nonempty
  | cons piece pieces ih =>
    cases pieces with
    | nil =>
      obtain ⟨rfl, absent⟩ := parted_singleton.1 parted
      rw [replaceAll_of_absent absent, List.intercalate_singleton]
    | cons next pieces =>
      obtain ⟨rest, found, behind⟩ := parted_cons_cons.1 parted
      rw [replaceAll_of_split nonempty (splitFirst_eq_some_iff.2 found), ih behind,
        List.intercalate_cons_cons]

theorem length_intercalate (piece : List Char) (pieces : List (List Char)) :
    (new.intercalate (piece :: pieces)).length =
      (piece :: pieces).flatten.length + pieces.length * new.length := by
  induction pieces generalizing piece with
  | nil => simp
  | cons next pieces ih =>
    have whole : (piece :: next :: pieces).flatten = piece ++ (next :: pieces).flatten := List.flatten_cons
    rw [List.intercalate_cons_cons, List.length_append, List.length_append, ih, whole, List.length_append,
      List.length_cons, Nat.succ_mul]
    omega

/-- Where two pieces meet, the text between them can be told from the whole. -/
theorem intercalate_inj {one two : List Char} :
    one.intercalate (piece :: next :: pieces) = two.intercalate (piece :: next :: pieces) ↔ one = two := by
  constructor
  · intro same
    have lengths := congrArg List.length same
    rw [length_intercalate, length_intercalate, Nat.add_left_cancel_iff] at lengths
    have length := Nat.eq_of_mul_eq_mul_left (Nat.succ_pos _) lengths
    rw [List.intercalate_cons_cons, List.intercalate_cons_cons, List.append_assoc, List.append_assoc] at same
    exact (List.append_inj (List.append_cancel_left same) length).1
  · rintro rfl
    rfl

/-- An occurrence behind `before` has a place in common with the name that stands behind `front`; a name
without characters lies inside it. -/
structure Overlaps (pat before new front : List Char) : Prop where
  starts : before.length < front.length + new.length
  ends : front.length < before.length + pat.length

/-- In the replaced text the old name stands only where it overlaps a new one. -/
theorem Parted.overlaps (nonempty : pat ≠ []) (parted : Parted pat cs pieces) {before after : List Char}
    (found : new.intercalate pieces = before ++ pat ++ after) :
    ∃ earlier later, earlier ≠ [] ∧ later ≠ [] ∧ pieces = earlier ++ later ∧
      Overlaps pat before new (new.intercalate earlier) := by
  induction pieces generalizing cs before with
  | nil => exact absurd rfl parted.nonempty
  | cons piece pieces ih =>
    cases pieces with
    | nil =>
      obtain ⟨rfl, absent⟩ := parted_singleton.1 parted
      rw [List.intercalate_singleton] at found
      exact absurd ⟨before, after, found.symm⟩ absent
    | cons next pieces =>
      obtain ⟨rest, first, behind⟩ := parted_cons_cons.1 parted
      rw [List.intercalate_cons_cons] at found
      by_cases inPiece : before.length + pat.length ≤ piece.length
      · -- It would lie in the piece, where there is none.
        have inside : before ++ pat <+: piece := by
          have whole : before ++ pat <+: piece ++ new ++ new.intercalate (next :: pieces) :=
            ⟨after, found.symm⟩
          have front : piece <+: piece ++ new ++ new.intercalate (next :: pieces) := by
            rw [List.append_assoc]
            exact List.prefix_append _ _
          exact List.prefix_of_prefix_length_le whole front (by simpa using inPiece)
        obtain ⟨tail, split⟩ := inside
        exact absurd ⟨before, tail, split⟩ (first.absent nonempty)
      · by_cases inRest : piece.length + new.length ≤ before.length
        · have front : piece ++ new <+: before := by
            have whole : before <+: piece ++ new ++ new.intercalate (next :: pieces) := by
              rw [found, List.append_assoc]
              exact List.prefix_append _ _
            exact List.prefix_of_prefix_length_le (List.prefix_append _ _) whole (by simpa using inRest)
          obtain ⟨before, rfl⟩ := front
          rw [List.append_assoc, List.append_assoc, List.append_assoc, List.append_assoc,
            List.append_cancel_left_eq, List.append_cancel_left_eq, ← List.append_assoc] at found
          obtain ⟨earlier, later, some, more, split, starts, ends⟩ := ih behind found
          have grown : (new.intercalate (piece :: earlier)).length =
              (piece ++ new).length + (new.intercalate earlier).length := by
            rw [List.intercalate_cons_of_ne_nil some, List.length_append]
          refine ⟨piece :: earlier, later, List.cons_ne_nil _ _, more, by rw [split]; rfl, ?_, ?_⟩
          · simp only [grown, List.length_append]
            omega
          · simp only [grown, List.length_append]
            omega
        · refine ⟨[piece], next :: pieces, List.cons_ne_nil _ _, List.cons_ne_nil _ _, rfl, ?_, ?_⟩
          · rw [List.intercalate_singleton]
            omega
          · rw [List.intercalate_singleton]
            omega

end Parting

end Text

namespace CompilerState

/-- The path of a source is replaced in an output piece by piece. There is one way to cut the output where
the path stands, found from left to right; the result has the name between the same pieces, is the output
itself only if there is nothing to cut or the name is the path, and holds the path only where it overlaps
a name. An empty path changes nothing. -/
theorem substituteName_parted (output staged name : String) :
    (staged = "" → substituteName output staged name = output) ∧
    (staged ≠ "" → ∃ pieces,
      (∀ other, Text.Parted staged.toList output.toList other ↔ other = pieces) ∧
      substituteName output staged name = String.ofList (name.toList.intercalate pieces) ∧
      (substituteName output staged name = output ↔ pieces.length = 1 ∨ name = staged) ∧
      ∀ before after, (substituteName output staged name).toList = before ++ staged.toList ++ after →
        ∃ earlier later, earlier ≠ [] ∧ later ≠ [] ∧ pieces = earlier ++ later ∧
          Text.Overlaps staged.toList before name.toList (name.toList.intercalate earlier)) := by
  constructor
  · rintro rfl
    have empty : "".toList = [] := rfl
    rw [substituteName, empty, Text.replaceAll, dif_pos rfl, String.ofList_toList]
  · intro some
    have nonempty : staged.toList ≠ [] := mt String.toList_eq_nil_iff.1 some
    obtain ⟨pieces, parted⟩ := Text.exists_parted nonempty output.toList
    have replaced : substituteName output staged name = String.ofList (name.toList.intercalate pieces) := by
      rw [substituteName, parted.replaceAll_eq nonempty]
    refine ⟨pieces, fun other => ?_, replaced, ?_, fun before after found => ?_⟩
    · constructor
      · exact fun parted' => parted'.unique parted
      · rintro rfl
        exact parted
    · have unchanged : substituteName output staged name = output ↔
          name.toList.intercalate pieces = staged.toList.intercalate pieces := by
        rw [replaced, parted.joined, ← String.toList_inj, String.toList_ofList]
      obtain ⟨piece, pieces, rfl⟩ := List.exists_cons_of_ne_nil parted.nonempty
      rw [unchanged]
      cases pieces with
      | nil => simp
      | cons next pieces => rw [Text.intercalate_inj, String.toList_inj]; simp
    · rw [replaced, String.toList_ofList] at found
      exact parted.overlaps nonempty found

theorem substituteName_parted_overlapping :
    "aba" ≠ "" ∧ substituteName "ababab!" "aba" "ba" = "babab!" ∧
      ∃ pieces, Text.Parted "aba".toList "ababab!".toList pieces ∧ pieces.length ≠ 1 ∧
        ∃ earlier, Text.Overlaps "aba".toList ['b'] "ba".toList ("ba".toList.intercalate earlier) := by
  have some : "aba" ≠ "" := by decide
  have result : substituteName "ababab!" "aba" "ba" = "babab!" := by decide +kernel
  obtain ⟨pieces, parted, -, unchanged, overlaps⟩ := (substituteName_parted "ababab!" "aba" "ba").2 some
  obtain ⟨earlier, -, -, -, -, overlap⟩ := overlaps ['b'] ['b', '!'] (by rw [result]; rfl)
  refine ⟨some, result, pieces, (parted pieces).2 rfl, fun single => ?_, earlier, overlap⟩
  have same := unchanged.2 (.inl single)
  rw [result] at same
  exact absurd same (by decide)

end CompilerState

end ShaderDriver
