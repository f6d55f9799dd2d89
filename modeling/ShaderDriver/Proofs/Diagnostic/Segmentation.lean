import Mathlib.Data.List.DropRight
import ShaderDriver.Diagnostic.Segment

namespace ShaderDriver.Diagnostic

/-- A line ends between the two texts: behind LF, or behind CR if no LF follows. -/
def LineBreak (before after : List Char) : Prop :=
  before.getLast? = some '\n' ∨ before.getLast? = some '\r' ∧ after.head? ≠ some '\n'

theorem LineBreak.ne_nil {before after : List Char} (broken : LineBreak before after) : before ≠ [] := by
  rintro rfl
  rcases broken with feed | ⟨carriage, _⟩
  · cases feed
  · cases carriage

theorem LineBreak.getLast?_isLineEnd {before after : List Char} (broken : LineBreak before after) :
    ∃ c, before.getLast? = some c ∧ isLineEnd c = true := by
  rcases broken with feed | ⟨carriage, _⟩
  · exact ⟨'\n', feed, rfl⟩
  · exact ⟨'\r', carriage, rfl⟩

theorem LineBreak.cons {before after : List Char} (nonempty : before ≠ []) (c : Char) :
    LineBreak (c :: before) after ↔ LineBreak before after := by
  simp only [LineBreak, List.getLast?_cons_of_ne_nil nonempty]

theorem LineBreak.prepend {before after : List Char} (broken : LineBreak before after)
    (front : List Char) : LineBreak (front ++ before) after := by
  simpa only [LineBreak, List.getLast?_append_of_ne_nil front broken.ne_nil] using broken

/-- Whether a line ends is seen from the first character behind it. -/
theorem lineBreak_append {before after : List Char} (more : after ≠ []) (rest : List Char) :
    LineBreak before (after ++ rest) ↔ LineBreak before after := by
  simp only [LineBreak, List.head?_append_of_ne_nil after more]

/-- What is left behind the first character of a text that ends with a line. -/
theorem LineBreak.tail {c : Char} {cs after : List Char} (broken : LineBreak (c :: cs) after) :
    cs = [] ∨ LineBreak cs after := by
  by_cases empty : cs = []
  · exact Or.inl empty
  · exact Or.inr ((LineBreak.cons empty c).1 broken)

@[simp] theorem lines_eq_nil_iff {cs : List Char} : lines cs = [] ↔ cs = [] := by
  fun_cases lines cs <;> simp_all

theorem lines_of_isLineEnd {c : Char} {cs : List Char} (ended : c = '\r' ∨ c = '\n')
    (single : c = '\r' → cs.head? ≠ some '\n') : lines (c :: cs) = [c] :: lines cs := by
  rw [lines, if_pos ended]
  rintro rest rfl rfl
  exact single rfl rfl

theorem lines_of_plain {c : Char} {cs : List Char} (plain : ¬ (c = '\r' ∨ c = '\n')) :
    lines (c :: cs) = (c :: (lines cs).headD []) :: (lines cs).tail := by
  rw [lines, if_neg plain]
  · cases lines cs <;> rfl
  · rintro rest rfl rfl
    exact plain (Or.inl rfl)

/-- The lines of a text are those of its parts if a line ends at the seam. -/
theorem lines_append {before after : List Char} (broken : before = [] ∨ LineBreak before after) :
    lines (before ++ after) = lines before ++ lines after := by
  fun_induction lines before with
  | case1 => rfl
  | case2 cs ih =>
    have broken := broken.resolve_left (by simp)
    have rest : cs = [] ∨ LineBreak cs after := by
      rcases broken.tail with empty | inner
      · cases empty
      · exact inner.tail
    simp only [List.cons_append, lines, ih rest]
  | case3 c cs notPair ended ih =>
    have broken := broken.resolve_left (by simp)
    have single : c = '\r' → (cs ++ after).head? ≠ some '\n' := by
      rintro rfl
      cases cs with
      | nil =>
        rcases broken with feed | ⟨_, free⟩
        · cases feed
        · exact free
      | cons d cs =>
        intro feed
        cases Option.some.inj feed
        exact notPair cs rfl rfl
    rw [List.cons_append, lines_of_isLineEnd ended single, ih broken.tail, List.cons_append]
  | case4 c cs notPair notEnded none ih =>
    have broken := broken.resolve_left (by simp)
    obtain rfl := lines_eq_nil_iff.1 none
    rcases broken with feed | ⟨carriage, _⟩
    · exact absurd (Or.inr (Option.some.inj feed)) notEnded
    · exact absurd (Or.inl (Option.some.inj carriage)) notEnded
  | case5 c cs notPair notEnded line rest some ih =>
    have broken := broken.resolve_left (by simp)
    rw [List.cons_append, lines_of_plain notEnded, ih broken.tail, some]
    rfl

/-- The first line of a text, and the text behind it. -/
theorem lines_cons {cs line : List Char} {rest : List (List Char)} (cut : lines cs = line :: rest) :
    ∃ tail, cs = line ++ tail ∧ lines tail = rest ∧ line ≠ [] ∧ (tail ≠ [] → LineBreak line tail) := by
  fun_induction lines cs generalizing line rest with
  | case1 => cases cut
  | case2 cs ih =>
    cases cut
    exact ⟨cs, rfl, rfl, by simp, fun _ => Or.inl rfl⟩
  | case3 c cs notPair ended ih =>
    cases cut
    refine ⟨cs, rfl, rfl, by simp, fun _ => ?_⟩
    rcases ended with rfl | rfl
    · refine Or.inr ⟨rfl, fun feed => ?_⟩
      cases cs with
      | nil => cases feed
      | cons d cs =>
        cases Option.some.inj feed
        exact notPair cs rfl rfl
    · exact Or.inl rfl
  | case4 c cs notPair notEnded none ih =>
    cases cut
    obtain rfl := lines_eq_nil_iff.1 none
    exact ⟨[], rfl, rfl, by simp, by simp⟩
  | case5 c cs notPair notEnded first others some ih =>
    cases cut
    obtain ⟨tail, joined, same, nonempty, broken⟩ := ih some
    refine ⟨tail, by rw [joined]; rfl, same, by simp, fun more => ?_⟩
    exact (LineBreak.cons nonempty c).2 (broken more)

/-- Blocks are gathered piece by piece if the second piece opens a block. -/
theorem gather_append (above : List (List Char)) {below : List (List Char)}
    (opening : ∀ line ∈ below.head?, continuesBlock line = false) :
    gather (above ++ below) = gather above ++ gather below := by
  fun_induction gather above with
  | case1 => rfl
  | case2 line rest ih =>
    have taken : (rest ++ below).takeWhile continuesBlock = rest.takeWhile continuesBlock := by
      cases below with
      | nil => simp
      | cons first others =>
        have opens := opening first (by simp)
        simp [List.takeWhile_append, opens]
        intro whole
        exact ((List.takeWhile_prefix continuesBlock).eq_of_length whole).symm
    have dropped : (rest ++ below).dropWhile continuesBlock =
        rest.dropWhile continuesBlock ++ below := by
      cases below with
      | nil => simp
      | cons first others =>
        have opens := opening first (by simp)
        simp [List.dropWhile_append, opens]
    rw [List.cons_append, gather, taken, dropped, ih, List.cons_append]

theorem continuesBlock_append {line tail : List Char} (nonempty : line ≠ []) :
    continuesBlock (line ++ tail) = continuesBlock line := by
  obtain ⟨c, word, rfl⟩ := List.exists_cons_of_ne_nil nonempty
  simp only [List.cons_append]
  unfold continuesBlock
  split <;> split <;> simp_all

/-- A text that is no block's continuation starts with a line that opens a block. -/
theorem lines_head_opening {cs : List Char} (opening : continuesBlock cs = false) :
    ∀ line ∈ (lines cs).head?, continuesBlock line = false := by
  intro line first
  cases cut : lines cs with
  | nil => simp [cut] at first
  | cons head rest =>
    obtain ⟨tail, rfl, _, nonempty, _⟩ := lines_cons cut
    simp only [cut, List.head?_cons, Option.mem_def, Option.some.injEq] at first
    subst first
    rwa [continuesBlock_append nonempty] at opening

/-- A text can be cut into blocks at every line that opens one. -/
theorem blocks_append {before after : List Char} (broken : before = [] ∨ LineBreak before after)
    (opening : continuesBlock after = false) : blocks (before ++ after) = blocks before ++ blocks after := by
  simp only [blocks, lines_append broken, gather_append _ (lines_head_opening opening), List.map_append,
    List.filter_append]

/-- Every line of a text but the first continues its block. -/
def Unbroken (cs : List Char) : Prop :=
  ∀ before after, cs = before ++ after → LineBreak before after → after ≠ [] → continuesBlock after = true

theorem Unbroken.of_append {front cs : List Char} (unbroken : Unbroken (front ++ cs)) : Unbroken cs := by
  rintro before after rfl broken more
  exact unbroken (front ++ before) after (List.append_assoc ..).symm (broken.prepend front) more

theorem Unbroken.front {cs back : List Char} (unbroken : Unbroken (cs ++ back)) : Unbroken cs := by
  rintro before after rfl broken more
  have seam := (lineBreak_append more back).2 broken
  have continues := unbroken before (after ++ back) (List.append_assoc ..) seam
    (List.append_ne_nil_of_left_ne_nil more back)
  rwa [continuesBlock_append more] at continues

theorem unbroken_cons {c : Char} {cs : List Char} :
    Unbroken (c :: cs) ↔ (LineBreak [c] cs → cs ≠ [] → continuesBlock cs = true) ∧ Unbroken cs := by
  constructor
  · intro unbroken
    have whole : Unbroken ([c] ++ cs) := unbroken
    exact ⟨unbroken [c] cs rfl, whole.of_append⟩
  · rintro ⟨first, others⟩ before after joined broken more
    obtain ⟨d, rest, rfl⟩ := List.exists_cons_of_ne_nil broken.ne_nil
    simp only [List.cons_append, List.cons.injEq] at joined
    obtain ⟨rfl, rfl⟩ := joined
    by_cases empty : rest = []
    · subst empty
      exact first broken more
    · exact others rest after rfl ((LineBreak.cons empty c).1 broken) more

theorem Unbroken.lines {cs line : List Char} {rest : List (List Char)} (unbroken : Unbroken cs)
    (cut : lines cs = line :: rest) : ∀ below ∈ rest, continuesBlock below = true := by
  induction rest generalizing cs line with
  | nil => simp
  | cons next rest ih =>
    obtain ⟨tail, rfl, cutTail, _, broken⟩ := lines_cons cut
    obtain ⟨tail', rfl, cutTail', nonempty, _⟩ := lines_cons cutTail
    have seam : LineBreak line (next ++ tail') := broken (by simp [nonempty])
    have continues := unbroken line (next ++ tail') rfl seam (by simp [nonempty])
    rw [continuesBlock_append nonempty] at continues
    intro below member
    rcases List.mem_cons.1 member with rfl | member
    · exact continues
    · exact ih unbroken.of_append cutTail below member

theorem unbroken_iff {cs : List Char} :
    Unbroken cs ↔ ∀ below ∈ (lines cs).tail, continuesBlock below = true := by
  constructor
  · intro unbroken
    cases cut : lines cs with
    | nil => simp
    | cons line rest => exact unbroken.lines cut
  · rintro continues before after rfl broken more
    obtain ⟨line, rest, cut⟩ := List.exists_cons_of_ne_nil (mt lines_eq_nil_iff.1 more)
    obtain ⟨tail, rfl, _, nonempty, _⟩ := lines_cons cut
    rw [lines_append (Or.inr broken), cut,
      List.tail_append_of_ne_nil (mt lines_eq_nil_iff.1 broken.ne_nil)] at continues
    rw [continuesBlock_append nonempty]
    exact continues line (List.mem_append_right _ List.mem_cons_self)

instance (cs : List Char) : Decidable (Unbroken cs) := decidable_of_iff _ unbroken_iff.symm

theorem flatten_lines (cs : List Char) : (lines cs).flatten = cs := by
  fun_induction lines cs with
  | case1 => rfl
  | case2 cs ih => simp [ih]
  | case3 c cs notPair ended ih => simp [ih]
  | case4 c cs notPair notEnded none ih => simpa [none] using ih
  | case5 c cs notPair notEnded first others some ih => simpa [some] using ih

/-- An unbroken text is one block, if it is not white space. -/
theorem Unbroken.blocks {cs : List Char} (unbroken : Unbroken cs) :
    blocks cs = [Text.trimEnd isLineEnd cs].filter fun block => !block.all isBlank := by
  cases cut : Diagnostic.lines cs with
  | nil =>
    obtain rfl := lines_eq_nil_iff.1 cut
    simp [Diagnostic.blocks, Diagnostic.lines, gather, Text.trimEnd]
  | cons line rest =>
    have continues := unbroken.lines cut
    have whole := flatten_lines cs
    rw [cut, List.flatten_cons] at whole
    rw [Diagnostic.blocks, cut, gather, List.takeWhile_eq_self_iff.2 continues,
      List.dropWhile_eq_nil_iff.2 continues, whole, gather]
    rfl

theorem Unbroken.prepend {front cs : List Char} (unbroken : Unbroken cs)
    (inline : ∀ c ∈ front, isLineEnd c = false) : Unbroken (front ++ cs) := by
  intro before after joined broken more
  obtain ⟨last, atLast, ended⟩ := broken.getLast?_isLineEnd
  have notInFront : last ∉ front := fun member => by
    rw [inline last member] at ended
    cases ended
  rcases List.append_eq_append_iff.1 joined with ⟨rest, rfl, rfl⟩ | ⟨rest, rfl, rfl⟩
  · by_cases empty : rest = []
    · rw [empty, List.append_nil] at atLast
      exact absurd (List.mem_of_getLast? atLast) notInFront
    · rw [List.getLast?_append_of_ne_nil front empty] at atLast
      refine unbroken rest after rfl ?_ more
      simpa only [LineBreak, List.getLast?_append_of_ne_nil front empty] using broken
  · exact absurd (List.mem_append_left rest (List.mem_of_getLast? atLast)) notInFront

theorem inline_of_not_mem {cs : List Char} (feed : '\n' ∉ cs) (carriage : '\r' ∉ cs) :
    ∀ c ∈ cs, isLineEnd c = false := by
  intro c member
  by_contra ended
  rw [Bool.not_eq_false] at ended
  simp only [isLineEnd, Bool.or_eq_true, beq_iff_eq] at ended
  rcases ended with rfl | rfl
  · exact carriage member
  · exact feed member

/-- How a line may be ended. -/
inductive Terminator where
  | feed
  | carriageFeed
deriving DecidableEq, Repr

namespace Terminator

def text : Terminator → List Char
  | feed => ['\n']
  | carriageFeed => ['\r', '\n']

theorem text_isLineEnd (terminator : Terminator) : ∀ c ∈ terminator.text, isLineEnd c = true := by
  cases terminator <;> simp [text, isLineEnd]

theorem lineBreak (terminator : Terminator) (before after : List Char) :
    LineBreak (before ++ terminator.text) after := by
  cases terminator <;> exact Or.inl (by simp [text])

end Terminator

/-- A line end behind a text that does not end in one breaks nothing. -/
theorem Unbroken.terminated {cs : List Char} (unbroken : Unbroken cs)
    (unended : ∀ c ∈ cs.getLast?, isLineEnd c = false) (terminator : Terminator) :
    Unbroken (cs ++ terminator.text) := by
  intro before after joined broken more
  have notAll : ∀ rest, ¬ LineBreak cs rest := by
    intro rest whole
    obtain ⟨last, atLast, ended⟩ := whole.getLast?_isLineEnd
    rw [unended last atLast] at ended
    cases ended
  rcases List.append_eq_append_iff.1 joined with ⟨rest, rfl, ending⟩ | ⟨rest, rfl, rfl⟩
  · cases rest with
    | nil => exact absurd (by simpa using broken) (notAll after)
    | cons c rest =>
      cases terminator with
      | feed => simp_all [Terminator.text]
      | carriageFeed =>
        simp only [Terminator.text, List.cons_append, List.cons.injEq] at ending
        obtain ⟨rfl, ending⟩ := ending
        cases rest with
        | nil =>
          simp only [List.nil_append] at ending
          subst ending
          rcases broken with feed | ⟨_, free⟩
          · simp at feed
          · simp at free
        | cons d rest => simp_all
  · by_cases empty : rest = []
    · subst empty
      exact absurd (by simpa using broken) (notAll terminator.text)
    · rw [continuesBlock_append empty]
      exact unbroken before rest rfl ((lineBreak_append empty _).1 broken) empty

/-- Line ends behind a text that does not end in one are trimmed, and no more. -/
theorem trimEnd_append {cs ending : List Char} (unended : ∀ c ∈ cs.getLast?, isLineEnd c = false)
    (ends : ∀ c ∈ ending, isLineEnd c = true) : Text.trimEnd isLineEnd (cs ++ ending) = cs := by
  have ends' : ∀ c ∈ ending.reverse, isLineEnd c = true := fun c member =>
    ends c (List.mem_reverse.1 member)
  rw [Text.trimEnd, List.reverse_append, List.dropWhile_append_of_pos ends']
  refine List.rdropWhile_eq_self_iff.2 fun nonempty => ?_
  rw [unended _ (List.getLast?_eq_some_getLast nonempty)]
  simp

theorem trimEnd_terminated {cs : List Char} (unended : ∀ c ∈ cs.getLast?, isLineEnd c = false)
    (terminator : Terminator) : Text.trimEnd isLineEnd (cs ++ terminator.text) = cs :=
  trimEnd_append unended terminator.text_isLineEnd

/-- A text that stands for a block: it shows something, no line end follows it, and every line of it but
the first continues the one above. -/
structure IsBlock (cs : List Char) : Prop where
  visible : cs.all isBlank = false
  ended : ∀ c ∈ cs.getLast?, isLineEnd c = false
  unbroken : Unbroken cs

theorem IsBlock.ne_nil {cs : List Char} (block : IsBlock cs) : cs ≠ [] := by
  rintro rfl
  cases block.visible

theorem IsBlock.blocks {cs : List Char} (block : IsBlock cs) : blocks cs = [cs] := by
  have trimmed : Text.trimEnd isLineEnd (cs ++ []) = cs := trimEnd_append block.ended (by simp)
  rw [List.append_nil] at trimmed
  rw [block.unbroken.blocks, trimmed]
  simp [block.visible]

theorem IsBlock.blocks_terminated {cs : List Char} (block : IsBlock cs) (terminator : Terminator) :
    Diagnostic.blocks (cs ++ terminator.text) = [cs] := by
  rw [(block.unbroken.terminated block.ended terminator).blocks, trimEnd_terminated block.ended]
  simp [block.visible]

/-- Line ends alone are no block. -/
theorem blocks_terminators (terminators : List Terminator) :
    blocks (terminators.flatMap Terminator.text) = [] := by
  have nothing : Unbroken [] := by
    intro before after joined _ more
    exact absurd (List.append_eq_nil_iff.1 joined.symm).2 more
  induction terminators with
  | nil =>
    rw [List.flatMap_nil, nothing.blocks]
    rfl
  | cons terminator terminators ih =>
    have opening : continuesBlock (terminators.flatMap Terminator.text) = false := by
      rcases terminators with _ | ⟨_ | _, terminators⟩ <;> rfl
    have alone : blocks ([] ++ terminator.text) = [] := by
      rw [(nothing.terminated (by simp) terminator).blocks, trimEnd_terminated (by simp)]
      rfl
    rw [List.flatMap_cons, ← List.nil_append terminator.text,
      blocks_append (Or.inr (terminator.lineBreak [] _)) opening, alone, ih, List.append_nil]

end ShaderDriver.Diagnostic
