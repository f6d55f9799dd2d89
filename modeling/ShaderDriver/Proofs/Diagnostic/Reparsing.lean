import ShaderDriver.Proofs.Diagnostic.Pieces
import ShaderDriver.Summary

namespace ShaderDriver.Diagnostic

section Blocks

variable {cs piece : List Char} {pieces : List (List Char)}

/-- No line inside a piece opens a block. -/
theorem CutAt.unbroken (cut : CutAt Opens cs pieces) (member : piece ∈ pieces) : Unbroken piece := by
  rintro before after rfl broken more
  by_contra continues
  rw [Bool.not_eq_true] at continues
  obtain ⟨earlier, later, rfl⟩ := List.append_of_mem member
  have whole : cs = (earlier.flatten ++ before) ++ (after ++ later.flatten) := by
    simp [← cut.joined]
  have opens : Opens (earlier.flatten ++ before) (after ++ later.flatten) := by
    refine opens_iff.2 ⟨((lineBreak_append more _).2 broken).prepend _, ?_, ?_⟩
    · exact List.append_ne_nil_of_left_ne_nil more _
    · rwa [continuesBlock_append more]
  exact not_seam_inside broken.ne_nil more ((cut.seam_iff _ _ whole).2 opens)

/-- Every piece but the first opens a block. -/
theorem CutAt.opening (cut : CutAt Opens cs pieces) (member : piece ∈ pieces.tail) :
    continuesBlock piece = false := by
  obtain ⟨first, pieces, rfl⟩ := List.exists_cons_of_ne_nil (List.ne_nil_of_mem (List.mem_of_mem_tail member))
  obtain ⟨earlier, later, rfl⟩ := List.append_of_mem member
  have some : piece ≠ [] := by
    rintro rfl
    exact cut.nonempty (by simp)
  have whole : cs = (first :: earlier).flatten ++ (piece ++ later.flatten) := by
    simp [← cut.joined]
  have opens := (cut.seam_iff _ _ whole).1 ⟨first :: earlier, piece :: later, by simp, by simp, rfl, rfl⟩
  have opening := (opens_iff.1 opens).2.2
  rwa [continuesBlock_append some] at opening

/-- What is read as a block is so read again when it stands alone. -/
theorem isBlock_of_mem {block : List Char} (member : block ∈ blocks cs) : IsBlock block := by
  rw [blocks_eq] at member
  obtain ⟨piece, listed, rfl⟩ := List.mem_map.1 member
  obtain ⟨among, visible⟩ := List.mem_filter.1 listed
  have trimmed := trimEnd_trimmed piece
  have unbroken := (cutAt_gather cs).unbroken among
  refine ⟨?_, trimmed.ended, ?_⟩
  · simpa [isVisible] using trimmed.isVisible_eq.trans visible
  · obtain ⟨ending, joined, _⟩ := trimmed.joined
    rw [joined] at unbroken
    exact unbroken.front

/-- Every block but the first opens one wherever it stands. -/
theorem opening_of_mem_tail {block : List Char} (member : block ∈ (blocks cs).tail) :
    continuesBlock block = false := by
  rw [blocks_eq, ← List.map_tail] at member
  obtain ⟨piece, listed, rfl⟩ := List.mem_map.1 member
  have among := List.filter_sublist.tail.mem listed
  have visible := (List.mem_filter.1 (List.mem_of_mem_tail listed)).2
  have trimmed := trimEnd_trimmed piece
  have some : Text.trimEnd isLineEnd piece ≠ [] := by
    intro empty
    rw [← trimmed.isVisible_eq, empty] at visible
    cases visible
  obtain ⟨ending, joined, _⟩ := trimmed.joined
  have same : continuesBlock (Text.trimEnd isLineEnd piece ++ ending) = _ := continuesBlock_append some
  rw [← joined] at same
  exact same.symm.trans ((cutAt_gather cs).opening among)

/-- Blocks with a line end between each two of them are cut apart again. -/
theorem blocks_joined (terminator : Terminator) {list : List (List Char)}
    (each : ∀ block ∈ list, IsBlock block) (opening : ∀ block ∈ list.tail, continuesBlock block = false) :
    blocks (terminator.text.intercalate list) = list := by
  induction list with
  | nil => exact blocks_terminators []
  | cons block list ih =>
    have first := each block List.mem_cons_self
    have others := fun block member => each block (List.mem_cons_of_mem _ member)
    cases list with
    | nil => rw [List.intercalate_singleton, first.blocks]
    | cons next list =>
      have rest := ih others fun block member => opening block (List.mem_of_mem_tail member)
      obtain ⟨tail, joined⟩ : ∃ tail, terminator.text.intercalate (next :: list) = next ++ tail := by
        cases list with
        | nil => exact ⟨[], by rw [List.intercalate_singleton, List.append_nil]⟩
        | cons later list => exact ⟨_, (List.intercalate_cons_cons ..).trans (List.append_assoc ..)⟩
      have start : continuesBlock (terminator.text.intercalate (next :: list)) = false := by
        rw [joined, continuesBlock_append (others next List.mem_cons_self).ne_nil]
        exact opening next List.mem_cons_self
      rw [List.intercalate_cons_cons, blocks_append (.inr (terminator.lineBreak block _)) start, rest,
        first.blocks_terminated, List.singleton_append]

end Blocks

/-- Outputs are read one after the other if the second one starts where a block may open, and their
errors and warnings add up. -/
theorem parse_append {first second : String}
    (seam : first = "" ∨ LineBreak first.toList second.toList)
    (opening : second.toList.head? ≠ some ' ' ∧ second.toList.head? ≠ some '\t') :
    parse (first ++ second) = parse first ++ parse second ∧
      ∀ whole one other : Summary, whole.messages = parse (first ++ second) →
        one.messages = parse first → other.messages = parse second →
          whole.errorCount = one.errorCount + other.errorCount ∧
            whole.warningCount = one.warningCount + other.warningCount := by
  have seam' : first.toList = [] ∨ LineBreak first.toList second.toList :=
    seam.imp_left fun empty => by rw [empty]; rfl
  have joined : parse (first ++ second) = parse first ++ parse second := by
    simp only [parse, String.toList_append, blocks_append seam' (continuesBlock_eq_false_iff.2 opening),
      List.map_append]
  refine ⟨joined, fun whole one other whole_eq one_eq other_eq => ?_⟩
  simp only [Summary.errorCount, Summary.warningCount, whole_eq, one_eq, other_eq, joined,
    List.countP_append, and_self]

theorem parse_append_lone_return :
    let first := "a.hlsl:1:2: error: x\r\n  ^\r"
    let second := "warning: y"
    let summary (output : String) : Summary := ⟨some 1, [], parse output⟩
    (first = "" ∨ LineBreak first.toList second.toList) ∧
      (second.toList.head? ≠ some ' ' ∧ second.toList.head? ≠ some '\t') ∧
      parse (first ++ second) = parse first ++ parse second ∧
      (summary (first ++ second)).errorCount = (summary first).errorCount + (summary second).errorCount ∧
      (summary (first ++ second)).warningCount =
        (summary first).warningCount + (summary second).warningCount := by
  intro first second summary
  have seam : LineBreak first.toList second.toList := .inr ⟨by decide +kernel, by decide +kernel⟩
  have opening : second.toList.head? ≠ some ' ' ∧ second.toList.head? ≠ some '\t' := by decide +kernel
  obtain ⟨joined, counts⟩ := parse_append (.inr seam) opening
  exact ⟨.inr seam, opening, joined, counts (summary _) (summary _) (summary _) rfl rfl rfl⟩

/-- Messages as an output of their own, one below the other. -/
def rejoined (messages : List Message) : String := "\n".intercalate (messages.map Message.text)

/-- An output without all that is between its messages. -/
def normalized (output : String) : String := rejoined (parse output)

theorem rejoined_toList (messages : List Message) :
    (rejoined messages).toList = Terminator.feed.text.intercalate (messages.map fun m => m.text.toList) := by
  rw [rejoined, String.toList_intercalate, List.map_map]
  rfl

/-- Some of the messages of an output are read again from their own texts. -/
theorem parse_rejoined {output : String} {kept : List Message} (listed : kept.Sublist (parse output)) :
    parse (rejoined kept) = kept := by
  obtain ⟨list, among, rfl⟩ := List.sublist_map_iff.1 listed
  rw [parse, rejoined_toList, texts_readBlock, blocks_joined .feed]
  · exact fun block member => isBlock_of_mem (among.mem member)
  · exact fun block member => opening_of_mem_tail (among.tail.mem member)

/-- Reading again changes nothing: not for some of the messages written one below the other, not for one
message alone, and not for a normalized output. -/
theorem reading_stable (output : String) :
    (∀ kept, kept.Sublist (parse output) → parse (rejoined kept) = kept) ∧
      (∀ m ∈ parse output, parse m.text = [m]) ∧
      normalized (normalized output) = normalized output := by
  refine ⟨fun kept listed => parse_rejoined listed, fun m member => ?_, ?_⟩
  · have alone := parse_rejoined (List.singleton_sublist.2 member)
    rwa [rejoined, List.map_singleton, String.intercalate_singleton] at alone
  · rw [normalized, normalized, parse_rejoined (List.Sublist.refl _)]

theorem reading_stable_skipping :
    let output := "  stray\nerror: x\r\r\n y\n\nb.hlsl:2:1: warning: z\n"
    let kept := (parse output).eraseIdx 1
    kept.Sublist (parse output) ∧ kept.map Message.text = ["  stray", "\r\n y", "b.hlsl:2:1: warning: z"] ∧
      parse (rejoined kept) = kept :=
  have listed := List.eraseIdx_sublist (parse "  stray\nerror: x\r\r\n y\n\nb.hlsl:2:1: warning: z\n") 1
  ⟨listed, by decide +kernel, (reading_stable _).1 _ listed⟩

end ShaderDriver.Diagnostic
