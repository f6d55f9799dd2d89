import ShaderDriver.Proofs.Diagnostic.Reading
import ShaderDriver.Proofs.Diagnostic.Segmentation

namespace ShaderDriver.Diagnostic

/-- What precedes some seam of a text that was cut into pieces. -/
def Seam (pieces : List (List Char)) (before : List Char) : Prop :=
  ∃ earlier later, earlier ≠ [] ∧ later ≠ [] ∧ pieces = earlier ++ later ∧ earlier.flatten = before

/-- A text is cut into nonempty pieces, and its seams are exactly the given places. -/
structure CutAt (place : List Char → List Char → Prop) (text : List Char)
    (pieces : List (List Char)) : Prop where
  joined : pieces.flatten = text
  nonempty : [] ∉ pieces
  seam_iff : ∀ before after, text = before ++ after → (Seam pieces before ↔ place before after)

section Seams

variable {piece other before : List Char} {pieces others : List (List Char)}

theorem eq_nil_of_flatten (nonempty : [] ∉ pieces) (empty : pieces.flatten = []) : pieces = [] := by
  refine List.eq_nil_iff_forall_not_mem.2 fun piece member => ?_
  exact nonempty (List.flatten_eq_nil_iff.1 empty piece member ▸ member)

theorem Seam.ne_nil (seam : Seam pieces before) (nonempty : [] ∉ pieces) : before ≠ [] := by
  obtain ⟨earlier, later, some, _, rfl, rfl⟩ := seam
  exact mt (eq_nil_of_flatten (mt (List.mem_append_left later) nonempty)) some

theorem Seam.startsWith (seam : Seam (piece :: pieces) before) : piece <+: before := by
  obtain ⟨earlier, later, some, _, joined, rfl⟩ := seam
  obtain ⟨first, earlier, rfl⟩ := List.exists_cons_of_ne_nil some
  obtain ⟨rfl, rfl⟩ := List.cons.inj joined
  exact ⟨earlier.flatten, List.flatten_cons.symm⟩

theorem seam_first (more : pieces ≠ []) : Seam (piece :: pieces) piece :=
  ⟨[piece], pieces, by simp, more, rfl, by simp⟩

theorem seam_cons_append (some : before ≠ []) :
    Seam (piece :: pieces) (piece ++ before) ↔ Seam pieces before := by
  constructor
  · rintro ⟨earlier, later, start, more, joined, inside⟩
    obtain ⟨first, earlier, rfl⟩ := List.exists_cons_of_ne_nil start
    obtain ⟨rfl, rfl⟩ := List.cons.inj joined
    obtain rfl := List.append_cancel_left (List.flatten_cons.symm.trans inside)
    refine ⟨earlier, later, ?_, more, rfl, rfl⟩
    rintro rfl
    exact some rfl
  · rintro ⟨earlier, later, _, more, rfl, rfl⟩
    exact ⟨piece :: earlier, later, by simp, more, rfl, List.flatten_cons⟩

/-- If the first piece ends where another cut has a seam, or with the text, it holds the first piece of
that cut. -/
theorem first_prefix_of_seam (joined : (piece :: pieces).flatten = (other :: others).flatten)
    (seam : Seam (piece :: pieces) piece → Seam (other :: others) piece) : other <+: piece := by
  by_cases last : pieces = []
  · rw [last, List.flatten_singleton, List.flatten_cons] at joined
    exact ⟨others.flatten, joined.symm⟩
  · exact (seam (seam_first last)).startsWith

/-- A cut is known by the text and its seams. -/
theorem eq_of_seams (nonempty : [] ∉ pieces) (nonempty' : [] ∉ others)
    (joined : pieces.flatten = others.flatten) (same : ∀ before, Seam pieces before ↔ Seam others before) :
    pieces = others := by
  induction pieces generalizing others with
  | nil => exact (eq_nil_of_flatten nonempty' joined.symm).symm
  | cons piece pieces ih =>
    cases others with
    | nil => exact eq_nil_of_flatten nonempty joined
    | cons other others =>
      have inside := first_prefix_of_seam joined (same piece).1
      have around := first_prefix_of_seam joined.symm (same other).2
      obtain rfl : piece = other := around.eq_of_length_le inside.length_le
      have full := mt (List.mem_cons_of_mem piece) nonempty
      have full' := mt (List.mem_cons_of_mem piece) nonempty'
      refine congrArg (piece :: ·) (ih full full' (List.append_cancel_left joined) fun before => ?_)
      by_cases empty : before = []
      · exact iff_of_false (fun seam => seam.ne_nil full empty) (fun seam => seam.ne_nil full' empty)
      · rw [← seam_cons_append empty, same, seam_cons_append empty]

theorem Seam.prefix_flatten (seam : Seam pieces before) : before <+: pieces.flatten := by
  obtain ⟨earlier, later, _, _, rfl, rfl⟩ := seam
  exact ⟨later.flatten, List.flatten_append.symm⟩

theorem CutAt.seam_transfer {place : List Char → List Char → Prop} {text : List Char}
    (one : CutAt place text pieces) (two : CutAt place text others) (seam : Seam pieces before) :
    Seam others before := by
  obtain ⟨after, whole⟩ := seam.prefix_flatten
  have split := one.joined.symm.trans whole.symm
  exact (two.seam_iff before after split).2 ((one.seam_iff before after split).1 seam)

theorem CutAt.unique {place : List Char → List Char → Prop} {text : List Char}
    (one : CutAt place text pieces) (two : CutAt place text others) : pieces = others :=
  eq_of_seams one.nonempty two.nonempty (one.joined.trans two.joined.symm) fun _ =>
    ⟨one.seam_transfer two, two.seam_transfer one⟩

/-- No seam lies inside a piece. -/
theorem not_seam_inside {earlier later : List (List Char)} {front back : List Char} (some : front ≠ [])
    (more : back ≠ []) : ¬ Seam (earlier ++ (front ++ back) :: later) (earlier.flatten ++ front) := by
  induction earlier with
  | nil =>
    intro seam
    have short := seam.startsWith.length_le
    have positive := List.length_pos_iff.2 more
    simp only [List.flatten_nil, List.nil_append, List.length_append] at short
    omega
  | cons piece earlier ih =>
    rw [List.flatten_cons, List.cons_append, List.append_assoc]
    exact mt (seam_cons_append (List.append_ne_nil_of_right_ne_nil _ some)).1 ih

end Seams

section Blocks

theorem continuesBlock_eq_false_iff {cs : List Char} :
    continuesBlock cs = false ↔ cs.head? ≠ some ' ' ∧ cs.head? ≠ some '\t' := by
  cases cs with
  | nil => simp [continuesBlock]
  | cons c cs =>
    unfold continuesBlock
    split <;> simp_all

/-- The place between two texts opens a block: a line starts there, with neither a space nor a tab. -/
structure Opens (before after : List Char) : Prop where
  lineBreak : LineBreak before after
  more : after ≠ []
  opening : after.head? ≠ some ' ' ∧ after.head? ≠ some '\t'

/-- Between the lines of a text a line ends. -/
theorem lineBreak_of_lines {cs : List Char} {above below : List (List Char)}
    (cut : lines cs = above ++ below) (some : above ≠ []) (more : below ≠ []) :
    LineBreak above.flatten below.flatten := by
  induction above generalizing cs with
  | nil => exact absurd rfl some
  | cons line above ih =>
    obtain ⟨tail, rfl, cutTail, _, broken⟩ := lines_cons cut
    by_cases last : above = []
    · subst last
      have rest : lines tail = below := cutTail
      rw [List.flatten_singleton, ← rest, flatten_lines]
      exact broken (mt lines_eq_nil_iff.2 (rest ▸ more))
    · exact (ih cutTail last).prepend line

theorem nil_not_mem_lines (cs : List Char) : [] ∉ lines cs := by
  fun_induction lines cs <;> simp_all

@[simp] theorem flatten_gather (rows : List (List Char)) : (gather rows).flatten = rows.flatten := by
  fun_induction gather rows with
  | case1 => rfl
  | case2 line rest ih =>
    rw [List.flatten_cons, ih, List.append_assoc, ← List.flatten_append, List.takeWhile_append_dropWhile,
      List.flatten_cons]

theorem nil_not_mem_gather {rows : List (List Char)} (nonempty : [] ∉ rows) : [] ∉ gather rows := by
  fun_induction gather rows with
  | case1 => exact List.not_mem_nil
  | case2 line rest ih =>
    obtain ⟨first, others⟩ := not_or.1 (mt List.mem_cons.2 nonempty)
    rw [List.mem_cons, not_or]
    refine ⟨fun empty => first (List.append_eq_nil_iff.1 empty.symm).1.symm, ih fun member => others ?_⟩
    exact (List.dropWhile_sublist continuesBlock).mem member

/-- Blocks that are gathered one behind the other come from lines one behind the other, and the line at
the seam opens a block. -/
theorem gather_eq_append {rows earlier later : List (List Char)} (cut : gather rows = earlier ++ later)
    (some : earlier ≠ []) : ∃ above below, rows = above ++ below ∧ above ≠ [] ∧
      above.flatten = earlier.flatten ∧ below.flatten = later.flatten ∧
      ∀ line ∈ below.head?, continuesBlock line = false := by
  fun_induction gather rows generalizing earlier with
  | case1 => exact absurd (List.append_eq_nil_iff.1 cut.symm).1 some
  | case2 line rest ih =>
    obtain ⟨block, earlier, rfl⟩ := List.exists_cons_of_ne_nil some
    obtain ⟨rfl, others⟩ := List.cons.inj cut
    have apart := List.takeWhile_append_dropWhile (p := continuesBlock) (l := rest)
    by_cases last : earlier = []
    · subst last
      refine ⟨line :: rest.takeWhile continuesBlock, rest.dropWhile continuesBlock, ?_, ?_, ?_, ?_, ?_⟩
      · rw [List.cons_append, apart]
      · simp
      · simp
      · rw [← flatten_gather, others]
        rfl
      · intro first opens
        have stopped := List.head?_dropWhile_not continuesBlock rest
        rw [Option.mem_def.1 opens] at stopped
        simpa using stopped
    · obtain ⟨above, below, split, _, front, back, opening⟩ := ih others last
      refine ⟨line :: rest.takeWhile continuesBlock ++ above, below, ?_, ?_, ?_, back, opening⟩
      · rw [List.append_assoc, ← split, List.cons_append, apart]
      · simp
      · simp [front]

theorem opens_iff {before after : List Char} :
    Opens before after ↔ LineBreak before after ∧ after ≠ [] ∧ continuesBlock after = false :=
  ⟨fun opens => ⟨opens.lineBreak, opens.more, continuesBlock_eq_false_iff.2 opens.opening⟩,
    fun ⟨lineBreak, more, opening⟩ => ⟨lineBreak, more, continuesBlock_eq_false_iff.1 opening⟩⟩

/-- Between the blocks of a text a block opens. -/
theorem opens_of_gather {cs : List Char} {earlier later : List (List Char)}
    (cut : gather (lines cs) = earlier ++ later) (some : earlier ≠ []) (more : later ≠ []) :
    Opens earlier.flatten later.flatten := by
  have full : [] ∉ earlier ++ later := cut ▸ nil_not_mem_gather (nil_not_mem_lines cs)
  have behind := mt (eq_nil_of_flatten (mt (List.mem_append_right earlier) full)) more
  obtain ⟨above, below, split, above_some, front, back, opening⟩ := gather_eq_append cut some
  rw [← back] at behind
  obtain ⟨line, rest, rfl⟩ : ∃ line rest, below = line :: rest :=
    List.exists_cons_of_ne_nil fun empty => behind (by rw [empty, List.flatten_nil])
  have nonempty : line ≠ [] := by
    rintro rfl
    exact nil_not_mem_lines cs (split ▸ List.mem_append_right above List.mem_cons_self)
  have broken := lineBreak_of_lines split above_some (List.cons_ne_nil line rest)
  rw [← front, ← back]
  refine opens_iff.2 ⟨broken, behind, ?_⟩
  rw [List.flatten_cons, continuesBlock_append nonempty]
  exact opening line rfl

/-- A text is cut into its blocks exactly at the places that open one. -/
theorem cutAt_gather (cs : List Char) : CutAt Opens cs (gather (lines cs)) where
  joined := by rw [flatten_gather, flatten_lines]
  nonempty := nil_not_mem_gather (nil_not_mem_lines cs)
  seam_iff := by
    have flat (cs : List Char) : (gather (lines cs)).flatten = cs := by
      rw [flatten_gather, flatten_lines]
    rintro before after rfl
    constructor
    · rintro ⟨earlier, later, some, more, cut, rfl⟩
      have whole := flat (earlier.flatten ++ after)
      rw [cut, List.flatten_append] at whole
      rw [← List.append_cancel_left whole]
      exact opens_of_gather cut some more
    · intro opens
      obtain ⟨broken, more, opening⟩ := opens_iff.1 opens
      have cut : gather (lines (before ++ after)) = gather (lines before) ++ gather (lines after) := by
        rw [lines_append (.inr broken), gather_append _ (lines_head_opening opening)]
      refine ⟨gather (lines before), gather (lines after), ?_, ?_, cut, flat before⟩
      · intro empty
        exact broken.ne_nil (by rw [← flat before, empty, List.flatten_nil])
      · intro empty
        exact more (by rw [← flat after, empty, List.flatten_nil])

end Blocks

section Texts

variable {piece text : List Char}

/-- The second text is the first one without the line ends behind it. -/
structure Trimmed (piece text : List Char) : Prop where
  joined : ∃ ending, piece = text ++ ending ∧ ∀ c ∈ ending, isLineEnd c = true
  ended : ∀ c ∈ text.getLast?, isLineEnd c = false

theorem trimEnd_trimmed (piece : List Char) : Trimmed piece (Text.trimEnd isLineEnd piece) where
  joined := ⟨piece.rtakeWhile isLineEnd, List.rdropWhile_append_rtakeWhile.symm,
    fun _ => List.mem_rtakeWhile_imp⟩
  ended := by
    intro c last
    have nonempty := List.ne_nil_of_mem (List.mem_of_getLast? last)
    rw [List.getLast?_eq_some_getLast nonempty, Option.mem_some_iff] at last
    rw [← last, ← Bool.not_eq_true]
    exact List.rdropWhile_last_not isLineEnd piece nonempty

theorem Trimmed.trimEnd_eq (trimmed : Trimmed piece text) : Text.trimEnd isLineEnd piece = text := by
  obtain ⟨ending, rfl, ends⟩ := trimmed.joined
  exact trimEnd_append trimmed.ended ends

/-- Whether a text shows something: a character that is not white space. -/
def isVisible (cs : List Char) : Bool := cs.any fun c => !isBlank c

theorem isVisible_append_blank {ending : List Char} (blank : ∀ c ∈ ending, isBlank c = true) :
    isVisible (text ++ ending) = isVisible text := by
  have dark : isVisible ending = false := by simpa [isVisible] using blank
  rw [isVisible, List.any_append, ← isVisible, ← isVisible, dark, Bool.or_false]

theorem isBlank_of_isLineEnd {c : Char} (ended : isLineEnd c = true) : isBlank c = true := by
  simp only [isLineEnd, Bool.or_eq_true, beq_iff_eq] at ended
  rcases ended with rfl | rfl <;> rfl

theorem Trimmed.isVisible_eq (trimmed : Trimmed piece text) : isVisible text = isVisible piece := by
  obtain ⟨ending, rfl, ends⟩ := trimmed.joined
  exact (isVisible_append_blank fun c member => isBlank_of_isLineEnd (ends c member)).symm

theorem blocks_eq (cs : List Char) :
    blocks cs = ((gather (lines cs)).filter isVisible).map (Text.trimEnd isLineEnd) := by
  rw [blocks, List.filter_map]
  refine congrArg (List.map _) (List.filter_congr fun piece _ => ?_)
  rw [Function.comp_apply, ← (trimEnd_trimmed piece).isVisible_eq, isVisible, List.not_all_eq_any_not]

/-- Texts stand in another one after the other, with white space between and around them only. -/
inductive StandIn : List (List Char) → List Char → Prop
  | blank {gap} : (∀ c ∈ gap, isBlank c = true) → StandIn [] gap
  | text {gap text texts rest} : (∀ c ∈ gap, isBlank c = true) → StandIn texts rest →
      StandIn (text :: texts) (gap ++ text ++ rest)

theorem StandIn.behind_blank {texts : List (List Char)} {gap rest : List Char}
    (blank : ∀ c ∈ gap, isBlank c = true) (stand : StandIn texts rest) : StandIn texts (gap ++ rest) := by
  cases stand with
  | blank others => exact .blank (List.forall_mem_append.2 ⟨blank, others⟩)
  | text others stand =>
    rw [← List.append_assoc, ← List.append_assoc]
    exact .text (List.forall_mem_append.2 ⟨blank, others⟩) stand

theorem StandIn.filter_eq {texts : List (List Char)} {whole : List Char} (stand : StandIn texts whole) :
    texts.flatten.filter (fun c => !isBlank c) = whole.filter fun c => !isBlank c := by
  have hidden : ∀ {gap : List Char}, (∀ c ∈ gap, isBlank c = true) →
      gap.filter (fun c => !isBlank c) = [] := by
    intro gap blank
    simpa using blank
  induction stand with
  | blank blank => rw [hidden blank, List.flatten_nil, List.filter_nil]
  | text blank _ ih =>
    rw [List.flatten_cons, List.filter_append, List.filter_append, List.filter_append, hidden blank, ih,
      List.nil_append]

/-- The pieces that show something stand in the whole text, without the line ends behind them. -/
theorem standIn_flatten (pieces : List (List Char)) :
    StandIn ((pieces.filter isVisible).map (Text.trimEnd isLineEnd)) pieces.flatten := by
  induction pieces with
  | nil => exact .blank (by simp)
  | cons piece pieces ih =>
    rw [List.flatten_cons]
    by_cases visible : isVisible piece = true
    · obtain ⟨ending, joined, ends⟩ := (trimEnd_trimmed piece).joined
      rw [List.filter_cons_of_pos visible, List.map_cons]
      have stand := ih.behind_blank fun c member => isBlank_of_isLineEnd (ends c member)
      have whole : StandIn _ ([] ++ Text.trimEnd isLineEnd piece ++ (ending ++ pieces.flatten)) :=
        .text (by simp) stand
      rwa [List.nil_append, ← List.append_assoc, ← joined] at whole
    · rw [List.filter_cons_of_neg visible]
      exact ih.behind_blank (by simpa [isVisible] using visible)

/-- The texts of the messages of an output, in order. -/
def texts (output : String) : List (List Char) := (parse output).map fun m => m.text.toList

theorem texts_readBlock (list : List (List Char)) :
    (list.map readBlock).map (fun m => m.text.toList) = list := by
  rw [List.map_map]
  refine (List.map_congr_left fun block _ => ?_).trans (List.map_id list)
  rw [Function.comp_apply, toList_readBlock, id_eq]

theorem texts_eq_blocks (output : String) : texts output = blocks output.toList :=
  texts_readBlock (blocks output.toList)

/-- There is one way to cut an output exactly at the places that open a block. The texts of the messages
are the pieces that show something, without the line ends behind them, so every character that is not
white space lies in exactly one message, and in order. -/
theorem texts_cut (output : String) :
    ∃ pieces, (∀ other, CutAt Opens output.toList other ↔ other = pieces) ∧
      List.Forall₂ Trimmed (pieces.filter isVisible) (texts output) ∧
      StandIn (texts output) output.toList ∧
      (texts output).flatten.filter (fun c => !isBlank c) =
        output.toList.filter fun c => !isBlank c := by
  have cut := cutAt_gather output.toList
  have stand := standIn_flatten (gather (lines output.toList))
  rw [cut.joined, ← blocks_eq, ← texts_eq_blocks] at stand
  refine ⟨gather (lines output.toList), fun other => ?_, ?_, stand, stand.filter_eq⟩
  · constructor
    · exact fun cut' => cut'.unique cut
    · rintro rfl
      exact cut
  · rw [texts_eq_blocks, blocks_eq, List.forall₂_map_right_iff, List.forall₂_same]
    exact fun piece _ => trimEnd_trimmed piece

-- A lone CR ends a line too, and the CR LF behind it is a blank line of its own.
example : texts "x: y\r\n  z\r\r\nnote\n" = ["x: y\r\n  z".toList, "note".toList] := by
  decide +kernel

end Texts

end ShaderDriver.Diagnostic
