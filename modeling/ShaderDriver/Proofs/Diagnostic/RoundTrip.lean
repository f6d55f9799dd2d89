import ShaderDriver.Proofs.Diagnostic.Reading
import ShaderDriver.Proofs.Diagnostic.Segmentation

namespace ShaderDriver.Diagnostic

/-- The location of a printed diagnostic. The path opens a line and holds nothing that ends it, and
without a column it does not end in a token that could be a line. -/
structure Origin where
  path : List Char
  line : UInt32
  column : Option UInt32
  path_closed : ¬ separator <:+: path
  path_inline : ∀ c ∈ path, isLineEnd c = false
  path_opening : continuesBlock path = false
  path_open : column = none → Numeral.isNumeral (Text.lastToken ':' path) = false

/-- A diagnostic that can be printed. Its body fills the first line and indented lines below it. -/
structure Record where
  origin : Option Origin
  label : List Char
  body : List Char
  label_closed : ¬ separator <:+: label
  label_inline : ∀ c ∈ label, isLineEnd c = false
  label_known : origin = none →
    Text.SameIgnoringCase label "warning".toList ∨ Text.SameIgnoringCase label "error".toList
  body_nonempty : body ≠ []
  body_ended : ∀ c ∈ body.getLast?, isLineEnd c = false
  body_unbroken : Unbroken body

/-- A record as it stands in an output: line ends follow it, at least one. -/
structure Entry where
  record : Record
  terminator : Terminator
  blanks : List Terminator

namespace Origin

def located (origin : Origin) (rest : List Char) : Located where
  path := origin.path
  line := Numeral.digits origin.line.toNat
  column := origin.column.map fun column => Numeral.digits column.toNat
  rest := rest

theorem located_wellFormed (origin : Origin) (rest : List Char) :
    (origin.located rest).WellFormed where
  path_closed := origin.path_closed
  line_word := ⟨origin.line, Numeral.digits_denotes origin.line⟩
  column_word := by
    intro digits written
    obtain ⟨column, _, rfl⟩ := Option.map_eq_some_iff.1 written
    exact ⟨column, Numeral.digits_denotes column⟩
  path_open := by
    intro absent
    exact origin.path_open (Option.map_eq_none_iff.1 absent)

theorem located_means (origin : Origin) (rest : List Char) :
    (origin.located rest).Means (String.ofList origin.path) origin.line origin.column where
  path_eq := String.toList_ofList.symm
  line_denotes := Numeral.digits_denotes origin.line
  column_denotes := by
    unfold located
    cases origin.column with
    | none => exact .none
    | some column => exact .some (Numeral.digits_denotes column)

theorem header_inline (origin : Origin) (rest : List Char) :
    ∀ c ∈ (origin.located rest).header, isLineEnd c = false := by
  have digitInline (n : UInt32) : ∀ c ∈ Numeral.digits n.toNat, isLineEnd c = false :=
    have numeral := (Numeral.digits_denotes n).numeral
    inline_of_not_mem (Numeral.not_mem numeral rfl) (Numeral.not_mem numeral rfl)
  intro c member
  unfold Located.header located at member
  cases written : origin.column with
  | none =>
    simp only [written, Option.map_none, List.mem_append, List.mem_cons] at member
    rcases member with inPath | rfl | inLine
    · exact origin.path_inline c inPath
    · rfl
    · exact digitInline _ c inLine
  | some column =>
    simp only [written, Option.map_some, List.mem_append, List.mem_cons] at member
    rcases member with (inPath | rfl | inLine) | rfl | inColumn
    · exact origin.path_inline c inPath
    · rfl
    · exact digitInline _ c inLine
    · rfl
    · exact digitInline _ c inColumn

end Origin

namespace Record

def sections (record : Record) : List Char := record.label ++ separator ++ record.body

/-- The printed form: `path:line:column: label: body`, the location being optional. -/
def printed (record : Record) : List Char :=
  match record.origin with
  | none => record.sections
  | some origin => (origin.located record.sections).block

end Record

namespace Entry

def written (entry : Entry) : List Char :=
  entry.record.printed ++ entry.terminator.text ++ entry.blanks.flatMap Terminator.text

end Entry

def listing (entries : List Entry) : String := String.ofList (entries.flatMap Entry.written)

/-- A message says what a record says. -/
structure Reports (record : Record) (m : Message) : Prop where
  text_eq : m.text = String.ofList record.printed
  path_eq : m.path = record.origin.map fun origin => String.ofList origin.path
  line_eq : m.line = record.origin.map Origin.line
  column_eq : m.column = record.origin.bind Origin.column
  severity_eq : m.severity = Severity.ofSection record.label
  body_eq : m.bodyText = some (String.ofList record.body)

namespace Record

variable {record : Record}

theorem firstAt_sections (record : Record) :
    Text.FirstAt separator record.sections record.label record.body :=
  Text.firstAt_pair separator_ne record.label_closed record.body

/-- A label that stands at the beginning opens a block and does not end like a location. -/
theorem label_shape (unplaced : record.origin = none) :
    endsInDigit record.label = false ∧ continuesBlock record.sections = false := by
  have shape : ∀ {c d : Char} {word last : List Char},
      Text.SameIgnoringCase record.label (c :: word) → Text.SameIgnoringCase record.label (last ++ [d]) →
      c.toLower ≠ ' ' → c.toLower ≠ '\t' → d.toLower.isDigit = false →
      endsInDigit record.label = false ∧ continuesBlock record.sections = false := by
    intro c d word last startsWith endsWith noSpace noTab noDigit
    obtain ⟨front, final, joined, lowerFinal⟩ := endsWith.last
    obtain ⟨first, rest, opened, lowerFirst⟩ := startsWith.head
    constructor
    · rw [joined, endsInDigit, List.getLast?_concat, Option.any_some]
      by_contra digit
      rw [Bool.not_eq_false] at digit
      rw [← lowerFinal, Text.toLower_of_isDigit digit, digit] at noDigit
      cases noDigit
    · rw [sections, opened]
      unfold continuesBlock
      split
      · rename_i same
        cases same
        exact absurd lowerFirst.symm noSpace
      · rename_i same
        cases same
        exact absurd lowerFirst.symm noTab
      · rfl
  rcases record.label_known unplaced with same | same
  · have startsWith : Text.SameIgnoringCase record.label ('w' :: "arning".toList) := same
    have endsWith : Text.SameIgnoringCase record.label ("warnin".toList ++ ['g']) := same
    exact shape startsWith endsWith (by decide) (by decide) (by decide)
  · have startsWith : Text.SameIgnoringCase record.label ('e' :: "rror".toList) := same
    have endsWith : Text.SameIgnoringCase record.label ("erro".toList ++ ['r']) := same
    exact shape startsWith endsWith (by decide) (by decide) (by decide)

theorem printed_opening (record : Record) : continuesBlock record.printed = false := by
  unfold printed
  split
  · rename_i unplaced
    exact (label_shape unplaced).2
  · rename_i origin placed
    by_cases empty : origin.path = []
    · simp only [Located.block, Located.header, Origin.located, empty]
      cases origin.column <;> rfl
    · obtain ⟨tail, joined⟩ := (origin.located record.sections).exists_block_eq
      rw [joined, Origin.located, continuesBlock_append empty]
      exact origin.path_opening

/-- A printed record is a text without line ends and then its body. -/
theorem exists_front (record : Record) :
    ∃ front, record.printed = front ++ record.body ∧ ∀ c ∈ front, isLineEnd c = false := by
  have separatorInline : ∀ c ∈ separator, isLineEnd c = false := by simp [separator, isLineEnd]
  have labelInline : ∀ c ∈ record.label ++ separator, isLineEnd c = false := by
    intro c member
    rcases List.mem_append.1 member with inLabel | inSeparator
    · exact record.label_inline c inLabel
    · exact separatorInline c inSeparator
  unfold printed
  split
  · exact ⟨record.label ++ separator, rfl, labelInline⟩
  · rename_i origin placed
    refine ⟨(origin.located record.sections).header ++ separator ++ (record.label ++ separator), ?_, ?_⟩
    · simp only [Located.block, Origin.located, sections, List.append_assoc]
    · intro c member
      rcases List.mem_append.1 member with inHeader | inLabel
      · rcases List.mem_append.1 inHeader with inHeader | inSeparator
        · exact origin.header_inline record.sections c inHeader
        · exact separatorInline c inSeparator
      · exact labelInline c inLabel

theorem printed_getLast? (record : Record) : record.printed.getLast? = record.body.getLast? := by
  obtain ⟨front, joined, _⟩ := record.exists_front
  rw [joined, List.getLast?_append_of_ne_nil front record.body_nonempty]

theorem colon_mem (record : Record) : ':' ∈ record.printed := by
  unfold printed
  split
  · simp [sections, separator]
  · simp [Located.block, separator]

theorem printed_unbroken (record : Record) : Unbroken record.printed := by
  obtain ⟨front, joined, inline⟩ := record.exists_front
  rw [joined]
  exact record.body_unbroken.prepend inline

theorem printed_ended (record : Record) : ∀ c ∈ record.printed.getLast?, isLineEnd c = false := by
  rw [record.printed_getLast?]
  exact record.body_ended

theorem printed_isBlock (record : Record) : IsBlock record.printed where
  visible := List.all_eq_false.2 ⟨':', record.colon_mem, by decide⟩
  ended := record.printed_ended
  unbroken := record.printed_unbroken

theorem digitless (unplaced : record.origin = none) : ∀ first after,
    Text.FirstAt separator record.sections first after → endsInDigit first = false := by
  intro first after found
  obtain ⟨rfl, rfl⟩ := found.unique record.firstAt_sections
  exact (label_shape unplaced).1

/-- What is left of a printed record without its location. -/
theorem remainder (record : Record) : Remainder record.printed record.sections := by
  unfold printed
  split
  · rename_i unplaced
    exact .whole (not_isLocated_of_digitless (digitless unplaced)) (digitless unplaced)
  · rename_i origin placed
    exact .located (origin.located_wellFormed record.sections) rfl

/-- The location of a printed record is the one that reading finds. -/
theorem readBlock_location (record : Record) :
    (readBlock record.printed).path = record.origin.map (fun origin => String.ofList origin.path) ∧
      (readBlock record.printed).line = record.origin.map Origin.line ∧
      (readBlock record.printed).column = record.origin.bind Origin.column := by
  have conforms := readBlock_conforms record.printed
  have text := toList_readBlock record.printed
  cases placed : record.origin with
  | none =>
    have same : record.printed = record.sections := by rw [printed, placed]
    refine conforms.absent ?_
    rw [text, same]
    exact not_isLocated_of_digitless (digitless placed)
  | some origin =>
    have same : record.printed = (origin.located record.sections).block := by rw [printed, placed]
    exact (conforms.location_iff _ _ _).2 ⟨origin.located record.sections,
      origin.located_wellFormed _, by rw [text, same], origin.located_means _⟩

theorem readBlock_reports (record : Record) : Reports record (readBlock record.printed) := by
  have text := toList_readBlock record.printed
  obtain ⟨path, line, column⟩ := record.readBlock_location
  have sections := (readBlock_conforms record.printed).sections record.sections
    (by rw [text]; exact record.remainder)
  refine ⟨readBlock_text _, path, line, column, sections.severity_eq record.firstAt_sections, ?_⟩
  rw [sections.body_eq _ _ record.firstAt_sections, if_neg record.body_nonempty]

end Record

namespace Entry

theorem written_opening (entry : Entry) (rest : List Char) :
    continuesBlock (entry.written ++ rest) = false := by
  have nonempty : entry.record.printed ≠ [] := List.ne_nil_of_mem entry.record.colon_mem
  rw [written, List.append_assoc, List.append_assoc, continuesBlock_append nonempty]
  exact entry.record.printed_opening

/-- An entry ends with a line. -/
theorem written_lineBreak (entry : Entry) (after : List Char) : LineBreak entry.written after := by
  unfold written
  rcases List.eq_nil_or_concat entry.blanks with empty | ⟨earlier, last, joined⟩
  · rw [empty, List.flatMap_nil, List.append_nil]
    exact entry.terminator.lineBreak _ after
  · rw [joined, List.concat_eq_append, List.flatMap_append, List.flatMap_singleton,
      ← List.append_assoc]
    exact last.lineBreak _ after

theorem blocks_written (entry : Entry) : blocks entry.written = [entry.record.printed] := by
  have opening : continuesBlock (entry.blanks.flatMap Terminator.text) = false := by
    rcases entry.blanks with _ | ⟨_ | _, others⟩ <;> rfl
  rw [written, blocks_append (Or.inr (entry.terminator.lineBreak _ _)) opening,
    entry.record.printed_isBlock.blocks_terminated, blocks_terminators, List.append_nil]

end Entry

/-- A listing is cut exactly between its entries. -/
theorem blocks_listing (entries : List Entry) :
    blocks (entries.flatMap Entry.written) = entries.map fun entry => entry.record.printed := by
  induction entries with
  | nil => exact blocks_terminators []
  | cons entry entries ih =>
    have opening : continuesBlock (entries.flatMap Entry.written) = false := by
      cases entries with
      | nil => rfl
      | cons next entries => exact next.written_opening _
    rw [List.flatMap_cons, blocks_append (Or.inr (entry.written_lineBreak _)) opening,
      entry.blocks_written, ih, List.map_cons, List.singleton_append]

/-- Reading a listing gives back what was printed: one message for each entry, in the same order, and
each says what its record says. -/
theorem parse_listing (entries : List Entry) :
    List.Forall₂ (fun entry m => Reports entry.record m) entries (parse (listing entries)) := by
  rw [parse, listing, String.toList_ofList, blocks_listing, List.map_map, List.forall₂_map_right_iff,
    List.forall₂_same]
  exact fun entry _ => entry.record.readBlock_reports

example : ∃ record : Record,
    record.printed = "C:\\a.hlsl:3:7: Error: no such name\n    x = y;".toList :=
  ⟨{ origin := some
      { path := "C:\\a.hlsl".toList
        line := 3
        column := some 7
        path_closed := by decide +kernel
        path_inline := by simp [isLineEnd]
        path_opening := by decide +kernel
        path_open := by decide +kernel }
     label := "Error".toList
     body := "no such name\n    x = y;".toList
     label_closed := by decide +kernel
     label_inline := by simp [isLineEnd]
     label_known := nofun
     body_nonempty := by decide +kernel
     body_ended := by simp [isLineEnd]
     body_unbroken := by decide +kernel }, by decide +kernel⟩

end ShaderDriver.Diagnostic
