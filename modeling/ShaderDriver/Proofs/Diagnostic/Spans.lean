import ShaderDriver.Proofs.Diagnostic.Reading
import ShaderDriver.Proofs.Text.Offsets

namespace ShaderDriver

/-- The span covers whole characters of the text. -/
def Span.Within (span : Span) (cs : List Char) : Prop :=
  ∃ before covered after, cs = before ++ covered ++ after ∧
    span = ⟨Utf8.size before, Utf8.size covered⟩

theorem Span.Within.stop_le {span : Span} {cs : List Char} (within : span.Within cs) :
    span.stop ≤ Utf8.size cs := by
  obtain ⟨before, covered, after, rfl, rfl⟩ := within
  rw [Utf8.size_append, Utf8.size_append]
  exact Nat.le_add_right _ _

/-- The span lies in the text, and both its ends lie between two characters. -/
structure Span.Valid (span : Span) (text : String) : Prop where
  start : String.Pos.Raw.IsValid text ⟨span.offset⟩
  stop : String.Pos.Raw.IsValid text ⟨span.stop⟩
  inside : span.stop ≤ text.utf8ByteSize

theorem Span.Within.valid {span : Span} {text : String} (within : span.Within text.toList) :
    span.Valid text := by
  obtain ⟨before, covered, after, joined, rfl⟩ := within
  have start : String.Pos.Raw.IsValid text ⟨Utf8.size before⟩ := by
    rw [Offset.isValid_iff_cut?, joined, List.append_assoc]
    exact ⟨_, _, Offset.cut?_append before (covered ++ after)⟩
  have stop : String.Pos.Raw.IsValid text ⟨Utf8.size before + Utf8.size covered⟩ := by
    rw [Offset.isValid_iff_cut?, joined, ← Utf8.size_append]
    exact ⟨_, _, Offset.cut?_append (before ++ covered) after⟩
  exact ⟨start, stop, stop.le_utf8ByteSize⟩

/-- What holds of the spans of a message. -/
structure Message.SpansValid (m : Message) : Prop where
  path : ∀ location ∈ m.location, location.path.Valid m.text
  body : ∀ span ∈ m.body, span.Valid m.text
  path_start : ∀ location ∈ m.location, location.path.offset = 0
  body_nonempty : ∀ span ∈ m.body, 0 < span.length
  body_stop : ∀ span ∈ m.body, span.stop = m.text.utf8ByteSize
  apart : ∀ location ∈ m.location, ∀ span ∈ m.body, location.path.stop < span.offset
  line : m.path.isSome = m.line.isSome
  column : m.column.isSome → m.line.isSome

namespace Diagnostic

/-- All that reading a block can give: its text alone, the sections of the whole text, or a location
and the sections behind it. -/
inductive Reads : List Char → Message → Prop
  | alone (text) : Reads text (.unstructured (String.ofList text))
  | unlocated (text) : Reads text (readSections text none 0 text)
  | located {parts : Located} {path line column} : parts.WellFormed → parts.Means path line column →
      Reads parts.block (readSections parts.block (some ⟨⟨0, Utf8.size path.toList⟩, line, column⟩)
        (Utf8.size (parts.header ++ separator)) parts.rest)

theorem reads_readBlock (text : List Char) : Reads text (readBlock text) := by
  by_cases located : IsLocated text
  · obtain ⟨parts, wf, rfl⟩ := located
    obtain ⟨line, column, means⟩ := wf.means
    rw [wf.readBlock means]
    exact .located wf means
  · by_cases digitless : ∀ first after, Text.FirstAt separator text first after →
        endsInDigit first = false
    · rw [readBlock_whole digitless]
      exact .unlocated text
    · push Not at digitless
      obtain ⟨first, after, found, digit⟩ := digitless
      rw [readBlock_refused found (by simpa using digit) located]
      exact .alone text

/-- A body that was read is all that follows the label and its separator. -/
theorem readSections_body {text front rest : List Char} {location : Option Location} {span : Span}
    (found : (readSections text location (Utf8.size front) rest).body = some span) :
    ∃ label body, rest = label ++ separator ++ body ∧ body ≠ [] ∧
      span = ⟨Utf8.size (front ++ label ++ separator), Utf8.size body⟩ := by
  unfold readSections at found
  split at found
  · cases found
  · next label body split =>
    simp only at found
    split at found
    · cases found
    · next some =>
      refine ⟨label, body, Text.splitFirst_join split, ?_, ?_⟩
      · simpa using some
      · rw [← Option.some.inj found, Utf8.size_append, Utf8.size_append]

/-- A body that was read is the end of the text, and not empty. -/
theorem body_of_readSections (front rest : List Char) {location : Option Location} {span : Span}
    (found : (readSections (front ++ rest) location (Utf8.size front) rest).body = some span) :
    0 < span.length ∧ span.stop = Utf8.size (front ++ rest) ∧ Utf8.size front < span.offset := by
  obtain ⟨label, body, rfl, nonempty, rfl⟩ := readSections_body found
  have gap : Utf8.size separator = 2 := rfl
  refine ⟨Utf8.size_pos_iff.2 nonempty, ?_, ?_⟩ <;>
    simp only [Span.stop, Utf8.size_append] <;> omega

theorem within_of_readSections (front rest : List Char) {location : Option Location} {span : Span}
    (found : (readSections (front ++ rest) location (Utf8.size front) rest).body = some span) :
    span.Within (front ++ rest) := by
  obtain ⟨label, body, rfl, _, rfl⟩ := readSections_body found
  exact ⟨front ++ label ++ separator, body, [], by simp, rfl⟩

/-- A path that was read is the start of the text. -/
theorem Reads.exists_path {text : List Char} {m : Message} (reads : Reads text m) :
    ∀ location ∈ m.location, ∃ path after, text = path ++ after ∧ location.path = ⟨0, Utf8.size path⟩ := by
  intro location found
  cases reads with
  | alone => cases found
  | unlocated =>
    rw [readSections_location] at found
    cases found
  | @located parts path line column wf means =>
    rw [readSections_location] at found
    cases found
    obtain ⟨after, joined⟩ := parts.exists_block_eq
    exact ⟨path.toList, after, by rw [joined, means.path_eq], rfl⟩

theorem Reads.path_within {text : List Char} {m : Message} (reads : Reads text m) :
    ∀ location ∈ m.location, location.path.Within text := by
  intro location found
  obtain ⟨path, after, rfl, span⟩ := reads.exists_path location found
  exact ⟨[], path, after, rfl, span⟩

theorem Reads.path_start {text : List Char} {m : Message} (reads : Reads text m) :
    ∀ location ∈ m.location, location.path.offset = 0 := by
  intro location found
  obtain ⟨path, after, -, span⟩ := reads.exists_path location found
  rw [span]

theorem Reads.body_within {text : List Char} {m : Message} (reads : Reads text m) :
    ∀ span ∈ m.body, span.Within text := by
  intro span found
  cases reads with
  | alone => cases found
  | unlocated => exact within_of_readSections [] text found
  | located => exact within_of_readSections _ _ found

theorem Reads.text_eq {text : List Char} {m : Message} (reads : Reads text m) :
    m.text = String.ofList text := by
  cases reads with
  | alone => rfl
  | unlocated => exact readSections_text ..
  | located => exact readSections_text ..

/-- A body that was read is the end of the text, and stands behind the path. -/
theorem Reads.body_end {text : List Char} {m : Message} (reads : Reads text m) :
    ∀ span ∈ m.body, 0 < span.length ∧ span.stop = Utf8.size text ∧
      ∀ location ∈ m.location, location.path.stop < span.offset := by
  intro span found
  cases reads with
  | alone => cases found
  | unlocated =>
    obtain ⟨nonempty, stop, _⟩ := body_of_readSections [] text found
    refine ⟨nonempty, stop, fun location located => ?_⟩
    rw [readSections_location] at located
    cases located
  | @located parts path line column wf means =>
    obtain ⟨nonempty, stop, behind⟩ := body_of_readSections (parts.header ++ separator) parts.rest found
    refine ⟨nonempty, stop, fun location located => ?_⟩
    rw [readSections_location] at located
    cases located
    obtain ⟨numbers, header⟩ := parts.exists_header_eq
    rw [header, Utf8.size_append, Utf8.size_append, means.path_eq] at behind
    simp only [Span.stop]
    omega

theorem Reads.spansValid {text : List Char} {m : Message} (reads : Reads text m) : m.SpansValid := by
  have kept : m.text.toList = text := by rw [reads.text_eq, String.toList_ofList]
  have size : m.text.utf8ByteSize = Utf8.size text := by rw [← Utf8.size_toList, kept]
  refine
    { path := fun location found => (kept ▸ reads.path_within location found).valid
      body := fun span found => (kept ▸ reads.body_within span found).valid
      path_start := reads.path_start
      body_nonempty := fun span found => (reads.body_end span found).1
      body_stop := fun span found => (reads.body_end span found).2.1.trans size.symm
      apart := fun location located span found => (reads.body_end span found).2.2 location located
      line := ?_
      column := ?_ }
  · rw [Message.path, Message.line, Option.isSome_map, Option.isSome_map]
  · simp only [Message.column, Message.line]
    cases m.location <;> simp

end Diagnostic

end ShaderDriver
