import ShaderDriver.Proofs.Diagnostic.Pieces
import ShaderDriver.Proofs.Diagnostic.Spans
import ShaderDriver.Proofs.Text.Returns

namespace ShaderDriver

open Text (crlf)

section Spans

/-- The span of the same characters when every LF of the text has become CR LF: one octet more for each
LF before it and for each LF in it. -/
def Span.moved (cs : List Char) (span : Span) : Span :=
  ⟨span.offset + (Span.takeOctets span.offset cs).count '\n', span.length + (span.slice cs).count '\n'⟩

theorem Span.moved_eq (before covered after : List Char) :
    Span.moved (before ++ covered ++ after) ⟨Utf8.size before, Utf8.size covered⟩ =
      ⟨Utf8.size (crlf before), Utf8.size (crlf covered)⟩ := by
  have front := Span.takeOctets_size_append before (covered ++ after)
  rw [← List.append_assoc] at front
  rw [Span.moved, front, Span.slice_append, Text.size_crlf, Text.size_crlf]

theorem Span.Within.slice_moved {span : Span} {cs : List Char} (within : span.Within cs) :
    (span.moved cs).slice (crlf cs) = crlf (span.slice cs) := by
  obtain ⟨before, covered, after, rfl, rfl⟩ := within
  rw [Span.moved_eq, Span.slice_append, Text.crlf_append, Text.crlf_append, Span.slice_append]

end Spans

def Location.moved (cs : List Char) (location : Location) : Location :=
  { location with path := location.path.moved cs }

theorem Location.moved_eq (path after : List Char) (line : UInt32) (column : Option UInt32) :
    Location.moved (path ++ after) ⟨⟨0, Utf8.size path⟩, line, column⟩ =
      ⟨⟨0, Utf8.size (crlf path)⟩, line, column⟩ :=
  congrArg (fun span => (⟨span, line, column⟩ : Location)) (Span.moved_eq [] path after)

/-- The message of the same block when every LF of the text has become CR LF. -/
def Message.moved (m : Message) : Message where
  text := String.ofList (crlf m.text.toList)
  location := m.location.map (Location.moved m.text.toList)
  severity := m.severity
  body := m.body.map (Span.moved m.text.toList)

namespace Diagnostic

section Segments

variable {cs : List Char}

theorem continuesBlock_crlf (cs : List Char) : continuesBlock (crlf cs) = continuesBlock cs := by
  cases cs with
  | nil => rfl
  | cons c cs =>
    by_cases feed : c = '\n'
    · subst feed
      rfl
    · have first (rest : List Char) : continuesBlock ([c] ++ rest) = continuesBlock [c] :=
        continuesBlock_append (List.cons_ne_nil c [])
      rw [Text.crlf_cons feed]
      exact (first (crlf cs)).trans (first cs).symm

theorem lines_crlf (returnless : '\r' ∉ cs) : lines (crlf cs) = (lines cs).map crlf := by
  induction cs with
  | nil => rfl
  | cons c cs ih =>
    obtain ⟨noReturn, others⟩ := not_or.1 (mt List.mem_cons.2 returnless)
    have rest := ih others
    by_cases feed : c = '\n'
    · subst feed
      rw [Text.crlf_feed, lines, rest, lines_of_isLineEnd (.inr rfl) fun same => absurd same (by decide)]
      rfl
    · have plain : ¬ (c = '\r' ∨ c = '\n') := not_or.2 ⟨Ne.symm noReturn, feed⟩
      rw [Text.crlf_cons feed, lines_of_plain plain, lines_of_plain plain, rest, List.map_cons,
        Text.crlf_cons feed, List.map_tail]
      cases lines cs <;> rfl

theorem gather_crlf (rows : List (List Char)) : gather (rows.map crlf) = (gather rows).map crlf := by
  have same : continuesBlock ∘ crlf = continuesBlock := funext continuesBlock_crlf
  fun_induction gather rows with
  | case1 => rw [List.map_nil, gather]
  | case2 line rest ih =>
    rw [List.map_cons, gather, List.takeWhile_map, List.dropWhile_map, same, ih, List.map_cons,
      Text.crlf_append, Text.crlf_flatten]

theorem trimEnd_crlf (cs : List Char) :
    Text.trimEnd isLineEnd (crlf cs) = crlf (Text.trimEnd isLineEnd cs) := by
  obtain ⟨⟨ending, joined, ends⟩, ended⟩ := trimEnd_trimmed cs
  have ends' : ∀ c ∈ crlf ending, isLineEnd c = true := by
    have kept := Text.all_crlf isLineEnd (fun _ => rfl) ending
    rw [List.all_eq_true.2 ends] at kept
    exact List.all_eq_true.1 kept
  have trimmed : Trimmed (crlf cs) (crlf (Text.trimEnd isLineEnd cs)) := by
    refine ⟨⟨crlf ending, ?_, ends'⟩, by rwa [Text.getLast?_crlf]⟩
    rw [← Text.crlf_append, ← joined]
  exact trimmed.trimEnd_eq

theorem isVisible_crlf (cs : List Char) : isVisible (crlf cs) = isVisible cs := by
  have kept := Text.all_crlf isBlank (fun _ => rfl) cs
  rw [isVisible, isVisible, ← List.not_all_eq_any_not, ← List.not_all_eq_any_not, kept]

theorem blocks_crlf (returnless : '\r' ∉ cs) : blocks (crlf cs) = (blocks cs).map crlf := by
  have same : isVisible ∘ crlf = isVisible := funext isVisible_crlf
  rw [blocks_eq, blocks_eq, lines_crlf returnless, gather_crlf, List.filter_map, same, List.map_map,
    List.map_map]
  exact List.map_congr_left fun piece _ => trimEnd_crlf piece

end Segments

section Reading

theorem crlf_separator : crlf separator = separator := rfl

theorem splitFirst_separator_crlf (cs : List Char) :
    Text.splitFirst separator (crlf cs) =
      (Text.splitFirst separator cs).map fun parts => (crlf parts.1, crlf parts.2) :=
  Text.splitFirst_crlf (by simp) (List.cons_ne_nil _ _) cs

theorem endsInDigit_crlf (cs : List Char) : endsInDigit (crlf cs) = endsInDigit cs := by
  rw [endsInDigit, endsInDigit, Text.getLast?_crlf]

/-- A word without line feeds is spelled by the same labels as before. -/
theorem lower_crlf {word : List Char} (feedless : '\n' ∉ word) (label : List Char) :
    (crlf label).map Char.toLower = word ↔ label.map Char.toLower = word := by
  by_cases feed : '\n' ∈ label
  · have lower : ∀ {cs : List Char}, '\n' ∈ cs → cs.map Char.toLower ≠ word := by
      rintro cs member rfl
      exact feedless (List.mem_map.2 ⟨'\n', member, by decide⟩)
    exact iff_of_false (lower (Text.feed_mem_crlf feed)) (lower feed)
  · rw [Text.crlf_of_not_mem feed]

theorem ofSection_crlf (label : List Char) :
    Severity.ofSection (crlf label) = Severity.ofSection label := by
  have warning : '\n' ∉ "warning".toList := by decide
  have error : '\n' ∉ "error".toList := by decide
  simp only [Severity.ofSection, lower_crlf warning, lower_crlf error]

theorem readLocation_crlf (cs after : List Char) :
    readLocation (crlf cs) = (readLocation cs).map (Location.moved (cs ++ after)) := by
  have colon : ':' ≠ '\n' ∧ ':' ≠ '\r' := by decide
  simp only [readLocation, Text.splitLast_crlf colon]
  cases outer : Text.splitLast ':' cs with
  | none => rfl
  | some parts =>
    obtain ⟨before, last⟩ := parts
    obtain rfl := Text.splitLast_join outer
    simp only [Option.map_some, Option.bind_eq_bind, Option.bind_some, Numeral.read?_crlf,
      Text.splitLast_crlf colon, List.append_assoc]
    cases Numeral.read? last with
    | none => rfl
    | some number =>
      cases inner : Text.splitLast ':' before with
      | none =>
        simp only [Option.map_none, Option.bind_some, Numeral.isNumeral_crlf]
        split
        · rfl
        · rw [Option.pure_def, Option.map_some, Location.moved_eq]
      | some pieces =>
        obtain ⟨path, token⟩ := pieces
        simp only [Option.map_some, Option.bind_some, Numeral.isNumeral_crlf, Numeral.read?_crlf]
        split
        · rw [Text.splitLast_join inner]
          cases Numeral.read? token with
          | none => rfl
          | some line =>
            rw [Option.bind_some, Option.bind_some, Option.pure_def, Option.map_some, List.append_assoc,
              Location.moved_eq]
        · rw [Option.pure_def, Option.map_some, Location.moved_eq]

theorem readSections_crlf (front rest : List Char) (location : Option Location) :
    readSections (crlf (front ++ rest)) (location.map (Location.moved (front ++ rest)))
      (Utf8.size (crlf front)) (crlf rest) =
        (readSections (front ++ rest) location (Utf8.size front) rest).moved := by
  rw [readSections, readSections, splitFirst_separator_crlf]
  cases found : Text.splitFirst separator rest with
  | none => simp only [Option.map_none, Message.moved, String.toList_ofList]
  | some parts =>
    obtain ⟨label, body⟩ := parts
    obtain rfl := Text.splitFirst_join found
    have span := Span.moved_eq (front ++ label ++ separator) body []
    simp only [Text.crlf_append, crlf_separator, Utf8.size_append, List.append_nil,
      List.append_assoc] at span
    simp only [Option.map_some, Message.moved, String.toList_ofList, ofSection_crlf, Text.isEmpty_crlf,
      List.append_assoc]
    split
    · rfl
    · rw [Option.map_some, Nat.add_assoc, Nat.add_assoc, span]

theorem readBlock_crlf (text : List Char) : readBlock (crlf text) = (readBlock text).moved := by
  rw [readBlock, readBlock, splitFirst_separator_crlf]
  cases found : Text.splitFirst separator text with
  | none => simp only [Option.map_none, Message.moved, Message.unstructured, String.toList_ofList]
  | some parts =>
    obtain ⟨first, rest⟩ := parts
    obtain rfl := Text.splitFirst_join found
    simp only [Option.map_some, endsInDigit_crlf]
    split
    · rw [readLocation_crlf first (separator ++ rest)]
      cases readLocation first with
      | none => simp only [Option.map_none, Message.moved, Message.unstructured, String.toList_ofList]
      | some location =>
        have sections := readSections_crlf (first ++ separator) rest (some location)
        simpa only [Option.map_some, Text.crlf_append, crlf_separator, Utf8.size_append,
          List.append_assoc] using sections
    · exact readSections_crlf [] (first ++ separator ++ rest) none

end Reading

/-- The text with CR LF at the end of every line that ended with LF. -/
def withReturns (s : String) : String := String.ofList (crlf s.toList)

/-- The second message is the first one after LF became CR LF: its texts changed alike, its spans moved
along, and the rest is the same. -/
structure Returned (m w : Message) : Prop where
  text_eq : w.text = withReturns m.text
  path_eq : w.path = m.path.map withReturns
  line_eq : w.line = m.line
  column_eq : w.column = m.column
  severity_eq : w.severity = m.severity
  body_eq : w.bodyText = m.bodyText.map withReturns
  pathSpan_eq : w.location.map Location.path =
    (m.location.map Location.path).map (Span.moved m.text.toList)
  bodySpan_eq : w.body = m.body.map (Span.moved m.text.toList)

theorem returned_moved {m : Message}
    (path : ∀ location ∈ m.location, location.path.Within m.text.toList)
    (body : ∀ span ∈ m.body, span.Within m.text.toList) : Returned m m.moved where
  text_eq := rfl
  path_eq := by
    simp only [Message.path, Message.moved, Option.map_map, String.toList_ofList]
    refine Option.map_congr fun location found => ?_
    simp only [Function.comp_apply, Location.moved, (path location found).slice_moved, withReturns,
      String.toList_ofList]
  line_eq := by simp [Message.line, Message.moved, Location.moved, Function.comp_def]
  column_eq := by
    cases found : m.location <;> simp [Message.column, Message.moved, Location.moved, found]
  severity_eq := rfl
  body_eq := by
    simp only [Message.bodyText, Message.moved, Option.map_map, String.toList_ofList]
    refine Option.map_congr fun span found => ?_
    simp only [Function.comp_apply, (body span found).slice_moved, withReturns, String.toList_ofList]
  pathSpan_eq := by simp [Message.moved, Location.moved, Function.comp_def]
  bodySpan_eq := rfl

theorem returned_readBlock (text : List Char) : Returned (readBlock text) (readBlock (crlf text)) := by
  have reads := reads_readBlock text
  have kept := toList_readBlock text
  rw [readBlock_crlf]
  refine returned_moved ?_ ?_
  · rw [kept]
    exact reads.path_within
  · rw [kept]
    exact reads.body_within

/-- An output without carriage returns has one message for each message that it has after LF became
CR LF, in the same order and with the same content. -/
theorem parse_withReturns {output : String} (returnless : '\r' ∉ output.toList) :
    List.Forall₂ Returned (parse output) (parse (withReturns output)) := by
  rw [parse, parse, withReturns, String.toList_ofList, blocks_crlf returnless, List.map_map,
    List.forall₂_map_left_iff, List.forall₂_map_right_iff, List.forall₂_same]
  exact fun block _ => returned_readBlock block

theorem parse_withReturns_folded :
    let output := "x\n y:3: error: b\n  c\nplain\n"
    '\r' ∉ output.toList ∧ List.Forall₂ Returned (parse output) (parse (withReturns output)) ∧
      (parse (withReturns output)).map Message.path = [some "x\r\n y", none] :=
  ⟨by decide +kernel, parse_withReturns (by decide +kernel), by decide +kernel⟩

end Diagnostic

end ShaderDriver
