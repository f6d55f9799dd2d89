import ShaderDriver.Proofs.Diagnostic.Grammar

namespace ShaderDriver.Diagnostic

namespace Located

variable {parts : Located} {path : String} {line : UInt32} {column : Option UInt32}

/-- Reading the header of a located block gives its location. -/
theorem WellFormed.readLocation (wf : parts.WellFormed) (means : parts.Means path line column) :
    readLocation parts.header = some ⟨⟨0, Utf8.size path.toList⟩, line, column⟩ := by
  have lineRead := Numeral.read?_eq_some_iff.2 means.line_denotes
  have lineNumeral := means.line_denotes.numeral
  have plain := colon_not_mem lineNumeral
  have columns := means.column_denotes
  obtain ⟨written, digits, columnDigits, rest⟩ := parts
  obtain rfl := means.path_eq
  simp only at lineRead lineNumeral plain columns
  cases columns with
  | none =>
    have opened := wf.path_open rfl
    simp only at opened
    simp only [header, Diagnostic.readLocation, Text.splitLast_append plain]
    cases inner : Text.splitLast ':' path.toList with
    | none =>
      rw [Text.lastToken_of_not_mem (Text.splitLast_eq_none_iff.1 inner)] at opened
      simp [lineRead, inner, opened]
    | some pieces =>
      rw [Text.splitLast_join inner, Text.lastToken_append (Text.splitLast_missing inner)] at opened
      simp [lineRead, inner, opened]
  | some denotes =>
    have columnRead := Numeral.read?_eq_some_iff.2 denotes
    have columnPlain := colon_not_mem denotes.numeral
    simp only [header, Diagnostic.readLocation, Text.splitLast_append columnPlain]
    simp [Text.splitLast_append plain, lineNumeral, lineRead, columnRead]

end Located

/-- A location is read only from the header of a located block. -/
theorem exists_located_of_readLocation {first : List Char} {location : Location}
    (closed : ¬ separator <:+: first) (found : readLocation first = some location)
    (rest : List Char) :
    ∃ parts : Located, parts.WellFormed ∧ parts.header = first ∧ parts.rest = rest := by
  simp only [readLocation, Option.bind_eq_bind, Option.bind_eq_some_iff, Prod.exists] at found
  obtain ⟨before, last, outer, number, lastRead, found⟩ := found
  have lastDenotes := Numeral.read?_eq_some_iff.1 lastRead
  have joined := Text.splitLast_join outer
  have closedBefore : ¬ separator <:+: before := by
    rw [joined] at closed
    exact (Text.pair_absent_append.1 closed).1
  cases inner : Text.splitLast ':' before with
  | none =>
    simp only [inner] at found
    split at found
    · cases found
    · rename_i opened
      refine ⟨⟨before, last, none, rest⟩, ⟨closedBefore, ⟨number, lastDenotes⟩, ?_, fun _ => ?_⟩, ?_, rfl⟩
      · intro digits written
        cases written
      · rw [Text.lastToken_of_not_mem (Text.splitLast_eq_none_iff.1 inner)]
        simpa using opened
      · exact joined.symm
  | some pieces =>
    obtain ⟨front, token⟩ := pieces
    have innerJoined := Text.splitLast_join inner
    simp only [inner] at found
    split at found
    · simp only [Option.bind_eq_some_iff] at found
      obtain ⟨line, tokenRead, _⟩ := found
      have closedFront : ¬ separator <:+: front := by
        rw [innerJoined] at closedBefore
        exact (Text.pair_absent_append.1 closedBefore).1
      refine ⟨⟨front, token, some last, rest⟩,
        ⟨closedFront, ⟨line, Numeral.read?_eq_some_iff.1 tokenRead⟩, ?_, ?_⟩, ?_, rfl⟩
      · intro digits written
        cases written
        exact ⟨number, lastDenotes⟩
      · intro absent
        cases absent
      · simp only [Located.header, joined, innerJoined]
    · rename_i opened
      refine ⟨⟨before, last, none, rest⟩, ⟨closedBefore, ⟨number, lastDenotes⟩, ?_, fun _ => ?_⟩, ?_, rfl⟩
      · intro digits written
        cases written
      · rw [innerJoined, Text.lastToken_append (Text.splitLast_missing inner)]
        simpa using opened
      · exact joined.symm

/-- What is left of a block when its location is taken away. -/
inductive Remainder (text : List Char) : List Char → Prop
  | located {parts : Located} : parts.WellFormed → parts.block = text → Remainder text parts.rest
  | whole : ¬ IsLocated text →
      (∀ first after, Text.FirstAt separator text first after → endsInDigit first = false) →
      Remainder text text

/-- Severity and body of a remainder. The label stands before the first separator, and an empty body
is none. -/
structure Sections (rest : List Char) (severity : Severity) (body : Option String) : Prop where
  unlabelled : ¬ separator <:+: rest → severity = .unknown ∧ body = none
  warning_iff : ∀ label text, Text.FirstAt separator rest label text →
    (severity = .warning ↔ Text.SameIgnoringCase label "warning".toList)
  error_iff : ∀ label text, Text.FirstAt separator rest label text →
    (severity = .error ↔ Text.SameIgnoringCase label "error".toList)
  otherwise : severity = .warning ∨ severity = .error ∨ severity = .unknown
  body_eq : ∀ label text, Text.FirstAt separator rest label text →
    body = if text = [] then none else some (String.ofList text)

/-- A message as the grammar has it. -/
structure Conforms (m : Message) : Prop where
  location_iff : ∀ path line column,
    (m.path = some path ∧ m.line = some line ∧ m.column = column) ↔
      ∃ parts : Located, parts.WellFormed ∧ parts.block = m.text.toList ∧ parts.Means path line column
  unique : ∀ parts other : Located, parts.WellFormed → other.WellFormed →
    parts.block = m.text.toList → other.block = m.text.toList → parts = other
  absent : ¬ IsLocated m.text.toList → m.path = none ∧ m.line = none ∧ m.column = none
  refused : ∀ first after, Text.FirstAt separator m.text.toList first after →
    endsInDigit first = true → ¬ IsLocated m.text.toList →
      m.path = none ∧ m.line = none ∧ m.column = none ∧ m.bodyText = none ∧ m.severity = .unknown
  sections : ∀ rest, Remainder m.text.toList rest → Sections rest m.severity m.bodyText

/-- Reading the sections of a remainder that `front` precedes. -/
theorem readSections_sections (front rest : List Char) (location : Option Location) :
    Sections rest (readSections (front ++ rest) location (Utf8.size front) rest).severity
      (readSections (front ++ rest) location (Utf8.size front) rest).bodyText := by
  cases found : Text.splitFirst separator rest with
  | none =>
    have absent := Text.splitFirst_eq_none_iff.1 found
    simp only [readSections, found, Message.bodyText]
    refine ⟨fun _ => ⟨rfl, rfl⟩, ?_, ?_, Or.inr (Or.inr rfl), ?_⟩ <;>
      exact fun label text first => absurd first.isInfix absent
  | some pieces =>
    obtain ⟨label, text⟩ := pieces
    have first := Text.splitFirst_eq_some_iff.1 found
    simp only [readSections, found, Message.bodyText]
    refine ⟨fun absent => absurd first.isInfix absent, ?_, ?_, Severity.ofSection_cases label, ?_⟩
    · intro label' text' first'
      obtain ⟨rfl, rfl⟩ := first.unique first'
      exact Severity.ofSection_eq_warning_iff
    · intro label' text' first'
      obtain ⟨rfl, rfl⟩ := first.unique first'
      exact Severity.ofSection_eq_error_iff
    · intro label' text' first'
      obtain ⟨rfl, rfl⟩ := first.unique first'
      by_cases empty : text = []
      · simp [empty]
      · have covered := Span.slice_append (front ++ label ++ separator) text []
        simp only [Utf8.size_append, List.append_nil] at covered
        simp only [List.append_assoc] at covered
        simp [empty, first.joined, covered]

theorem Sections.severity_eq {rest label text : List Char} {severity : Severity}
    {body : Option String} (sections : Sections rest severity body)
    (found : Text.FirstAt separator rest label text) : severity = Severity.ofSection label := by
  have warning := (sections.warning_iff label text found).trans Severity.ofSection_eq_warning_iff.symm
  have error := (sections.error_iff label text found).trans Severity.ofSection_eq_error_iff.symm
  rcases Severity.ofSection_cases label with same | same | same
  · rw [same, warning, same]
  · rw [same, error, same]
  · rcases sections.otherwise with given | given | given
    · exact given.trans (warning.1 given).symm
    · exact given.trans (error.1 given).symm
    · exact given.trans same.symm

theorem readSections_text (text rest : List Char) (location : Option Location) (offset : Nat) :
    (readSections text location offset rest).text = String.ofList text := by
  unfold readSections
  split <;> rfl

theorem readSections_location (text rest : List Char) (location : Option Location) (offset : Nat) :
    (readSections text location offset rest).location = location := by
  unfold readSections
  split <;> rfl

theorem readBlock_text (text : List Char) : (readBlock text).text = String.ofList text := by
  unfold readBlock
  split
  · rfl
  · split
    · split
      · exact readSections_text ..
      · rfl
    · exact readSections_text ..

theorem toList_readBlock (text : List Char) : (readBlock text).text.toList = text := by
  rw [readBlock_text, String.toList_ofList]

theorem Located.WellFormed.readBlock {parts : Located} {path : String} {line : UInt32}
    {column : Option UInt32} (wf : parts.WellFormed) (means : parts.Means path line column) :
    readBlock parts.block =
      readSections parts.block (some ⟨⟨0, Utf8.size path.toList⟩, line, column⟩)
        (Utf8.size (parts.header ++ separator)) parts.rest := by
  have first := Text.splitFirst_eq_some_iff.2 wf.firstAt
  simp [Diagnostic.readBlock, first, wf.endsInDigit, wf.readLocation means]

/-- A text whose first section ends in a digit and is no location is kept as it is. -/
theorem readBlock_refused {text first after : List Char}
    (found : Text.FirstAt separator text first after) (digit : endsInDigit first = true)
    (unlocated : ¬ IsLocated text) : readBlock text = .unstructured (String.ofList text) := by
  simp only [readBlock, Text.splitFirst_eq_some_iff.2 found, digit, if_true]
  cases read : readLocation first with
  | none => rfl
  | some location =>
    obtain ⟨parts, wf, header, rest⟩ :=
      exists_located_of_readLocation (found.absent (by decide)) read after
    exact absurd ⟨parts, wf, by rw [Located.block, header, rest, ← found.joined]⟩ unlocated

/-- A text whose first section does not end in a digit has no location. -/
theorem readBlock_whole {text : List Char}
    (digitless : ∀ first after, Text.FirstAt separator text first after → endsInDigit first = false) :
    readBlock text = readSections text none 0 text := by
  cases found : Text.splitFirst separator text with
  | none => simp only [readBlock, readSections, found]; rfl
  | some pieces =>
    have none := digitless pieces.1 pieces.2 (Text.splitFirst_eq_some_iff.1 found)
    simp only [readBlock, found, none, Bool.false_eq_true, if_false]

theorem not_isLocated_of_digitless {text : List Char}
    (digitless : ∀ first after, Text.FirstAt separator text first after → endsInDigit first = false) :
    ¬ IsLocated text := by
  rintro ⟨parts, wf, rfl⟩
  have digit := wf.endsInDigit
  rw [digitless _ _ wf.firstAt] at digit
  cases digit

theorem conforms_located {parts : Located} (wf : parts.WellFormed) :
    Conforms (readBlock parts.block) := by
  obtain ⟨line, column, means⟩ := wf.means
  have text := toList_readBlock parts.block
  have location : (readBlock parts.block).location =
      some ⟨⟨0, Utf8.size parts.path⟩, line, column⟩ := by
    rw [wf.readBlock means, readSections_location, String.toList_ofList]
  have path : (readBlock parts.block).path = some (String.ofList parts.path) := by
    obtain ⟨after, joined⟩ := parts.exists_block_eq
    have covered := Span.slice_append [] parts.path after
    simp only [List.nil_append] at covered
    rw [Message.path, location, text, joined]
    exact congrArg (fun cs => some (String.ofList cs)) covered
  have located : IsLocated (readBlock parts.block).text.toList := ⟨parts, wf, text.symm⟩
  refine ⟨?_, ?_, fun unlocated => absurd located unlocated,
    fun _ _ _ _ unlocated => absurd located unlocated, ?_⟩
  · intro path' line' column'
    simp only [path, Message.line, Message.column, location, text]
    constructor
    · rintro ⟨pathSame, lineSame, columnSame⟩
      cases pathSame
      cases lineSame
      cases columnSame
      exact ⟨parts, wf, rfl, means⟩
    · rintro ⟨other, wf', same, means'⟩
      obtain rfl := wf'.unique wf same
      obtain ⟨rfl, rfl, rfl⟩ := means.unique means'
      exact ⟨rfl, rfl, rfl⟩
  · intro one other wf₁ wf₂ same₁ same₂
    exact wf₁.unique wf₂ (same₁.trans same₂.symm)
  · rw [text]
    intro rest remainder
    cases remainder with
    | located wf' same =>
      obtain rfl := wf'.unique wf same
      rw [wf.readBlock means]
      exact readSections_sections _ _ _
    | whole unlocated => exact absurd ⟨parts, wf, rfl⟩ unlocated

theorem conforms_unlocated {text : List Char} (unlocated : ¬ IsLocated text) :
    Conforms (readBlock text) := by
  have kept := toList_readBlock text
  have refused : ∀ first after, Text.FirstAt separator text first after → endsInDigit first = true →
      readBlock text = .unstructured (String.ofList text) :=
    fun _ _ found digit => readBlock_refused found digit unlocated
  have location : (readBlock text).location = none := by
    by_cases digitless : ∀ first after, Text.FirstAt separator text first after →
        endsInDigit first = false
    · rw [readBlock_whole digitless, readSections_location]
    · push Not at digitless
      obtain ⟨first, after, found, digit⟩ := digitless
      rw [refused first after found (by simpa using digit)]
      rfl
  have absent : (readBlock text).path = none ∧ (readBlock text).line = none ∧
      (readBlock text).column = none := by
    simp [Message.path, Message.line, Message.column, location]
  refine ⟨?_, ?_, fun _ => absent, ?_, ?_⟩
  · intro path line column
    constructor
    · rintro ⟨found, _⟩
      rw [absent.1] at found
      cases found
    · rintro ⟨parts, wf, same, _⟩
      exact absurd ⟨parts, wf, same.trans kept⟩ unlocated
  · intro parts other wf _ same _
    exact absurd ⟨parts, wf, same.trans kept⟩ unlocated
  · rw [kept]
    intro first after found digit _
    refine ⟨absent.1, absent.2.1, absent.2.2, ?_⟩
    rw [refused first after found digit]
    exact ⟨rfl, rfl⟩
  · rw [kept]
    intro rest remainder
    cases remainder with
    | located wf same => exact absurd ⟨_, wf, same⟩ unlocated
    | whole _ digitless =>
      rw [readBlock_whole digitless]
      exact readSections_sections [] text none

theorem readBlock_conforms (text : List Char) : Conforms (readBlock text) := by
  by_cases located : IsLocated text
  · obtain ⟨parts, wf, rfl⟩ := located
    exact conforms_located wf
  · exact conforms_unlocated located

/-- Every message of a compiler's output is what the grammar makes of its text. -/
theorem parse_conforms (output : String) : ∀ m ∈ parse output, Conforms m := by
  intro m listed
  obtain ⟨block, _, rfl⟩ := List.mem_map.1 listed
  exact readBlock_conforms block

theorem parse_conforms_drive_path :
    let m : Message := ⟨"C:\\a.hlsl:3:5: Error: bad\n    ^", some ⟨⟨0, 9⟩, 3, some 5⟩, .error, some ⟨22, 9⟩⟩
    m ∈ parse "C:\\a.hlsl:3:5: Error: bad\n    ^\n" ∧ Conforms m :=
  ⟨by decide +kernel, parse_conforms "C:\\a.hlsl:3:5: Error: bad\n    ^\n" _ (by decide +kernel)⟩

end ShaderDriver.Diagnostic
