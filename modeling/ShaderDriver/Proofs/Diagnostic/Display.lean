import ShaderDriver.Proofs.Diagnostic.Reparsing

namespace ShaderDriver

/-- The second message says what the first one says; their texts may differ. -/
structure Message.Agrees (m w : Message) : Prop where
  path_eq : w.path = m.path
  line_eq : w.line = m.line
  column_eq : w.column = m.column
  severity_eq : w.severity = m.severity
  body_eq : w.bodyText = m.bodyText

theorem Message.display_eq_intercalate {m : Message} (known : m.severity ≠ .unknown) :
    m.display =
      ": ".intercalate (m.locationText.toList ++ [m.severity.label] ++ m.bodyText.toList) := by
  unfold display
  simp only [if_neg known, Option.toList_some]
  split
  · next none => simp at none
  · rfl

theorem Message.Agrees.display_eq {m w : Message} (agrees : m.Agrees w) (known : m.severity ≠ .unknown) :
    w.display = m.display := by
  have known' : w.severity ≠ .unknown := agrees.severity_eq ▸ known
  have location : w.locationText = m.locationText := by
    rw [locationText, locationText, agrees.path_eq, agrees.line_eq, agrees.column_eq]
  rw [display_eq_intercalate known, display_eq_intercalate known', location, agrees.severity_eq,
    agrees.body_eq]

namespace Diagnostic

section Lines

variable {cs ds front middle middle' back : List Char}

theorem continuesBlock_congr (same : cs.head? = ds.head?) : continuesBlock cs = continuesBlock ds := by
  have iff : continuesBlock cs = false ↔ continuesBlock ds = false := by
    rw [continuesBlock_eq_false_iff, continuesBlock_eq_false_iff, same]
  rwa [← Bool.not_eq_true, ← Bool.not_eq_true, not_iff_not, Bool.coe_iff_coe] at iff

/-- What is rewritten inside a line breaks nothing if it starts as before. -/
theorem Unbroken.splice (unbroken : Unbroken (front ++ middle ++ back)) (some : middle ≠ [])
    (same : middle'.head? = middle.head?) (inline : ∀ c ∈ middle', isLineEnd c = false) :
    Unbroken (front ++ middle' ++ back) := by
  induction front with
  | nil => exact unbroken.of_append.prepend inline
  | cons c front ih =>
    rw [List.cons_append, List.cons_append, unbroken_cons] at unbroken ⊢
    have head : (front ++ middle' ++ back).head? = (front ++ middle ++ back).head? := by
      simp only [List.head?_append, same]
    refine ⟨fun broken _ => ?_, ih unbroken.2⟩
    rw [continuesBlock_congr head]
    refine unbroken.1 ?_ (by simp [some])
    simpa only [LineBreak, head] using broken

end Lines

/-- Severity and body as they are printed. -/
def printedSections (severity : Severity) (body : List Char) : List Char :=
  severity.label.toList ++ separator ++ body

section Sections

variable {severity : Severity} {body rest : List Char}

theorem ne_unknown (known : severity = .warning ∨ severity = .error) : severity ≠ .unknown := by
  rcases known with rfl | rfl <;> nofun

theorem label_printed (known : severity = .warning ∨ severity = .error) :
    ¬ separator <:+: severity.label.toList ∧ Severity.ofSection severity.label.toList = severity ∧
      endsInDigit severity.label.toList = false ∧
      ∀ c ∈ severity.label.toList ++ separator, isLineEnd c = false := by
  rcases known with rfl | rfl <;>
    exact ⟨Text.pair_absent_of_not_mem_right (by decide), by decide, by decide,
      inline_of_not_mem (by decide) (by decide)⟩

theorem firstAt_printedSections (known : severity = .warning ∨ severity = .error) (body : List Char) :
    Text.FirstAt separator (printedSections severity body) severity.label.toList body :=
  Text.firstAt_pair separator_ne (label_printed known).1 body

/-- The sections that are printed are read as they were. -/
theorem Sections.of_printed {read : Severity} {text : Option String}
    (sections : Sections (printedSections severity body) read text)
    (known : severity = .warning ∨ severity = .error) (some : body ≠ []) :
    read = severity ∧ text = Option.some (String.ofList body) := by
  have first := firstAt_printedSections known body
  refine ⟨(sections.severity_eq first).trans (label_printed known).2.1, ?_⟩
  rw [sections.body_eq _ _ first, if_neg some]

/-- A severity and a body come from a label without line ends and what follows it. -/
theorem Sections.said {text : String} (sections : Sections rest severity (some text))
    (known : severity = .warning ∨ severity = .error) :
    text.toList ≠ [] ∧ ∃ label, rest = label ++ separator ++ text.toList ∧
      ∀ c ∈ label, isLineEnd c = false := by
  cases found : Text.splitFirst separator rest with
  | none =>
    cases (sections.unlabelled (Text.splitFirst_eq_none_iff.1 found)).2
  | some parts =>
    obtain ⟨label, behind⟩ := parts
    have first := Text.splitFirst_eq_some_iff.1 found
    have said := sections.body_eq label behind first
    split at said
    · cases said
    · next some =>
      cases said
      rw [String.toList_ofList]
      refine ⟨some, label, first.joined, ?_⟩
      rcases known with warning | error
      · have same := (sections.warning_iff label behind first).1 warning
        exact inline_of_not_mem (same.not_mem (by decide)) (same.not_mem (by decide))
      · have same := (sections.error_iff label behind first).1 error
        exact inline_of_not_mem (same.not_mem (by decide)) (same.not_mem (by decide))

end Sections

namespace Located

/-- The same place with its numbers as they are printed, in front of another rest. -/
def rewritten (parts : Located) (line : UInt32) (column : Option UInt32) (rest : List Char) : Located where
  path := parts.path
  line := Numeral.digits line.toNat
  column := column.map fun n => Numeral.digits n.toNat
  rest := rest

variable {parts : Located} {path : String} {line : UInt32} {column : Option UInt32}

theorem WellFormed.rewritten (wf : parts.WellFormed) (means : parts.Means path line column)
    (rest : List Char) : (parts.rewritten line column rest).WellFormed where
  path_closed := wf.path_closed
  line_word := ⟨line, Numeral.digits_denotes line⟩
  column_word := by
    intro digits written
    obtain ⟨n, _, rfl⟩ := Option.map_eq_some_iff.1 written
    exact ⟨n, Numeral.digits_denotes n⟩
  path_open := by
    intro absent
    have columns := means.column_denotes
    rw [Option.map_eq_none_iff.1 absent] at columns
    refine wf.path_open ?_
    generalize parts.column = written at columns
    cases columns
    rfl

theorem Means.rewritten (means : parts.Means path line column) (rest : List Char) :
    (parts.rewritten line column rest).Means path line column where
  path_eq := means.path_eq
  line_denotes := Numeral.digits_denotes line
  column_denotes := by
    unfold Located.rewritten
    cases column with
    | none => exact .none
    | some n => exact .some (Numeral.digits_denotes n)

/-- Behind the path of a header stand numerals and colons. -/
theorem WellFormed.exists_place (wf : parts.WellFormed) :
    ∃ place, parts.header = parts.path ++ ':' :: place ∧ ∀ c ∈ place, isLineEnd c = false := by
  have inline {digits : List Char} {n : UInt32} (denotes : Numeral.Denotes digits n) :
      ∀ c ∈ digits, isLineEnd c = false :=
    inline_of_not_mem (Numeral.not_mem denotes.numeral rfl) (Numeral.not_mem denotes.numeral rfl)
  obtain ⟨line, denotes⟩ := wf.line_word
  unfold header
  split
  · exact ⟨parts.line, rfl, inline denotes⟩
  · next digits written =>
    obtain ⟨column, columnDenotes⟩ := wf.column_word digits written
    refine ⟨parts.line ++ ':' :: digits, by simp, ?_⟩
    rw [List.forall_mem_append, List.forall_mem_cons]
    exact ⟨inline denotes, rfl, inline columnDenotes⟩

end Located

/-- What follows the path or starts the block is written anew up to the body, and the text is a block as
before. -/
theorem IsBlock.splice {front middle middle' body : List Char} (block : IsBlock (front ++ middle ++ body))
    (unbroken : Unbroken (front ++ middle' ++ body)) (some : body ≠ []) (colon : ':' ∈ middle') :
    IsBlock (front ++ middle' ++ body) where
  visible := List.all_eq_false.2 ⟨':', by simp [colon], by decide⟩
  ended := by
    have ended := block.ended
    rw [List.getLast?_append_of_ne_nil _ some] at ended ⊢
    exact ended
  unbroken := unbroken

section Messages

variable {text : List Char} {body : String}

/-- A message without a location prints its severity and its body. -/
theorem display_unlocated {m : Message} (unlocated : m.path = none)
    (known : m.severity = .warning ∨ m.severity = .error) (said : m.bodyText = some body) :
    m.display.toList = printedSections m.severity body.toList := by
  rw [Message.display_eq_intercalate (ne_unknown known), Message.locationText, unlocated, said,
    String.toList_intercalate]
  simp [printedSections, separator, List.intercalate_cons_cons]

/-- A message with a location prints the place with its numbers written anew. -/
theorem display_located {m : Message} {parts : Located} {path : String} {line : UInt32}
    {column : Option UInt32} (means : parts.Means path line column) (atPath : m.path = some path)
    (atLine : m.line = some line) (atColumn : m.column = column)
    (known : m.severity = .warning ∨ m.severity = .error) (said : m.bodyText = some body) :
    m.display.toList =
      (parts.rewritten line column (printedSections m.severity body.toList)).block := by
  rw [Message.display_eq_intercalate (ne_unknown known), Message.locationText, atPath, atLine, atColumn, said,
    String.toList_intercalate]
  simp only [Located.block, Located.header, Located.rewritten, means.path_eq, printedSections, Numeral.digits]
  cases column <;>
    simp [separator, List.intercalate_cons_cons, Nat.toString_eq_repr, Nat.toList_repr]

end Messages

section Readings

variable {m : Message} {parts : Located} {severity : Severity} {body : List Char}

theorem isBlock_rewritten {path : String} {line : UInt32} {column : Option UInt32} {label : List Char}
    (wf : parts.WellFormed) (means : parts.Means path line column) (block : IsBlock parts.block)
    (rest : parts.rest = label ++ separator ++ body) (some : body ≠ [])
    (known : severity = .warning ∨ severity = .error) :
    IsBlock (parts.rewritten line column (printedSections severity body)).block := by
  obtain ⟨place, header, -⟩ := wf.exists_place
  obtain ⟨place', header', inline⟩ := (wf.rewritten means (printedSections severity body)).exists_place
  have named := (label_printed known).2.2.2
  have old : parts.block = parts.path ++ (':' :: place ++ separator ++ (label ++ separator)) ++ body := by
    rw [Located.block, header, rest]
    simp only [List.append_assoc]
  have new : (parts.rewritten line column (printedSections severity body)).block = parts.path ++
      (':' :: place' ++ separator ++ (severity.label.toList ++ separator)) ++ body := by
    rw [Located.block, header']
    simp only [Located.rewritten, printedSections, List.append_assoc]
  have inline' : ∀ c ∈ ':' :: place' ++ separator ++ (severity.label.toList ++ separator),
      isLineEnd c = false := by
    simp only [List.forall_mem_append, List.forall_mem_cons]
    exact ⟨⟨⟨rfl, inline⟩, inline_of_not_mem (by decide) (by decide)⟩, List.forall_mem_append.1 named⟩
  rw [old] at block
  rw [new]
  exact block.splice (block.unbroken.splice (by simp) rfl inline') some (by simp)

/-- A message at the same place, with the printed sections behind it, says the same. -/
theorem Conforms.agrees {w : Message} (conforms : Conforms w)
    (remainder : Remainder w.text.toList (printedSections m.severity body))
    (known : m.severity = .warning ∨ m.severity = .error) (some : body ≠ [])
    (said : m.bodyText = Option.some (String.ofList body))
    (place : w.path = m.path ∧ w.line = m.line ∧ w.column = m.column) : m.Agrees w := by
  obtain ⟨severity_eq, body_eq⟩ := (conforms.sections _ remainder).of_printed known some
  exact ⟨place.1, place.2.1, place.2.2, severity_eq, body_eq.trans said.symm⟩

/-- A located message is read from what it prints, and so is one without a location. -/
theorem Conforms.display_located (conforms : Conforms m) (block : IsBlock m.text.toList)
    (wf : parts.WellFormed) (same : parts.block = m.text.toList)
    (known : m.severity = .warning ∨ m.severity = .error) (said : m.bodyText = some (String.ofList body)) :
    IsBlock m.display.toList ∧ m.Agrees (readBlock m.display.toList) := by
  obtain ⟨line, column, means⟩ := wf.means
  obtain ⟨atPath, atLine, atColumn⟩ := (conforms.location_iff _ line column).2 ⟨parts, wf, same, means⟩
  have sections := conforms.sections parts.rest (same ▸ .located wf rfl)
  rw [said] at sections
  obtain ⟨some, label, rest, -⟩ := sections.said known
  rw [String.toList_ofList] at some rest
  have shown := Diagnostic.display_located means atPath atLine atColumn known said
  rw [String.toList_ofList] at shown
  have wf' := wf.rewritten means (printedSections m.severity body)
  have means' := means.rewritten (printedSections m.severity body)
  rw [shown]
  refine ⟨isBlock_rewritten wf means (same ▸ block) rest some known, ?_⟩
  have conforms' := readBlock_conforms (parts.rewritten line column (printedSections m.severity body)).block
  obtain ⟨path_eq, line_eq, column_eq⟩ :=
    (conforms'.location_iff _ _ _).2 ⟨_, wf', (toList_readBlock _).symm, means'⟩
  refine conforms'.agrees ?_ known some said
    ⟨path_eq.trans atPath.symm, line_eq.trans atLine.symm, column_eq.trans atColumn.symm⟩
  rw [toList_readBlock]
  exact .located wf' rfl

theorem Conforms.display_unlocated (conforms : Conforms m) (block : IsBlock m.text.toList)
    (unlocated : ¬ IsLocated m.text.toList)
    (known : m.severity = .warning ∨ m.severity = .error) (said : m.bodyText = some (String.ofList body)) :
    IsBlock m.display.toList ∧ m.Agrees (readBlock m.display.toList) := by
  obtain ⟨noPath, noLine, noColumn⟩ := conforms.absent unlocated
  have digitless : ∀ first after, Text.FirstAt separator m.text.toList first after →
      endsInDigit first = false := by
    intro first after found
    by_contra digit
    rw [Bool.not_eq_false] at digit
    rw [(conforms.refused first after found digit unlocated).2.2.2.2] at known
    simp at known
  have sections := conforms.sections _ (.whole unlocated digitless)
  rw [said] at sections
  obtain ⟨some, label, whole, -⟩ := sections.said known
  rw [String.toList_ofList] at some whole
  have shown := Diagnostic.display_unlocated noPath known said
  rw [String.toList_ofList] at shown
  rw [shown]
  have named := label_printed known
  constructor
  · have block' : IsBlock ([] ++ (label ++ separator) ++ body) := whole ▸ block
    have unbroken : Unbroken (printedSections m.severity body) :=
      block'.unbroken.of_append.prepend named.2.2.2
    exact block'.splice unbroken some (by simp [separator])
  · have digitless' : ∀ first after, Text.FirstAt separator (printedSections m.severity body) first after →
        endsInDigit first = false := by
      intro first after found
      obtain ⟨rfl, rfl⟩ := found.unique (firstAt_printedSections known body)
      exact named.2.2.1
    have unlocated' := not_isLocated_of_digitless digitless'
    have conforms' := readBlock_conforms (printedSections m.severity body)
    obtain ⟨path_eq, line_eq, column_eq⟩ := conforms'.absent (by rwa [toList_readBlock])
    refine conforms'.agrees ?_ known some said
      ⟨path_eq.trans noPath.symm, line_eq.trans noLine.symm, column_eq.trans noColumn.symm⟩
    rw [toList_readBlock]
    exact .whole unlocated' digitless'

theorem Conforms.display (conforms : Conforms m) (block : IsBlock m.text.toList)
    (known : m.severity = .warning ∨ m.severity = .error) (said : m.bodyText ≠ none) :
    IsBlock m.display.toList ∧ m.Agrees (readBlock m.display.toList) := by
  obtain ⟨text, some⟩ := Option.ne_none_iff_exists'.1 said
  rw [← String.ofList_toList (s := text)] at some
  by_cases located : IsLocated m.text.toList
  · obtain ⟨parts, wf, same⟩ := located
    exact conforms.display_located block wf same known some
  · exact conforms.display_unlocated block located known some

end Readings

/-- A warning or an error that says something is read from what it prints: as the only message, with the
same path, line, column, severity and body. It then prints the same again. -/
theorem parse_display {output : String} {m : Message} (listed : m ∈ parse output)
    (known : m.severity = .warning ∨ m.severity = .error) (said : m.bodyText ≠ none) :
    ∃ w, parse m.display = [w] ∧ m.Agrees w ∧ w.display = m.display := by
  obtain ⟨text, among, rfl⟩ := List.mem_map.1 listed
  have block := isBlock_of_mem among
  rw [← toList_readBlock text] at block
  obtain ⟨alone, agrees⟩ := (readBlock_conforms text).display block known said
  refine ⟨readBlock (readBlock text).display.toList, ?_, agrees, agrees.display_eq (ne_unknown known)⟩
  rw [parse, alone.blocks, List.map_singleton]

theorem parse_display_respelled :
    let output := "\tx\n y:007: ERROR: b: \n  c\n"
    let m := readBlock "\tx\n y:007: ERROR: b: \n  c".toList
    m ∈ parse output ∧ (m.severity = .warning ∨ m.severity = .error) ∧ m.bodyText ≠ none ∧
      m.display = "\tx\n y:7: Error: b: \n  c" ∧
      ∃ w, parse m.display = [w] ∧ m.Agrees w ∧ w.display = m.display := by
  intro output m
  have listed : m ∈ parse output := by decide +kernel
  have known : m.severity = .warning ∨ m.severity = .error := by decide +kernel
  have said : m.bodyText ≠ none := by decide +kernel
  exact ⟨listed, known, said, by decide +kernel, parse_display listed known said⟩

end Diagnostic

end ShaderDriver
