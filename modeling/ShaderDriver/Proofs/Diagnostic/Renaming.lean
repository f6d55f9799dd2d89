import ShaderDriver.Proofs.Diagnostic.RoundTrip
import ShaderDriver.Proofs.Text.Replacement

namespace ShaderDriver.Diagnostic

/-- A name that a source can have in front of a line and a column. -/
structure SourceName where
  text : List Char
  nonempty : text ≠ []
  closed : ¬ separator <:+: text
  inline : ∀ c ∈ text, isLineEnd c = false
  opening : continuesBlock text = false
  numberless : Numeral.isNumeral (Text.lastToken ':' text) = false

namespace SourceName

/-- A name starts neither a line that continues a block nor with a line end. -/
theorem head?_ne (name : SourceName) {c : Char} (special : continuesBlock [c] = true ∨ isLineEnd c = true) :
    name.text.head? ≠ some c := by
  intro starts
  obtain ⟨rest, joined⟩ := List.head?_eq_some_iff.1 starts
  rcases special with continues | ended
  · have opening := name.opening
    rw [joined, ← List.singleton_append, continuesBlock_append (by simp), continues] at opening
    cases opening
  · have inline := name.inline c (joined ▸ List.mem_cons_self)
    rw [ended] at inline
    cases inline

/-- A section in which a name does not lie stays, and so does the separator behind it. -/
theorem replaceAll_section {staged : SourceName} (new : List Char) {c : Char} (member : c ∈ staged.text)
    {word : List Char} (missing : c ∉ word ++ separator) (rest : List Char) :
    Text.replaceAll staged.text new (word ++ separator ++ rest) =
      word ++ separator ++ Text.replaceAll staged.text new rest := by
  have absent : ¬ staged.text <:+: word ++ separator := fun inside => missing (inside.subset member)
  rw [Text.replaceAll_append staged.nonempty, Text.replaceAll_of_absent absent]
  rintro earlier later some - ⟨front, joined⟩ - across
  -- The name would hold the separator, or start with the space at its end.
  rcases List.append_eq_append_iff.1 joined with ⟨tail, _, split⟩ | ⟨colon, _, split⟩
  · exact staged.closed ⟨tail, later, by rw [across, split]⟩
  · rcases colon with _ | ⟨c, _ | ⟨d, colon⟩⟩
    · exact staged.closed ⟨[], later, by rw [across, split]; rfl⟩
    · obtain ⟨-, rfl⟩ : c = ':' ∧ earlier = [' '] := by simpa [separator, eq_comm] using split
      exact staged.head?_ne (c := ' ') (Or.inl rfl) (by rw [across]; rfl)
    · simp [separator, some] at split

end SourceName

/-- Replacing a name by another inside the lines of a text leaves every line a continuation that was. -/
theorem Unbroken.replaced {staged name : SourceName} {cs ds : List Char}
    (replaced : Text.Replaced staged.text name.text cs ds) (unbroken : Unbroken cs) : Unbroken ds := by
  induction replaced with
  | done => exact unbroken
  | find _ ih => exact (ih unbroken.of_append).prepend name.inline
  | @keep c cs ds _ replaced ih =>
    -- If the character kept ends a line now, it did before: a line feed behind it would have stayed.
    obtain ⟨first, others⟩ := unbroken_cons.1 unbroken
    refine unbroken_cons.2 ⟨fun broken more => ?_, ih others⟩
    have more' : cs ≠ [] := mt (replaced.eq_nil_iff staged.nonempty name.nonempty).2 more
    have broken' : LineBreak [c] cs := by
      refine broken.imp_right fun ⟨carriage, free⟩ => ⟨carriage, fun feed => free ?_⟩
      exact replaced.head? staged.nonempty feed (staged.head?_ne (Or.inr rfl))
    have continues := first broken' more'
    obtain ⟨d, rest, rfl⟩ := List.exists_cons_of_ne_nil more'
    rw [← List.singleton_append, continuesBlock_append (by simp)] at continues
    have head := replaced.head? staged.nonempty rfl (staged.head?_ne (Or.inl continues))
    obtain ⟨rest', rfl⟩ := List.head?_eq_some_iff.1 head
    rwa [← List.singleton_append, continuesBlock_append (by simp)]

/-- A warning or an error at some place of a source. -/
structure Remark where
  line : UInt32
  column : Option UInt32
  severity : Severity
  label : List Char
  body : List Char
  label_says : (severity = .warning ∧ Text.SameIgnoringCase label "warning".toList) ∨
    (severity = .error ∧ Text.SameIgnoringCase label "error".toList)
  body_nonempty : body ≠ []
  body_ended : ∀ c ∈ body.getLast?, isLineEnd c = false
  body_unbroken : Unbroken body

namespace Remark

def place (remark : Remark) : List Char :=
  ':' :: Numeral.digits remark.line.toNat ++
    (remark.column.elim [] fun column => ':' :: Numeral.digits column.toNat)

/-- The printed form with a name of the source: `name:line:column: label: body`. -/
def printed (remark : Remark) (name : List Char) : List Char :=
  name ++ (remark.place ++ separator ++ (remark.label ++ separator ++ remark.body))

theorem not_mem_label (remark : Remark) {c : Char} (other : c.toLower ∉ "warning".toList ++ "error".toList) :
    c ∉ remark.label := by
  rw [List.mem_append, not_or] at other
  rcases remark.label_says with ⟨-, same⟩ | ⟨-, same⟩
  · exact same.not_mem other.1
  · exact same.not_mem other.2

theorem severity_of_label (remark : Remark) : Severity.ofSection remark.label = remark.severity := by
  rcases remark.label_says with ⟨severity, same⟩ | ⟨severity, same⟩
  · rw [severity]
    exact Severity.ofSection_eq_warning_iff.2 same
  · rw [severity]
    exact Severity.ofSection_eq_error_iff.2 same

theorem not_mem_place (remark : Remark) {c : Char} (other : c ≠ ':') (noDigit : c.isDigit = false) :
    c ∉ remark.place := by
  have missing (n : UInt32) : c ∉ Numeral.digits n.toNat :=
    Numeral.not_mem (Numeral.digits_denotes n).numeral noDigit
  unfold place
  cases remark.column <;> simp [other, missing]

def record (remark : Remark) (name : SourceName) : Record where
  origin := some
    { path := name.text
      line := remark.line
      column := remark.column
      path_closed := name.closed
      path_inline := name.inline
      path_opening := name.opening
      path_open := fun _ => name.numberless }
  label := remark.label
  body := remark.body
  label_closed := Text.pair_absent_of_not_mem_right (remark.not_mem_label (by decide))
  label_inline := inline_of_not_mem (remark.not_mem_label (by decide)) (remark.not_mem_label (by decide))
  label_known := nofun
  body_nonempty := remark.body_nonempty
  body_ended := remark.body_ended
  body_unbroken := remark.body_unbroken

theorem record_printed (remark : Remark) (name : SourceName) :
    (remark.record name).printed = remark.printed name.text := by
  simp only [Record.printed, record, Located.block, Located.header, Origin.located, Record.sections,
    printed, place]
  cases remark.column <;> simp

def renamed (remark : Remark) (staged name : SourceName) : Remark :=
  have replaced := Text.replaceAll_replaced staged.nonempty name.text remark.body
  { remark with
    body := Text.replaceAll staged.text name.text remark.body
    body_nonempty :=
      mt (replaced.eq_nil_iff staged.nonempty name.nonempty).1 remark.body_nonempty
    body_ended := replaced.getLast? staged.nonempty name.nonempty name.inline remark.body_ended
    body_unbroken := remark.body_unbroken.replaced replaced }

theorem replaceAll_printed {staged name : SourceName} (dotted : '.' ∈ staged.text) (remark : Remark)
    (rest : List Char) :
    Text.replaceAll staged.text name.text (remark.printed staged.text ++ '\n' :: rest) =
      (remark.renamed staged name).printed name.text ++
        '\n' :: Text.replaceAll staged.text name.text rest := by
  have noFeed : '\n' ∉ staged.text := fun member => by
    have inline := staged.inline _ member
    cases inline
  have place : '.' ∉ remark.place ++ separator := by
    simp [remark.not_mem_place (c := '.') (by decide) (by decide), separator]
  have label : '.' ∉ remark.label ++ separator := by
    simp [remark.not_mem_label (c := '.') (by decide), separator]
  rw [Text.replaceAll_append_cons staged.nonempty noFeed, printed, Text.replaceAll_start staged.nonempty,
    SourceName.replaceAll_section name.text dotted place,
    SourceName.replaceAll_section name.text dotted label]
  rfl

end Remark

/-- Remarks about a source of a name, each with its line end. -/
def remarks (name : List Char) (list : List Remark) : List Char :=
  list.flatMap fun remark => remark.printed name ++ ['\n']

theorem replaceAll_remarks {staged name : SourceName} (dotted : '.' ∈ staged.text) (list : List Remark) :
    Text.replaceAll staged.text name.text (remarks staged.text list) =
      remarks name.text (list.map fun remark => remark.renamed staged name) := by
  induction list with
  | nil => exact Text.replaceAll_nil staged.nonempty
  | cons remark list ih =>
    rw [remarks, List.flatMap_cons, ← remarks, List.append_assoc, List.singleton_append,
      remark.replaceAll_printed dotted, ih, List.map_cons, remarks, remarks, List.flatMap_cons,
      List.append_assoc, List.singleton_append]

/-- What a message says of a remark, under a name of the source and with a body. -/
structure Tells (name : String) (body : List Char) (remark : Remark) (m : Message) : Prop where
  path_eq : m.path = some name
  line_eq : m.line = some remark.line
  column_eq : m.column = remark.column
  severity_eq : m.severity = remark.severity
  body_eq : m.bodyText = some (String.ofList body)

theorem parse_remarks (name : SourceName) (list : List Remark) :
    List.Forall₂ (fun remark m => Tells (String.ofList name.text) remark.body remark m) list
      (parse (String.ofList (remarks name.text list))) := by
  let entry (remark : Remark) : Entry := ⟨remark.record name, .feed, []⟩
  have printed : listing (list.map entry) = String.ofList (remarks name.text list) := by
    simp only [listing, remarks, List.flatMap_map, Entry.written, entry, Terminator.text,
      List.flatMap_nil, List.append_nil, Remark.record_printed]
  rw [← printed]
  refine (List.forall₂_map_left_iff.1 (parse_listing (list.map entry))).imp fun remark m reports => ?_
  exact ⟨reports.path_eq, reports.line_eq, reports.column_eq,
    reports.severity_eq.trans remark.severity_of_label, reports.body_eq⟩

/-- Messages that tell of the same remarks agree in number for every choice of severities. -/
theorem countP_of_tells {name : String} {body : Remark → List Char} {list : List Remark}
    {messages : List Message}
    (told : List.Forall₂ (fun remark m => Tells name (body remark) remark m) list messages)
    (p : Severity → Bool) :
    messages.countP (fun m => p m.severity) = list.countP fun remark => p remark.severity := by
  induction told with
  | nil => rfl
  | cons tells _ ih => rw [List.countP_cons, List.countP_cons, ih, tells.severity_eq]

end ShaderDriver.Diagnostic
