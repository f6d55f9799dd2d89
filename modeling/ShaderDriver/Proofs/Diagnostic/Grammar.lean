import Mathlib.Data.Option.Basic
import ShaderDriver.Diagnostic.Parser
import ShaderDriver.Proofs.Text.Case
import ShaderDriver.Proofs.Text.Numerals
import ShaderDriver.Proofs.Text.Occurrence

namespace ShaderDriver

theorem Severity.ofSection_eq_warning_iff {label : List Char} :
    ofSection label = warning ↔ Text.SameIgnoringCase label "warning".toList := by
  rw [Text.sameIgnoringCase_iff, show "warning".toList.map Char.toLower = "warning".toList by decide]
  simp only [ofSection]
  split
  · rename_i same
    simp [same]
  · rename_i other
    simp only [other, iff_false]
    split <;> simp

theorem Severity.ofSection_eq_error_iff {label : List Char} :
    ofSection label = error ↔ Text.SameIgnoringCase label "error".toList := by
  rw [Text.sameIgnoringCase_iff, show "error".toList.map Char.toLower = "error".toList by decide]
  simp only [ofSection]
  split
  · rename_i same
    simp [same]
  · split
    · rename_i same
      simp [same]
    · rename_i other
      simpa using other

theorem Severity.ofSection_cases (label : List Char) :
    ofSection label = warning ∨ ofSection label = error ∨ ofSection label = unknown := by
  simp only [ofSection]
  split
  · exact Or.inl rfl
  · split
    · exact Or.inr (Or.inl rfl)
    · exact Or.inr (Or.inr rfl)

namespace Diagnostic

/-- The parts of a block that starts with a location, as they are written. -/
structure Located where
  path : List Char
  line : List Char
  column : Option (List Char)
  rest : List Char

namespace Located

/-- What stands before the first separator: `path:line` or `path:line:column`. -/
def header (parts : Located) : List Char :=
  match parts.column with
  | none => parts.path ++ ':' :: parts.line
  | some column => parts.path ++ ':' :: parts.line ++ ':' :: column

def block (parts : Located) : List Char := parts.header ++ separator ++ parts.rest

/-- The conditions of the grammar. Without a column, the path must not end in a token that could be
the line of a location with a column. -/
structure WellFormed (parts : Located) : Prop where
  path_closed : ¬ separator <:+: parts.path
  line_word : ∃ line, Numeral.Denotes parts.line line
  column_word : ∀ digits, parts.column = some digits → ∃ column, Numeral.Denotes digits column
  path_open : parts.column = none → Numeral.isNumeral (Text.lastToken ':' parts.path) = false

/-- The location that the parts stand for. -/
structure Means (parts : Located) (path : String) (line : UInt32) (column : Option UInt32) : Prop where
  path_eq : parts.path = path.toList
  line_denotes : Numeral.Denotes parts.line line
  column_denotes : Option.Rel Numeral.Denotes parts.column column

end Located

def IsLocated (text : List Char) : Prop := ∃ parts : Located, parts.WellFormed ∧ parts.block = text

theorem separator_ne : ':' ≠ ' ' := by decide

theorem colon_not_mem {digits : List Char} (numeral : Numeral.isNumeral digits = true) :
    ':' ∉ digits := Numeral.not_mem numeral (by decide)

theorem space_not_mem {digits : List Char} (numeral : Numeral.isNumeral digits = true) :
    ' ' ∉ digits := Numeral.not_mem numeral (by decide)

/-- A colon and a word without spaces bring no separator to the end of a text. -/
theorem closed_append_word {text word : List Char} (closed : ¬ separator <:+: text)
    (spaceless : ' ' ∉ word) : ¬ separator <:+: text ++ ':' :: word := by
  refine Text.pair_absent_append.2 ⟨closed, Text.pair_absent_of_not_mem_right ?_, ?_⟩
  · simp [spaceless]
  · simp

theorem endsInDigit_append {before digits : List Char} (numeral : Numeral.isNumeral digits = true) :
    endsInDigit (before ++ ':' :: digits) = true := by
  have last := Numeral.getLast?_isDigit numeral
  rw [endsInDigit, List.append_cons, List.getLast?_append_of_ne_nil _ (Numeral.ne_nil numeral)]
  exact last

namespace Located

variable {parts other : Located}

theorem exists_header_eq (parts : Located) : ∃ numbers, parts.header = parts.path ++ numbers := by
  unfold header
  split
  · exact ⟨_, rfl⟩
  · exact ⟨_, List.append_assoc ..⟩

/-- A located block starts with its path. -/
theorem exists_block_eq (parts : Located) : ∃ after, parts.block = parts.path ++ after := by
  obtain ⟨numbers, header⟩ := parts.exists_header_eq
  exact ⟨numbers ++ separator ++ parts.rest, by simp only [block, header, List.append_assoc]⟩

theorem WellFormed.header_closed (wf : parts.WellFormed) : ¬ separator <:+: parts.header := by
  obtain ⟨line, denotes⟩ := wf.line_word
  have front := closed_append_word wf.path_closed (space_not_mem denotes.numeral)
  unfold header
  split
  · exact front
  · rename_i digits written
    obtain ⟨column, columnDenotes⟩ := wf.column_word digits written
    exact closed_append_word front (space_not_mem columnDenotes.numeral)

/-- The header of a located block is the text before its first separator. -/
theorem WellFormed.firstAt (wf : parts.WellFormed) :
    Text.FirstAt separator parts.block parts.header parts.rest :=
  Text.firstAt_pair separator_ne wf.header_closed parts.rest

theorem WellFormed.endsInDigit (wf : parts.WellFormed) : endsInDigit parts.header = true := by
  unfold header
  split
  · obtain ⟨line, denotes⟩ := wf.line_word
    exact endsInDigit_append denotes.numeral
  · rename_i digits written
    obtain ⟨column, denotes⟩ := wf.column_word digits written
    exact endsInDigit_append denotes.numeral

theorem WellFormed.means (wf : parts.WellFormed) :
    ∃ line column, parts.Means (String.ofList parts.path) line column := by
  obtain ⟨line, denotes⟩ := wf.line_word
  cases written : parts.column with
  | none => exact ⟨line, none, by simp, denotes, by rw [written]; exact .none⟩
  | some digits =>
    obtain ⟨column, columnDenotes⟩ := wf.column_word digits written
    exact ⟨line, some column, by simp, denotes, by rw [written]; exact .some columnDenotes⟩

theorem Means.unique {path path' : String} {line line' : UInt32} {column column' : Option UInt32}
    (one : parts.Means path line column) (two : parts.Means path' line' column') :
    path = path' ∧ line = line' ∧ column = column' := by
  refine ⟨String.toList_inj.1 (one.path_eq.symm.trans two.path_eq),
    one.line_denotes.unique two.line_denotes, ?_⟩
  have left := one.column_denotes
  have right := two.column_denotes
  generalize parts.column = digits at left right
  cases left with
  | none => cases right; rfl
  | some denotes =>
    cases right with
    | some denotes' => rw [denotes.unique denotes']

/-- Two ways to take the same header apart are the same: the last colon is where the last numeral
starts, and a line-only path has no numeral behind its last colon. -/
theorem WellFormed.unique (wf : parts.WellFormed) (wf' : other.WellFormed)
    (same : parts.block = other.block) : parts = other := by
  have first := wf.firstAt
  rw [same] at first
  obtain ⟨headers, rests⟩ := first.unique wf'.firstAt
  obtain ⟨line, denotes⟩ := wf.line_word
  obtain ⟨line', denotes'⟩ := wf'.line_word
  have plain := colon_not_mem denotes.numeral
  have plain' := colon_not_mem denotes'.numeral
  obtain ⟨path, digits, column, rest⟩ := parts
  obtain ⟨path', digits', column', rest'⟩ := other
  simp only [header] at headers rests plain plain'
  have split := congrArg (Text.splitLast ':') headers
  cases column with
  | none =>
    cases column' with
    | none =>
      simp only [Text.splitLast_append plain, Text.splitLast_append plain', Option.some.injEq,
        Prod.mk.injEq] at split
      simp [split.1, split.2, rests]
    | some columnDigits =>
      obtain ⟨_, columnDenotes⟩ := wf'.column_word columnDigits rfl
      simp only [Text.splitLast_append plain,
        Text.splitLast_append (colon_not_mem columnDenotes.numeral), Option.some.injEq,
        Prod.mk.injEq] at split
      have opened := wf.path_open rfl
      simp only [split.1, Text.lastToken_append plain', denotes'.numeral] at opened
      cases opened
  | some columnDigits =>
    obtain ⟨_, columnDenotes⟩ := wf.column_word columnDigits rfl
    have columnPlain := colon_not_mem columnDenotes.numeral
    cases column' with
    | none =>
      simp only [Text.splitLast_append plain', Text.splitLast_append columnPlain, Option.some.injEq,
        Prod.mk.injEq] at split
      have opened := wf'.path_open rfl
      simp only [← split.1, Text.lastToken_append plain, denotes.numeral] at opened
      cases opened
    | some columnDigits' =>
      obtain ⟨_, columnDenotes'⟩ := wf'.column_word columnDigits' rfl
      simp only [Text.splitLast_append columnPlain,
        Text.splitLast_append (colon_not_mem columnDenotes'.numeral), Option.some.injEq,
        Prod.mk.injEq] at split
      have inner := congrArg (Text.splitLast ':') split.1
      simp only [Text.splitLast_append plain, Text.splitLast_append plain', Option.some.injEq,
        Prod.mk.injEq] at inner
      simp [inner.1, inner.2, split.2, rests]

end Located

end Diagnostic

end ShaderDriver
