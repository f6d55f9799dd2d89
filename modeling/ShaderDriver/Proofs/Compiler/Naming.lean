import ShaderDriver.Proofs.Compiler.Staging
import ShaderDriver.Proofs.Diagnostic.Renaming

namespace ShaderDriver

namespace Staging

/-- A path to a directory that can open a message. -/
structure Quotable (dir : List Char) : Prop where
  closed : ¬ Diagnostic.separator <:+: dir
  inline : ∀ c ∈ dir, Diagnostic.isLineEnd c = false
  opening : Diagnostic.continuesBlock dir = false

theorem Quotable.slash {dir : List Char} (quotable : Quotable dir) : Quotable (dir ++ ['/']) where
  closed := Text.pair_absent_append.2
    ⟨quotable.closed, Text.pair_absent_of_not_mem_right (by decide), by simp⟩
  inline := by
    intro c member
    rcases List.mem_append.1 member with inDir | slash
    · exact quotable.inline c inDir
    · rw [List.mem_singleton.1 slash]
      rfl
  opening := by
    by_cases here : dir = []
    · rw [here]
      rfl
    · rw [Diagnostic.continuesBlock_append here]
      exact quotable.opening

def sourceFile (number : Nat) : String := s!"shader-{World.idDigits number}.hlsl"

theorem sourceFile_toList (number : Nat) :
    (sourceFile number).toList =
      ['s', 'h', 'a', 'd', 'e', 'r', '-'] ++ (World.idDigits number).toList ++ ['.', 'h', 'l', 's', 'l'] := by
  rw [sourceFile, String.toList_append, String.toList_append]
  rfl

theorem not_mem_sourceFile {c : Char} (other : ∀ d < 16, Nat.digitChar d ≠ c)
    (around : c ∉ ['s', 'h', 'a', 'd', 'e', 'r', '-'] ++ ['.', 'h', 'l', 's', 'l']) (number : Nat) :
    c ∉ (sourceFile number).toList := by
  have digits := World.not_mem_idDigits other number
  rw [List.mem_append, not_or] at around
  rw [sourceFile_toList, List.mem_append, List.mem_append, not_or, not_or]
  exact ⟨⟨around.1, digits⟩, around.2⟩

theorem sourceFile_inline (number : Nat) :
    ∀ c ∈ (sourceFile number).toList, Diagnostic.isLineEnd c = false :=
  Diagnostic.inline_of_not_mem (not_mem_sourceFile (by decide) (by decide) number)
    (not_mem_sourceFile (by decide) (by decide) number)

theorem dot_mem_sourceFile (number : Nat) : '.' ∈ (sourceFile number).toList := by
  rw [sourceFile_toList]
  simp

theorem sourceFile_numberless (front : List Char) (number : Nat) :
    Numeral.isNumeral (Text.lastToken ':' (front ++ (sourceFile number).toList)) = false := by
  have last : 'l' ∈ Text.lastToken ':' (front ++ (sourceFile number).toList) := by
    have ending : ['.', 'h', 'l', 's', 'l'] = ['.', 'h', 'l', 's'] ++ ['l'] := rfl
    rw [sourceFile_toList, ending, ← List.append_assoc, ← List.append_assoc, Text.lastToken,
      List.rtakeWhile_concat_pos _ _ _ (by decide)]
    simp
  by_contra numeral
  rw [Bool.not_eq_false] at numeral
  exact Numeral.not_mem numeral (by decide) last

/-- The name of a staged source behind a directory, as a name of a source. -/
def nameBehind {front : List Char} (quotable : Quotable front) (number : Nat) : Diagnostic.SourceName where
  text := front ++ (sourceFile number).toList
  nonempty := List.ne_nil_of_mem (List.mem_append_right front (dot_mem_sourceFile number))
  closed := by
    have spaceless := not_mem_sourceFile (c := ' ') (by decide) (by decide) number
    refine Text.pair_absent_append.2 ⟨quotable.closed, Text.pair_absent_of_not_mem_right spaceless, ?_⟩
    rintro ⟨-, space⟩
    exact spaceless (List.mem_of_mem_head? space)
  inline := by
    intro c member
    rcases List.mem_append.1 member with inFront | inName
    · exact quotable.inline c inFront
    · exact sourceFile_inline number c inName
  opening := by
    by_cases empty : front = []
    · rw [empty, sourceFile_toList]
      rfl
    · rw [Diagnostic.continuesBlock_append empty]
      exact quotable.opening
  numberless := sourceFile_numberless front number

/-- The path of a staged source is a name of a source if the directory for temporary files is quotable. -/
theorem exists_sourceName {world : World} (quotable : Quotable world.tempDir.toList) :
    ∃ name : Diagnostic.SourceName, (sourcePath world).1.toList = name.text ∧ '.' ∈ name.text := by
  have flat := not_mem_sourceFile (c := '/') (by decide) (by decide) world.nextId
  have dotted := dot_mem_sourceFile world.nextId
  obtain ⟨front, path, rfl | rfl⟩ := Path.join_front world.tempDir flat
  · exact ⟨nameBehind quotable world.nextId, path, List.mem_append_right _ dotted⟩
  · exact ⟨nameBehind quotable.slash world.nextId, path, List.mem_append_right _ dotted⟩

end Staging

namespace CompilerState

/-- Recording remarks about one name of a source under another tells of the same remarks. -/
theorem record_remarks {staged : Diagnostic.SourceName} (dotted : '.' ∈ staged.text) {path : String}
    (called : path.toList = staged.text) (state : CompilerState) (exitCode : Option Int)
    (arguments : List String) (name : Diagnostic.SourceName) (list : List Diagnostic.Remark) :
    let output := String.ofList (Diagnostic.remarks path.toList list)
    List.Forall₂ (fun remark m => Diagnostic.Tells (String.ofList name.text)
        (Text.replaceAll path.toList name.text remark.body) remark m) list
      (state.record exitCode arguments output path (some (String.ofList name.text))).1.messages := by
  intro output
  have text : substituteName output path (String.ofList name.text) =
      String.ofList (Diagnostic.remarks name.text (list.map fun remark => remark.renamed staged name)) := by
    simp only [substituteName, output, String.toList_ofList, called]
    rw [Diagnostic.replaceAll_remarks dotted]
  have parsed := Diagnostic.parse_remarks name (list.map fun remark => remark.renamed staged name)
  rw [← text] at parsed
  refine (List.forall₂_map_left_iff.1 parsed).imp fun remark m tells => ?_
  rw [called]
  exact ⟨tells.path_eq, tells.line_eq, tells.column_eq, tells.severity_eq, tells.body_eq⟩

/-- Recording the output of a compiler under a name gives every message this name for its path and for
what its body says of the staged source, and leaves it as it is otherwise. -/
theorem record_renamed {world : World} (quotable : Staging.Quotable world.tempDir.toList)
    (state : CompilerState) (exitCode : Option Int) (arguments : List String)
    (name : Diagnostic.SourceName) (list : List Diagnostic.Remark) :
    let staged := (Staging.sourcePath world).1
    let output := String.ofList (Diagnostic.remarks staged.toList list)
    let renamed := state.record exitCode arguments output staged (some (String.ofList name.text))
    let plain := state.record exitCode arguments output staged none
    List.Forall₂ (fun remark m => Diagnostic.Tells (String.ofList name.text)
        (Text.replaceAll staged.toList name.text remark.body) remark m) list renamed.1.messages ∧
      renamed.1.errorCount = plain.1.errorCount ∧ renamed.1.warningCount = plain.1.warningCount ∧
      renamed.2.messages = renamed.1.messages := by
  obtain ⟨stagedName, called, dotted⟩ := Staging.exists_sourceName quotable
  generalize (Staging.sourcePath world).1 = path at called
  intro staged output renamed plain
  have told := record_remarks dotted called state exitCode arguments name list
  have others := Diagnostic.parse_remarks stagedName list
  rw [← called] at others
  have count (p : Severity → Bool) : renamed.1.messages.countP (fun m => p m.severity) =
      plain.1.messages.countP fun m => p m.severity :=
    (Diagnostic.countP_of_tells told p).trans (Diagnostic.countP_of_tells others p).symm
  exact ⟨told, count Severity.isError, count (· == .warning), rfl⟩

/-- The name of a source that its caller knows. -/
def lighting : Diagnostic.SourceName where
  text := "lighting.hlsl".toList
  nonempty := by decide +kernel
  closed := by decide +kernel
  inline := by simp [Diagnostic.isLineEnd]
  opening := by decide +kernel
  numberless := by decide +kernel

/-- An error in a staged source whose body points to the same source again. -/
def redefinition : Diagnostic.Remark where
  line := 3
  column := some 7
  severity := .error
  label := "Error".toList
  body := "redefined, see /tmp/shader-00000000000000000000000000000000.hlsl:1\n    int x;".toList
  label_says := Or.inr ⟨rfl, Text.sameIgnoringCase_iff.2 (by decide +kernel)⟩
  body_nonempty := by decide +kernel
  body_ended := by simp [Diagnostic.isLineEnd]
  body_unbroken := by decide +kernel

theorem record_renamed_redefinition :
    let world : World := {}
    let state : CompilerState := {}
    let staged := (Staging.sourcePath world).1
    let output := String.ofList (Diagnostic.remarks staged.toList [redefinition])
    let renamed := state.record (some 1) [] output staged (some (String.ofList lighting.text))
    let plain := state.record (some 1) [] output staged none
    Staging.Quotable world.tempDir.toList ∧ staged.toList <:+: redefinition.body ∧
      List.Forall₂ (fun remark m => Diagnostic.Tells (String.ofList lighting.text)
        (Text.replaceAll staged.toList lighting.text remark.body) remark m) [redefinition] renamed.1.messages ∧
      renamed.1.errorCount = plain.1.errorCount ∧ renamed.1.warningCount = plain.1.warningCount ∧
      renamed.2.messages = renamed.1.messages := by
  intro world state staged output renamed plain
  have quotable : Staging.Quotable world.tempDir.toList :=
    ⟨by decide +kernel, by simp [world, Diagnostic.isLineEnd], by decide +kernel⟩
  have again : staged.toList <:+: redefinition.body := by decide +kernel
  exact ⟨quotable, again, record_renamed quotable state (some 1) [] lighting [redefinition]⟩

end CompilerState

end ShaderDriver
