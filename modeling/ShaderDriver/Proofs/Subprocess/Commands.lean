import ShaderDriver.Subprocess

namespace ShaderDriver

namespace Command

/-- How a text is taken as a command: as it is, with quotes around it because of its white space, or without
the quotes that it has. The quote at the end may be missing. -/
inductive Spells : String → Command → Prop
  | plain {s : String} : s.toList.head? ≠ some '"' → (∀ c ∈ s.toList, isBlank c = false) → Spells s ⟨s, s⟩
  | spaced {s : String} {c : Char} : s.toList.head? ≠ some '"' → c ∈ s.toList → isBlank c = true →
      Spells s ⟨"\"" ++ s ++ "\"", s⟩
  | closed {inner : String} : Spells ("\"" ++ inner ++ "\"") ⟨"\"" ++ inner ++ "\"", inner⟩
  | unclosed {inner : String} : inner.toList.getLast? ≠ some '"' → Spells ("\"" ++ inner) ⟨"\"" ++ inner, inner⟩

theorem ofString_quoted (rest : String) :
    ofString ("\"" ++ rest) =
      ⟨"\"" ++ rest, String.ofList ((Text.stripEnd? ['"'] rest.toList).getD rest.toList)⟩ := by
  have stripped : Text.strip? ['"'] ("\"" ++ rest).toList = some rest.toList :=
    Text.strip?_eq_some.2 (String.toList_append ..)
  rw [ofString, stripped]

theorem ofString_unquoted {s : String} (unquoted : s.toList.head? ≠ some '"') :
    ofString s = ⟨if s.toList.any isBlank then "\"" ++ s ++ "\"" else s, s⟩ := by
  have whole : Text.strip? ['"'] s.toList = none := by
    rw [Option.eq_none_iff_forall_ne_some]
    intro rest stripped
    rw [Text.strip?_eq_some.1 stripped] at unquoted
    exact unquoted rfl
  rw [ofString, whole]

theorem Spells.ofString_eq {s : String} {command : Command} (spells : Spells s command) :
    ofString s = command := by
  cases spells with
  | plain unquoted solid =>
    have none : s.toList.any isBlank = false := by simpa using solid
    rw [ofString_unquoted unquoted, none]
    rfl
  | spaced unquoted member blank =>
    have some : s.toList.any isBlank = true := List.any_eq_true.2 ⟨_, member, blank⟩
    rw [ofString_unquoted unquoted, if_pos some]
  | @closed inner =>
    have stripped : Text.stripEnd? ['"'] (inner ++ "\"").toList = some inner.toList :=
      Text.stripEnd?_eq_some.2 (String.toList_append ..)
    rw [String.append_assoc, ofString_quoted, stripped, Option.getD_some, String.ofList_toList]
  | @unclosed inner unclosed =>
    have whole : Text.stripEnd? ['"'] inner.toList = none := by
      rw [Option.eq_none_iff_forall_ne_some]
      intro front stripped
      rw [Text.stripEnd?_eq_some.1 stripped] at unclosed
      exact unclosed List.getLast?_concat
    rw [ofString_quoted, whole, Option.getD_none, String.ofList_toList]

theorem exists_spells (s : String) : ∃ command, Spells s command := by
  by_cases quoted : s.toList.head? = some '"'
  · obtain ⟨rest, whole⟩ := List.head?_eq_some_iff.1 quoted
    obtain rfl : s = "\"" ++ String.ofList rest := String.toList_inj.1 (by simp [whole])
    by_cases closed : rest.getLast? = some '"'
    · obtain ⟨inner, rfl⟩ := List.getLast?_eq_some_iff.1 closed
      rw [String.ofList_append, ← String.append_assoc]
      exact ⟨_, .closed⟩
    · exact ⟨_, .unclosed (by rwa [String.toList_ofList])⟩
  · by_cases spaced : ∃ c ∈ s.toList, isBlank c = true
    · obtain ⟨c, member, blank⟩ := spaced
      exact ⟨_, .spaced quoted member blank⟩
    · exact ⟨_, .plain quoted fun c member => Bool.eq_false_iff.2 fun blank => spaced ⟨c, member, blank⟩⟩

theorem spells_iff {s : String} {command : Command} : Spells s command ↔ command = ofString s := by
  constructor
  · exact fun spells => spells.ofString_eq.symm
  · rintro rfl
    obtain ⟨command, spells⟩ := exists_spells s
    rwa [spells.ofString_eq]

/-- What is shown of a command spells the same command. -/
theorem Spells.shown {s : String} {command : Command} (spells : Spells s command) :
    Spells command.shown command := by
  cases spells with
  | plain unquoted solid => exact .plain unquoted solid
  | spaced => exact .closed
  | closed => exact .closed
  | unclosed open_ => exact .unclosed open_

theorem Spells.quoted {s : String} {command : Command} (spells : Spells s command) {c : Char}
    (member : c ∈ command.shown.toList) (blank : isBlank c = true) : command.shown.toList.head? = some '"' := by
  cases spells with
  | plain _ solid =>
    rw [solid c member] at blank
    cases blank
  | spaced => simp
  | closed => simp
  | unclosed => simp

end Command

namespace Subprocess

/-- What can be done with a process. -/
inductive Operation where
  | add (arguments : List String)
  | truncate (count : Nat)
  | clearArguments
  | clearOutput
  | execute (launch : Launcher)

def perform (process : Subprocess) (world : World) : Operation → Subprocess × World
  | .add arguments => (process.add arguments, world)
  | .truncate count => (process.truncate count, world)
  | .clearArguments => (process.clearArguments, world)
  | .clearOutput => (process.clearOutput, world)
  | .execute launch => (process.execute launch world).2

/-- One operation after the other. -/
def run (process : Subprocess) (world : World) : List Operation → Subprocess × World
  | [] => (process, world)
  | operation :: operations =>
    let (process, world) := process.perform world operation
    process.run world operations

/-- A process asks for one program with its arguments, and all that comes of an execution is made of the
answer. -/
structure Launches (process : Subprocess) (program : String) : Prop where
  refused {launch : Launcher} {world : World} {refusal : Refusal} :
    launch ⟨program, process.arguments⟩ world = .error refusal →
      process.execute launch world = (.error (.ofRefusal process.command.shown refusal), process, world)
  started {launch : Launcher} {world after : World} {exit : Exit} :
    launch ⟨program, process.arguments⟩ world = .ok (exit, after) →
      process.execute launch world =
        (.ok exit.code, { process with output := process.output ++ exit.output }, after)

theorem launches_program (process : Subprocess) : process.Launches process.command.program where
  refused := process.execute_refused
  started := process.execute_started

theorem perform_command (process : Subprocess) (world : World) (operation : Operation) :
    (process.perform world operation).1.command = process.command := by
  cases operation with
  | add | truncate | clearArguments | clearOutput => rfl
  | execute launch =>
    rw [perform]
    cases answer : launch ⟨process.command.program, process.arguments⟩ world with
    | error refusal => rw [process.execute_refused answer]
    | ok ended => rw [process.execute_started answer]

theorem run_command (process : Subprocess) (world : World) (operations : List Operation) :
    (process.run world operations).1.command = process.command := by
  induction operations generalizing process world with
  | nil => rfl
  | cons operation operations ih => exact (ih _ _).trans (process.perform_command world operation)

end Subprocess

/-- A command is taken as it is spelled, and as what is shown of it: showing it and taking it again changes
nothing. White space is shown in quotes only. Whatever is done with a process, what it asks for is the
program without the quotes. -/
theorem Command.ofString_shown (s : String) :
    (∀ command, Spells s command ↔ command = ofString s) ∧
      let command := ofString s
      ofString command.shown = command ∧
        (∀ c ∈ command.shown.toList, isBlank c = true → command.shown.toList.head? = some '"') ∧
        ∀ world operations,
          let process := (Subprocess.run { command } world operations).1
          process.command = command ∧ process.Launches command.program := by
  refine ⟨fun _ => spells_iff, ?_⟩
  intro command
  have spells : Spells s command := spells_iff.2 rfl
  refine ⟨spells.shown.ofString_eq, fun _ => spells.quoted, fun world operations => ?_⟩
  intro process
  have kept : process.command = command := Subprocess.run_command _ world operations
  exact ⟨kept, kept ▸ process.launches_program⟩

/-- A command with a space is started without the quotes that it is shown with. -/
theorem Command.ofString_shown_spaced :
    let command := ofString "my tool"
    let process := (Subprocess.run { command } {} [.add ["-Zi", "-Od"], .truncate 1]).1
    let asked : Launcher := fun invocation world =>
      if invocation = ⟨"my tool", ["-Zi"]⟩ then .ok (⟨some 0, []⟩, world) else .error (.notStarted .notFound)
    command = ⟨"\"my tool\"", "my tool"⟩ ∧ ofString command.shown = command ∧
      command.shown.toList.head? = some '"' ∧ (process.execute asked {}).1 = .ok (some 0) := by
  intro command process asked
  obtain ⟨spelled, again, quoted, runs⟩ := ofString_shown "my tool"
  have spells : Spells "my tool" ⟨"\"my tool\"", "my tool"⟩ :=
    .spaced (by decide) (by decide : ' ' ∈ "my tool".toList) (by decide)
  have same : command = ⟨"\"my tool\"", "my tool"⟩ := ((spelled _).1 spells).symm
  have started : asked ⟨command.program, process.arguments⟩ {} = .ok (⟨some 0, []⟩, {}) := by
    rw [same]
    rfl
  have blank : ' ' ∈ command.shown.toList := by
    rw [same]
    decide
  refine ⟨same, again, quoted ' ' blank (by decide), ?_⟩
  rw [(runs {} _).2.started started]

end ShaderDriver
