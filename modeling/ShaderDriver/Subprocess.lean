import ShaderDriver.Text.Blank
import ShaderDriver.World.Basic

namespace ShaderDriver

/-- A command as it is shown and as it is looked up. -/
structure Command where
  shown : String
  program : String
deriving DecidableEq, Repr

namespace Command

/-- Takes a command that may already be quoted. The quotes are only for showing: a command with white
space is shown in quotes, and a quoted command is looked up without them. -/
def ofString (s : String) : Command :=
  match Text.strip? ['"'] s.toList with
  | some rest => ⟨s, String.ofList ((Text.stripEnd? ['"'] rest).getD rest)⟩
  | none => ⟨if s.toList.any isBlank then "\"" ++ s ++ "\"" else s, s⟩

end Command

/-- What is started: a program and its arguments. -/
structure Invocation where
  program : String
  arguments : List String
deriving DecidableEq, Repr

/-- How a child ended: its exit code, if it has one, and all that it wrote. -/
structure Exit where
  code : Option Int
  output : Bytes
deriving DecidableEq, Repr

/-- Why there is no child: no pipes are to be had, or the program does not start. -/
inductive Refusal where
  | noPipe (fault : Fault)
  | notStarted (fault : Fault)
deriving DecidableEq, Repr

/-- The behaviour of children: what a child that was given an invocation writes, how it ends and which
world it leaves. A child that does not start changes nothing. -/
abbrev Launcher := Invocation → World → Except Refusal (Exit × World)

/-- Why a child was not run. -/
inductive ProcessError where
  | brokenPipe (fault : Fault)
  | spawnFailed (command : String) (fault : Fault)
deriving DecidableEq, Repr

namespace ProcessError

def ofRefusal (command : String) : Refusal → ProcessError
  | .noPipe fault => brokenPipe fault
  | .notStarted fault => spawnFailed command fault

def message : ProcessError → String
  | brokenPipe fault => s!"failed to create child pipes: {fault.message}"
  | spawnFailed command fault => "failed to spawn `" ++ command ++ "`: " ++ fault.message

end ProcessError

/-- A command with its arguments and the output of its runs so far. -/
structure Subprocess where
  command : Command
  arguments : List String := []
  output : Bytes := []

namespace Subprocess

def add (process : Subprocess) (arguments : List String) : Subprocess :=
  { process with arguments := process.arguments ++ arguments }

/-- Keeps only the first `count` arguments. -/
def truncate (process : Subprocess) (count : Nat) : Subprocess :=
  { process with arguments := process.arguments.take count }

def clearArguments (process : Subprocess) : Subprocess := { process with arguments := [] }

def clearOutput (process : Subprocess) : Subprocess := { process with output := [] }

/-- The arguments, each behind a space. -/
def commandLine (process : Subprocess) : String :=
  String.join (process.arguments.map fun argument => " " ++ argument)

def execute (launch : Launcher) (process : Subprocess) (world : World) :
    Except ProcessError (Option Int) × Subprocess × World :=
  match launch ⟨process.command.program, process.arguments⟩ world with
  | .error refusal => (.error (.ofRefusal process.command.shown refusal), process, world)
  | .ok (exit, after) =>
    (.ok exit.code, { process with output := process.output ++ exit.output }, after)

theorem execute_refused {launch : Launcher} (process : Subprocess) {world : World} {refusal : Refusal}
    (refused : launch ⟨process.command.program, process.arguments⟩ world = .error refusal) :
    process.execute launch world = (.error (.ofRefusal process.command.shown refusal), process, world) := by
  rw [execute, refused]

theorem execute_started {launch : Launcher} (process : Subprocess) {world after : World} {exit : Exit}
    (started : launch ⟨process.command.program, process.arguments⟩ world = .ok (exit, after)) :
    process.execute launch world =
      (.ok exit.code, { process with output := process.output ++ exit.output }, after) := by
  rw [execute, started]

end Subprocess

end ShaderDriver
