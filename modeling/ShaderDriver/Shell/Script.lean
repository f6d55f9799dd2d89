import ShaderDriver.Shell.State

namespace ShaderDriver.Shell

/-- How to run a command. -/
abbrev Runner := Command → Run Unit

def fatal (message : String) : Run α := do
  shellComplain message
  setStatus 2
  throw .exit

/-- Runs the lines of a script that had `lineEnds` line ends. -/
def runLines (execute : Runner) (lineEnds : Nat) : (limit : Nat) → Octets → Run Unit
  | 0, _ => pure ()
  | limit + 1, text =>
    match parseLine lineEnds text with
    | .error problem => do
      modify fun s => { s with line := lineEnds + 1 - problem.linesLeft }
      fatal s!"Syntax error: {problem.message}"
    | .ok (command, rest) => do
      match command with
      | some command => execute command
      | none => pure ()
      if rest.isEmpty then pure () else runLines execute lineEnds limit rest

def runScript (execute : Runner) (script : Octets) : Run Unit :=
  runLines execute (script.count '\n') (script.length + 1) script

end ShaderDriver.Shell
