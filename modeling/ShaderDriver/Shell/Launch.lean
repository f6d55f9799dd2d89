import ShaderDriver.Shell.Interpreter
import ShaderDriver.Subprocess

namespace ShaderDriver.Shell

/-- The number of steps that a child may take. -/
def fuel : Nat := 1000000

/-- How long the output of a child that has ended must be quiet to be complete, in microseconds. -/
def quietTime : Nat := 50000

/-- The bytes that are captured: all up to the end of the child, and then as long as the output does
not fall quiet. -/
def captured (finish : Nat) : List (Nat × Bytes) → List Bytes
  | [] => []
  | (time, bytes) :: rest =>
    if time < finish + quietTime then bytes :: captured (max finish time) rest else []

def runChild (part : Run Unit) (world : World) : Exit × World :=
  let (answer, state) := part.run { world }
  let code := match answer with
    | .error (.killed _) | .error .outOfFuel => none
    | _ => some (state.status : Int)
  let writes := state.writes.reverse.mergeSort fun a b => decide (a.1 ≤ b.1)
  (⟨code, (captured state.clock writes).flatten⟩,
    { state.world with workingDir := world.workingDir })

def shellNames : List String := ["sh", "dash", "bash"]

/-- The program of a name, if it is one of those that are always there. -/
def program? (name : String) (arguments : List Octets) : Option (Run Unit) :=
  if shellNames.contains name then some (shellProgram (execute fuel) arguments)
  else (programs.lookup name).map fun utility => do
    modify fun s => { s with name := ofString name }
    setStatus (← utility arguments)

/-- The last name of a path whose directory is one where programs are looked up. -/
def programName? (world : World) (path : String) : Option String :=
  match Text.splitLast '/' path.toList with
  | some (folder, name) =>
    if world.searchDirs.contains (String.ofList folder) then some (String.ofList name) else none
  | none => if world.searchDirs.isEmpty then none else some path

/-- The child that a file starts: a script that names a shell as its interpreter. -/
def fileChild (world : World) (path : String) (arguments : List Octets) : Except Fault (Run Unit) := do
  match ← world.entry path with
  | .file bytes true =>
    match interpreter? (ofBytes bytes) with
    | none => throw .notExecutable
    | some [] => throw .notExecutable
    | some (interpreter :: options) =>
      let run (options : List Octets) : Run Unit :=
        shellProgram (execute fuel) (options ++ ofString path :: arguments)
      match programName? world (toText interpreter), options with
      | some "env", [shell] => if shellNames.contains (toText shell) then pure (run []) else throw .notFound
      | some name, options => if shellNames.contains name then pure (run options) else throw .notFound
      | none, _ => throw .notFound
  | _ => throw .accessDenied

/-- Starts a program: by its path if its name has a slash, else among the programs that are there. -/
def start (invocation : Invocation) (world : World) : Except Fault (Exit × World) := do
  if invocation.program.toList.contains '\x00' || invocation.arguments.any (·.toList.contains '\x00') then
    throw (.other "nul byte found in provided data")
  let arguments := invocation.arguments.map ofString
  let known := (programName? world invocation.program).bind fun name => program? name arguments
  match known with
  | some part => pure (runChild part world)
  | none =>
    if invocation.program.toList.contains '/' then
      pure (runChild (← fileChild world invocation.program arguments) world)
    else throw .notFound

/-- Children for which there are always pipes. -/
def launch : Launcher := fun invocation world => (start invocation world).mapError .notStarted

end ShaderDriver.Shell
