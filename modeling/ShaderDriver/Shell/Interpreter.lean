import ShaderDriver.Shell.Expansion
import ShaderDriver.Shell.Utility

namespace ShaderDriver.Shell

/-- Connects a descriptor anew, or closes it. -/
def connect (descriptor : Nat) (stream : Option Stream) : Run Unit :=
  modify fun s =>
    let others := s.streams.filter fun row => row.1 != descriptor
    { s with streams := match stream with
        | some stream => (descriptor, stream) :: others
        | none => others }

def creationFault : Fault → String
  | .notFound => "Directory nonexistent"
  | fault => fault.words

/-- Carries out one redirection. False if it fails. -/
def redirectOne (execute : Runner) (redirect : Redirect) : Run Bool := do
  let target ← expandValue execute redirect.target
  let opened (answer : Except Fault Stream) (complaint : Fault → String) : Run Bool := do
    match answer with
    | .ok stream =>
      connect redirect.descriptor (some stream)
      pure true
    | .error fault =>
      shellComplain (complaint fault)
      pure false
  match redirect.how with
  | .document =>
    connect redirect.descriptor (some (.pipe (← newPipe (toBytes target))))
    pure true
  | .duplicate =>
    if target = ['-'] then
      connect redirect.descriptor none
      pure true
    else
      match (← get).streams.lookup (Numeral.value target) with
      | some stream =>
        connect redirect.descriptor (some stream)
        pure true
      | none =>
        shellComplain s!"{toText target}: Bad file descriptor"
        pure false
  | .read =>
    opened (← openRead target) fun fault =>
      let words := if fault = .notFound then "No such file" else fault.words
      s!"cannot open {toText target}: {words}"
  | how =>
    opened (← openWrite target (how == .append)) fun fault =>
      s!"cannot create {toText target}: {creationFault fault}"

/-- Carries out redirections in order, up to the first that fails. -/
def redirectAll (execute : Runner) : List Redirect → Run Bool
  | [] => pure true
  | redirect :: rest => do
    if ← redirectOne execute redirect then redirectAll execute rest
    else
      setStatus 2
      pure false

/-- Runs a part with redirections, which end with it. -/
def redirecting (execute : Runner) (redirects : List Redirect) (part : Run Unit) : Run Unit := do
  let streams := (← get).streams
  withStreams streams do
    if ← redirectAll execute redirects then part

def guarding (part : Run Unit) : Run Unit := do
  let before := (← get).guarded
  let restore : Run Unit := modify fun s => { s with guarded := before }
  modify fun s => { s with guarded := true }
  tryCatch part fun stop => do restore; throw stop
  restore

/-- Stops the script after a failure, if it is set to stop. -/
def checkFailure : Run Unit := do
  let s ← get
  if s.stopOnFailure && !s.guarded && s.status != 0 then throw .exit

/-- Runs the body of a loop. True if the loop goes on. -/
def round (body : Run Unit) : Run Bool :=
  tryCatch (do body; pure true) fun
    | .leaveLoop n => if n ≤ 1 then pure false else throw (.leaveLoop (n - 1))
    | .nextRound n => if n ≤ 1 then pure true else throw (.nextRound (n - 1))
    | stop => throw stop

def rounds (name : Octets) (body : Run Unit) : List Octets → Run Unit
  | [] => pure ()
  | value :: values => do
    setVariable name value
    if ← round body then rounds name body values

/-- Runs the first clause that has a matching pattern. -/
def choose (execute : Runner) (subject : Octets) : List (List Word × Command) → Run Unit
  | [] => setStatus 0
  | (patterns, body) :: rest => do
    let expanded ← patterns.mapM (expandPattern execute)
    if expanded.any fun pattern => isMatch pattern subject then execute body
    else choose execute subject rest

def callFunction (execute : Runner) (body : Command) (arguments : List Octets) : Run Unit := do
  let before ← get
  modify fun s => { s with positional := arguments, locals := [] }
  tryCatch (execute body) fun stop =>
    match stop with
    | .return_ => pure ()
    | stop => throw stop
  modify fun s =>
    { s with
      positional := before.positional
      locals := before.locals
      assigned := s.locals.foldl (fun rows (name, value) => match value with
        | some value => update name value rows
        | none => rows.filter fun row => row.1 != name) s.assigned }

/-- Runs a script and then what is to be done at the end of the shell. -/
def runToEnd (execute : Runner) (script : Octets) : Run Unit := do
  let ending : Run Unit := do
    let s ← get
    match s.traps.lookup "EXIT".toList with
    | some trap =>
      set { s with traps := [] }
      runScript execute trap
      setStatus s.status
    | none => pure ()
  tryCatch (runScript execute script) fun stop =>
    match stop with
    | .exit | .return_ => pure ()
    | stop => throw stop
  ending

/-- Runs a script in a new shell with settings, a name and arguments. -/
def runShell (execute : Runner) (settings : Run Unit) (name : Octets) (arguments : List Octets)
    (script : Octets) : Run Unit :=
  inSubshell do
    modify fun s =>
      { s with
        name, positional := arguments, line := 1, functions := [], traps := [], status := 0
        stopOnFailure := false, refuseUnset := false, guarded := false }
    settings
    runToEnd execute script

/-- Waits for a shell. If a signal ended it, its status is that of the signal. -/
def awaited (shell : Run Unit) : Run Unit :=
  tryCatch shell fun stop =>
    match stop with
    | .killed signal => do
      complain (signalWords signal)
      setStatus (128 + signal)
    | stop => throw stop

/-- The interpreter that the first line of a script names. -/
def interpreter? (script : Octets) : Option (List Octets) :=
  match script with
  | '#' :: '!' :: rest =>
    let line := rest.takeWhile (· != '\n')
    some ((Text.fields ' ' (line.map fun c => if c == '\t' then ' ' else c)).filter
      fun part => !part.isEmpty)
  | _ => none

/-- How a shell is called: whether its script is an argument, its settings, and what is left of the
arguments. -/
structure Call where
  inArgument : Bool := false
  settings : Run Unit := pure ()
  operands : List Octets := []

/-- The setting of an option letter; none if there is no such option. -/
def setting? (on : Bool) (c : Char) : Option (Run Unit) :=
  if c = 'e' then some (modify fun s => { s with stopOnFailure := on })
  else if c = 'u' then some (modify fun s => { s with refuseUnset := on })
  else if "afilmnpsvxbCEIVhq".toList.contains c then some (pure ())
  else none

def longSetting (on : Bool) (name : Octets) : Run Unit :=
  match toText name with
  | "errexit" => modify fun s => { s with stopOnFailure := on }
  | "nounset" => modify fun s => { s with refuseUnset := on }
  | _ => pure ()

def readLetters (on : Bool) : List Char → Call → Except Char (Call × Bool)
  | [], call => .ok (call, false)
  | 'c' :: cs, call => readLetters on cs { call with inArgument := on }
  | 'o' :: cs, call => do
    let (call, _) ← readLetters on cs call
    pure (call, true)
  | c :: cs, call =>
    match setting? on c with
    | some change => readLetters on cs { call with settings := do call.settings; change }
    | none => .error c

def readCall : List Octets → Call → Except Char Call
  | ['-'] :: rest, call | ['-', '-'] :: rest, call => .ok { call with operands := rest }
  | (sign :: c :: cs) :: rest, call =>
    if sign = '-' ∨ sign = '+' then
      match readLetters (sign == '-') (c :: cs) call, rest with
      | .error c, _ => .error c
      | .ok (call, false), rest => readCall rest call
      | .ok (call, true), [] => .ok call
      | .ok (call, true), name :: rest =>
        readCall rest { call with settings := do call.settings; longSetting (sign == '-') name }
    else .ok { call with operands := (sign :: c :: cs) :: rest }
  | operands, call => .ok { call with operands }

/-- The shell as a program: a script after `-c`, in a file, or on the standard input. -/
def shellProgram (execute : Runner) (arguments : List Octets) : Run Unit := do
  let refuse (message : String) : Run Unit := do
    complain s!"sh: 0: {message}"
    setStatus 2
  match readCall arguments {} with
  | .error c => refuse s!"Illegal option -{c}"
  | .ok call =>
    match call.inArgument, call.operands with
    | true, [] => refuse "-c requires an argument"
    | true, [script] => runShell execute call.settings ['s', 'h'] [] script
    | true, script :: name :: rest => runShell execute call.settings name rest script
    | false, [] => runShell execute call.settings ['s', 'h'] [] (ofBytes (← readInput none))
    | false, file :: rest =>
      match ← openRead file with
      | .ok stream =>
        runShell execute call.settings file rest (ofBytes (← readStream none stream))
      | .error .isDirectory => setStatus 0
      | .error fault =>
        let words := if fault = .notFound then "No such file" else fault.words
        refuse s!"cannot open {toText file}: {words}"

def runFile (execute : Runner) (path : Octets) (arguments : List Octets) : Run Unit := do
  let refuse (status : Nat) (words : String) : Run Unit := do
    shellComplain s!"{toText path}: {words}"
    setStatus status
  match (← get).world.entry (toText path) with
  | .error fault => refuse 127 (if fault = .notFound then "not found" else fault.words)
  | .ok .directory => refuse 126 "Permission denied"
  | .ok (.file bytes executable) =>
    if executable then awaited (runShell execute (pure ()) path arguments (ofBytes bytes))
    else refuse 126 "Permission denied"

/-- Sets the status that an argument asks for, or leaves the current one. -/
def statusArgument (command : String) (arguments : List Octets) : Run Unit := do
  match arguments with
  | [] => pure ()
  | n :: _ =>
    if Numeral.isNumeral n then setStatus (Numeral.value n)
    else fatal s!"{command}: Illegal number: {toText n}"

/-- The number that an argument gives, or one. -/
def levelArgument (arguments : List Octets) : Nat :=
  match arguments with
  | [] => 1
  | n :: _ => numeral n

/-- Sets variables from arguments of the form `name=value`. -/
def assignArguments (arguments : List Octets) : Run Unit :=
  arguments.forM fun argument =>
    match Text.splitFirst ['='] argument with
    | some (name, value) => setVariable name value
    | none => pure ()

def setOptions (arguments : List Octets) : Run Unit := do
  match readCall arguments {} with
  | .error c => fatal s!"set: Illegal option -{c}"
  | .ok call =>
    call.settings
    if !call.operands.isEmpty || arguments.contains ['-', '-'] then
      modify fun s => { s with positional := call.operands }

/-- Notes variables that get their old values back at the end of the function, and sets them. -/
def makeLocal (arguments : List Octets) : Run Unit := do
  arguments.forM fun argument => do
    let name := argument.takeWhile (· != '=')
    modify fun s => { s with locals := (name, valueOf? s name) :: s.locals }
  assignArguments arguments

/-- Notes what is to be done at the end of the shell, or upon a signal. -/
def setTraps (arguments : List Octets) : Run Unit :=
  match arguments with
  | action :: names => names.forM fun name =>
    let key := if name = ['0'] then "EXIT".toList else name
    modify fun s =>
      let others := s.traps.filter fun row => row.1 != key
      { s with traps := if action = ['-'] then others else (key, action) :: others }
  | [] => pure ()

/-- Reads a line into variables; the last takes what is left of it. -/
def readLine (arguments : List Octets) : Run Unit := do
  let names := arguments.filter fun argument => argument.head? != some '-'
  match (← get).streams.lookup 0 with
  | some (.pipe number) =>
    let available := ofBytes ((← get).pipes.getD number [])
    let line := available.takeWhile (· != '\n')
    let taken := available.take (line.length + 1)
    let _ ← readStream (some taken.length) (.pipe number)
    fill names (line.dropWhile (· == ' '))
    setStatus (if taken.length > line.length then 0 else 1)
  | _ =>
    fill names []
    setStatus 1
where
  /-- Gives each name a field of the line. -/
  fill : List Octets → Octets → Run Unit
    | [], _ => pure ()
    | [name], line => setVariable name (Text.trimEnd (· == ' ') line)
    | name :: names, line => do
      let field := line.takeWhile (· != ' ')
      setVariable name field
      fill names ((line.drop field.length).dropWhile (· == ' '))

/-- Sends a signal. Only a shell's own end can be brought about. -/
def kill (execute : Runner) (arguments : List Octets) : Run Unit := do
  let (signal, targets) := match arguments with
    | ['-', 's'] :: name :: rest => (signalNumber name, rest)
    | ('-' :: name) :: rest => (signalNumber name, rest)
    | rest => (15, rest)
  if targets.contains (toString ownNumber).toList && signal != 0 then
    let s ← get
    match s.traps.find? fun row => signal != 9 && signalNumber row.1 == signal with
    | some (_, action) => runScript execute action
    | none => throw (.killed signal)
  setStatus 0

def changeDirectory (arguments : List Octets) : Run Unit := do
  let s ← get
  let path := toText (arguments.getD 0 ['/'])
  match s.world.locate path with
  | .ok place =>
    if s.world.tree.find? place == some .directory then
      set { s with world := { s.world with workingDir := place } }
      setStatus 0
    else
      shellComplain s!"cd: can't cd to {path}"
      setStatus 2
  | .error _ =>
    shellComplain s!"cd: can't cd to {path}"
    setStatus 2

def isKnown (s : State) (name : Octets) : Bool :=
  let text := toText name
  utilities.any (·.1 == text) || (s.functions.lookup name).isSome ||
    ["sh", ":", "exit", "cd", "read", "kill", "eval", "exec", "set", "shift"].contains text ||
    (name.contains '/' && s.world.isFile text)

/-- The commands that are built into the shell. `again` runs an expanded command. -/
def builtin? (execute : Runner) (again : List Octets → Run Unit) (name : String)
    (arguments : List Octets) : Option (Run Unit) :=
  match name with
  | ":" | "umask" | "times" => some (setStatus 0)
  | "trap" => some do setTraps arguments; setStatus 0
  | "exit" => some do statusArgument name arguments; throw .exit
  | "return" => some do statusArgument name arguments; throw .return_
  | "break" => some (throw (.leaveLoop (levelArgument arguments)))
  | "continue" => some (throw (.nextRound (levelArgument arguments)))
  | "shift" => some do
    let s ← get
    let n := levelArgument arguments
    if n ≤ s.positional.length then
      set { s with positional := s.positional.drop n, status := 0 }
    else
      shellComplain "shift: can't shift that many"
      setStatus 2
      throw .exit
  | "set" => some do setOptions arguments; setStatus 0
  | "export" | "readonly" => some do assignArguments arguments; setStatus 0
  | "local" => some do makeLocal arguments; setStatus 0
  | "unset" => some do
    modify fun s =>
      { s with assigned := s.assigned.filter fun row => !arguments.contains row.1, status := 0 }
  | "cd" => some (changeDirectory arguments)
  | "pwd" => some do
    put ('/' :: ofString ("/".intercalate (← get).world.workingDir) ++ ['\n'])
    setStatus 0
  | "read" => some (readLine arguments)
  | "wait" => some (modify fun s => { s with clock := max s.clock s.jobsEnd, status := 0 })
  | "kill" => some (kill execute arguments)
  | "eval" => some (runScript execute (Text.joinWith [' '] arguments))
  | "." => some do
    match ← openRead (arguments.getD 0 []) with
    | .ok stream => runScript execute (ofBytes (← readStream none stream))
    | .error _ =>
      shellComplain s!".: cannot open {toText (arguments.getD 0 [])}: No such file"
      setStatus 2
      throw .exit
  | "command" => some do
    match arguments with
    | ['-', 'v'] :: found :: _ =>
      if isKnown (← get) found then
        put (found ++ ['\n'])
        setStatus 0
      else setStatus 127
    | arguments => again arguments
  | "env" => some (again (arguments.dropWhile fun argument => argument.contains '='))
  | _ => none

/-- Runs a program. One whose standard output is closed fails once it has something to write. -/
def runUtility (utility : Utility) (name : String) (arguments : List Octets) : Run Nat := do
  let streams := (← get).streams
  if (streams.lookup 1).isSome then utility arguments
  else
    let number ← newPipe []
    let status ← withStreams (update 1 (.pipe number) streams) (utility arguments)
    if (← readStream none (.pipe number)).isEmpty then pure status
    else
      if ["echo", "printf"].contains name then shellComplain s!"{name}: {name}: I/O error"
      else complain s!"{name}: write error: Bad file descriptor"
      pure 1

/-- Runs an expanded command, at most `depth` wrappers deep: a function, a built-in command, a program,
or a file. -/
def dispatch (execute : Runner) : (depth : Nat) → List Octets → Run Unit
  | 0, _ | _, [] => setStatus 0
  | depth + 1, name :: arguments => do
    let text := toText name
    match (← get).functions.lookup name with
    | some body => callFunction execute body arguments
    | none =>
      match builtin? execute (dispatch execute depth) text arguments with
      | some run => run
      | none =>
        let program := match Text.splitLast '/' name with
          | some (folder, program) =>
            if ["/bin", "/usr/bin"].contains (toText folder) then toText program else ""
          | none => text
        let known := if name.contains '/' then programs else utilities
        match known.lookup program with
        | some utility => setStatus (← runUtility utility text arguments)
        | none =>
          if program = "sh" then awaited (shellProgram execute arguments)
          else if name.contains '/' then runFile execute name arguments
          else
            shellComplain s!"{text}: not found"
            setStatus 127

def hasSubstitution (word : Word) : Bool :=
  word.any fun
    | .substitution _ _ => true
    | _ => false

/-- Runs a simple command. Assignments before a command last as long as it runs; alone they stay. The
command `exec` keeps its redirections, and ends the shell if it runs something. -/
def runSimple (execute : Runner) (assignments : List (Octets × Word)) (words : List Word)
    (redirects : List Redirect) : Run Unit := do
  let arguments ← expandAll execute words
  let values ← assignments.mapM fun (name, value) => do pure (name, ← expandValue execute value)
  match arguments with
  | [] =>
    values.forM fun (name, value) => setVariable name value
    if !(assignments.any fun row => hasSubstitution row.2) then setStatus 0
    redirecting execute redirects (pure ())
  | name :: rest =>
    if toText name = "exec" then
      if ← redirectAll execute redirects then
        if rest.isEmpty then setStatus 0
        else
          dispatch execute 10 rest
          throw .exit
      else throw .exit
    else
      let before := (← get).assigned
      values.forM fun (name, value) => setVariable name value
      redirecting execute redirects (dispatch execute 10 arguments)
      if !values.isEmpty then modify fun s => { s with assigned := before }

/-- Runs a command, given how to run the commands inside it. -/
def runCommand (execute : Runner) : Command → Run Unit
  | .skip => setStatus 0
  | .simple line assignments words redirects => do
    modify fun s => { s with line }
    runSimple execute assignments words redirects
    checkFailure
  | .redirected body redirects => redirecting execute redirects (execute body)
  | .subshell body => do
    inSubshell (execute body)
    checkFailure
  | .conditional condition yes no => do
    guarding (execute condition)
    if (← get).status = 0 then execute yes else execute no
  | .loop started until_ condition body => do
    let before := (← get).status
    let last := if started then before else 0
    guarding (execute condition)
    if ((← get).status == 0) != until_ then
      if ← round (execute body) then execute (.loop true until_ condition body)
    else setStatus last
  | .forEach name words body => do
    let positional := (← get).positional
    let values ← match words with
      | some words => expandAll execute words
      | none => pure positional
    setStatus 0
    rounds name (execute body) values
  | .select subject clauses => do
    choose execute (← expandValue execute subject) clauses
  | .define name body => do
    modify fun s => { s with functions := update name body s.functions, status := 0 }
  | .negate body => do
    guarding (execute body)
    setStatus (if (← get).status = 0 then 1 else 0)
  | .pipe first second => do
    let number ← newPipe []
    let streams := (← get).streams
    let start := (← get).clock
    withStreams (update 1 (.pipe number) streams) (guarding (inSubshell (execute first)))
    let firstEnd := (← get).clock
    modify fun s => { s with clock := start }
    withStreams (update 0 (.pipe number) streams) (inSubshell (execute second))
    modify fun s => { s with clock := max firstEnd s.clock }
    checkFailure
  | .both first second => do
    guarding (execute first)
    if (← get).status = 0 then execute second
  | .either first second => do
    guarding (execute first)
    if (← get).status ≠ 0 then execute second
  | .sequence first second => do
    execute first
    execute second
  | .background body => do
    let streams := (← get).streams
    let start := (← get).clock
    withStreams (update 0 .null streams) (inSubshell (execute body))
    modify fun s => { s with clock := start, jobsEnd := max s.jobsEnd s.clock, status := 0 }

/-- Runs a command with commands nested, and loops going round, at most `fuel` times. -/
def execute : (fuel : Nat) → Runner
  | 0 => fun _ => throw .outOfFuel
  | fuel + 1 => runCommand (execute fuel)

end ShaderDriver.Shell
