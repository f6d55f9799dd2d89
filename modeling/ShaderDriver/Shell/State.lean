import ShaderDriver.Shell.Parser
import ShaderDriver.World.Basic

namespace ShaderDriver.Shell

/-- The octets of a text. -/
def ofString (s : String) : Octets := (Utf8.encode s.toList).map fun b => Char.ofNat b.toNat

/-- The bytes that octets stand for. -/
def toBytes (cs : Octets) : Bytes := cs.map fun c => UInt8.ofNat c.toNat

/-- The octets of bytes. -/
def ofBytes (bytes : Bytes) : Octets := bytes.map fun b => Char.ofNat b.toNat

/-- The text that octets encode. -/
def toText (cs : Octets) : String := String.ofList (Utf8.decodeLossy (toBytes cs))

/-- Octets in the order of their numbers. -/
def octetsLe : Octets → Octets → Bool
  | [], _ => true
  | _ :: _, [] => false
  | a :: as, b :: bs => a < b || (a == b && octetsLe as bs)

/-- What a descriptor is connected to: the captured output, a file that is written, a pipe by its
number, nothing, a source of zeros, or an input that never comes. -/
inductive Stream where
  | captured
  | file (place : Place)
  | pipe (number : Nat)
  | null
  | zeros
  | silent
deriving DecidableEq, Repr

/-- Why a script stops before its end. -/
inductive Stop where
  | exit
  | leaveLoop (levels : Nat)
  | nextRound (levels : Nat)
  | return_
  | killed (signal : Nat)
  | outOfFuel
deriving DecidableEq, Repr

/-- A running shell. Time passes only in `sleep`. What is written to the captured output is noted with its
time, so that what a background command writes can be put in its place. -/
structure State where
  world : World
  writes : List (Nat × Bytes) := []
  pipes : List Bytes := []
  clock : Nat := 0
  jobsEnd : Nat := 0
  streams : List (Nat × Stream) := [(0, .silent), (1, .captured), (2, .captured)]
  name : Octets := []
  line : Nat := 1
  positional : List Octets := []
  assigned : List (Octets × Octets) := []
  functions : List (Octets × Command) := []
  status : Nat := 0
  locals : List (Octets × Option Octets) := []
  traps : List (Octets × Octets) := []
  refuseUnset : Bool := false
  stopOnFailure : Bool := false
  guarded : Bool := false

/-- A computation of a shell. It keeps its changes when it stops. -/
abbrev Run (α : Type) := ExceptT Stop (StateM State) α

/-- The number under which a shell knows itself. -/
def ownNumber : Nat := 4242

/-- Signals: name, number and what is said of a program that one ended. -/
def signals : List (String × Nat × String) :=
  [("HUP", 1, "Hangup"), ("INT", 2, "Interrupt"), ("QUIT", 3, "Quit"), ("ILL", 4, "Illegal instruction"),
    ("ABRT", 6, "Aborted"), ("FPE", 8, "Floating point exception"), ("KILL", 9, "Killed"),
    ("USR1", 10, "User defined signal 1"), ("SEGV", 11, "Segmentation fault"),
    ("USR2", 12, "User defined signal 2"), ("PIPE", 13, "Broken pipe"), ("ALRM", 14, "Alarm clock"),
    ("TERM", 15, "Terminated")]

/-- The signal of a name or number; with neither, the one that asks to end. -/
def signalNumber (name : Octets) : Nat :=
  if Numeral.isNumeral name then Numeral.value name
  else ((signals.find? fun row => row.1.toList == name || ("SIG" ++ row.1).toList == name).map
    (·.2.1)).getD 15

def signalWords (signal : Nat) : String :=
  ((signals.find? (·.2.1 == signal)).map (·.2.2)).getD "Killed"

def setStatus (n : Nat) : Run Unit := modify fun s => { s with status := n % 256 }

def update [BEq κ] (key : κ) (value : ν) (rows : List (κ × ν)) : List (κ × ν) :=
  (key, value) :: rows.filter fun row => row.1 != key

def valueOf? (s : State) (name : Octets) : Option Octets := s.assigned.lookup name

def setVariable (name value : Octets) : Run Unit :=
  modify fun s => { s with assigned := update name value s.assigned }

def appendPipe (number : Nat) (bytes : Bytes) (pipes : List Bytes) : List Bytes :=
  pipes.modify number (· ++ bytes)

/-- Appends to a file; a file that is gone takes nothing. -/
def appendFile (place : Place) (bytes : Bytes) (world : World) : World :=
  match world.tree.find? place with
  | some (.file old executable) =>
    { world with tree := world.tree.insert place (.file (old ++ bytes) executable) }
  | _ => world

/-- Writes to a descriptor. False if it is closed. -/
def write (descriptor : Nat) (bytes : Bytes) : Run Bool := do
  let s ← get
  match s.streams.lookup descriptor with
  | none => pure false
  | some stream =>
    match stream with
    | .captured =>
      if !bytes.isEmpty then set { s with writes := (s.clock, bytes) :: s.writes }
    | .file place => set { s with world := appendFile place bytes s.world }
    | .pipe number => set { s with pipes := appendPipe number bytes s.pipes }
    | .null | .zeros | .silent => pure ()
    pure true

/-- Writes octets to the standard output. -/
def put (cs : Octets) : Run Unit := do let _ ← write 1 (toBytes cs)

def complain (message : String) : Run Unit := do
  let _ ← write 2 (Utf8.encode (message ++ "\n").toList)

/-- A message of the shell itself, with its name and the line. -/
def shellComplain (message : String) : Run Unit := do
  let s ← get
  complain s!"{toText s.name}: {s.line}: {message}"

/-- How much of an endless source is read when nothing limits it. -/
def endless : Nat := 1048576

/-- Reads at most `limit` bytes from a stream, or all that there is. -/
def readStream (limit : Option Nat) : Stream → Run Bytes
  | .pipe number => do
    let s ← get
    let available := s.pipes.getD number []
    let n := limit.getD available.length
    set { s with pipes := s.pipes.set number (available.drop n) }
    pure (available.take n)
  | .zeros => pure (List.replicate (limit.getD endless) 0)
  | _ => pure []

def readInput (limit : Option Nat) : Run Bytes := do
  match (← get).streams.lookup 0 with
  | some stream => readStream limit stream
  | none => pure []

def newPipe (bytes : Bytes) : Run Nat := do
  let s ← get
  set { s with pipes := s.pipes ++ [bytes] }
  pure s.pipes.length

def openRead (path : Octets) : Run (Except Fault Stream) := do
  match toText path with
  | "/dev/null" => pure (.ok .null)
  | "/dev/zero" => pure (.ok .zeros)
  | "/dev/stdin" => pure (.ok (((← get).streams.lookup 0).getD .null))
  | path =>
    match (← get).world.readBytes path with
    | .ok bytes => pure (.ok (.pipe (← newPipe bytes)))
    | .error fault => pure (.error fault)

/-- Opens a file for writing, empty unless it is to be appended to. -/
def openWrite (path : Octets) (append : Bool) : Run (Except Fault Stream) := do
  let s ← get
  match toText path with
  | "/dev/null" => pure (.ok .null)
  | "/dev/stdout" => pure (.ok ((s.streams.lookup 1).getD .null))
  | "/dev/stderr" => pure (.ok ((s.streams.lookup 2).getD .null))
  | path =>
    match s.world.locateForWriting path with
    | .error fault => pure (.error fault)
    | .ok place =>
      let there := (s.world.tree.find? place).isSome
      if append && there then pure (.ok (.file place))
      else
        match s.world.writeFile path [] with
        | .error fault => pure (.error fault)
        | .ok world =>
          set { s with world }
          pure (.ok (.file place))

/-- Runs a part in a shell of its own. What it does to files, pipes and output stays, and so do its time
and status; its variables, directory and descriptors go. -/
def inSubshell (part : Run Unit) : Run Unit := do
  let before ← get
  let (answer, after) := part.run before
  let world := { after.world with workingDir := before.world.workingDir }
  set { before with
    world
    writes := after.writes
    pipes := after.pipes
    clock := after.clock
    jobsEnd := max before.jobsEnd after.jobsEnd
    status := after.status }
  match answer with
  | .error (.killed signal) => throw (.killed signal)
  | .error .outOfFuel => throw .outOfFuel
  | _ => pure ()

def withStreams (streams : List (Nat × Stream)) (part : Run α) : Run α := do
  let before := (← get).streams
  modify fun s => { s with streams }
  let answer ← tryCatch (Except.ok <$> part) fun stop => pure (.error stop)
  modify fun s => { s with streams := before }
  match answer with
  | .ok a => pure a
  | .error stop => throw stop

def capturing (part : Run Unit) : Run Octets := do
  let number ← newPipe []
  let streams := (← get).streams
  withStreams (update 1 (.pipe number) streams) (inSubshell part)
  pure (ofBytes (← readStream none (.pipe number)))

end ShaderDriver.Shell
