import ShaderDriver.Subprocess

namespace ShaderDriver.Execution

def chunkSize : Nat := 4096

/-- The reading thread. It has ended for good at the end of the file, after a failed read, or when it
found that nobody receives what it sends. -/
inductive Reader where
  | reading
  | sending (chunk : Bytes)
  | ended
  | failed
  | refused (chunk : Bytes)
deriving DecidableEq, Repr

namespace Reader

def held : Reader → Bytes
  | sending chunk | refused chunk => chunk
  | reading | ended | failed => []

/-- Whether the thread may still send something. -/
def isAttached : Reader → Bool
  | reading | sending _ => true
  | ended | failed | refused _ => false

end Reader

/-- Why an execution came to its end: the output was quiet for long enough after the child's exit, the
channel had no sender any more, or the child could not be waited for. -/
inductive Ending where
  | quiet
  | disconnected
  | unwaitable
deriving DecidableEq, Repr

/-- Where the calling thread stands. It takes what is there, asks whether the child has exited, and
waits a while for more if it has not; after the exit it drains the channel. -/
inductive Waiter where
  | collecting
  | polling
  | waiting
  | draining (code : Option Int)
  | surrendering
  | returned (code : Option Int) (ending : Ending)
deriving DecidableEq, Repr

/-- What a receiver finds in the channel. -/
inductive Receipt where
  | chunk (bytes : Bytes)
  | nothing
  | disconnected
deriving DecidableEq, Repr

namespace Receipt

def bytes : Receipt → Bytes
  | chunk bytes => bytes
  | nothing | disconnected => []

end Receipt

namespace Waiter

/-- Where the calling thread goes when it has tried to receive. Before it asks for the child, and when
the child cannot be waited for, it takes chunks until there is none; while the child runs it takes at
most one. -/
def received : Waiter → Receipt → Option Waiter
  | collecting, .chunk _ => some collecting
  | collecting, .nothing | collecting, .disconnected => some polling
  | waiting, _ => some collecting
  | draining code, .chunk _ => some (draining code)
  | draining code, .nothing => some (returned code .quiet)
  | draining code, .disconnected => some (returned code .disconnected)
  | surrendering, .chunk _ => some surrendering
  | surrendering, .nothing | surrendering, .disconnected => some (returned none .unwaitable)
  | polling, _ | returned _ _, _ => none

/-- Whether the call is over, and with it the receiving end of the channel. -/
def isReturned : Waiter → Bool
  | returned _ _ => true
  | _ => false

end Waiter

/-- The child, the two threads and what is between them. `written` is all that came from the child and
from its own children so far. -/
structure System where
  process : Subprocess
  written : Bytes := []
  writable : Bool := true
  exit : Option (Option Int) := none
  pipe : Bytes := []
  reader : Reader := .reading
  channel : List Bytes := []
  waiter : Waiter := .collecting

namespace System

def receipt (s : System) : Receipt :=
  match s.channel with
  | chunk :: _ => .chunk chunk
  | [] => if s.reader.isAttached then .nothing else .disconnected

/-- The system after the calling thread has received and gone on to `next`. -/
def receive (s : System) (next : Waiter) : System :=
  { s with
    process := { s.process with output := s.process.output ++ s.receipt.bytes }
    channel := s.channel.tail
    waiter := next }

end System

/-- One step of the child, of the reading thread or of the calling thread. -/
inductive Step : System → System → Prop
  | write {s} (bytes : Bytes) : s.writable = true →
      Step s { s with written := s.written ++ bytes, pipe := s.pipe ++ bytes }
  | close {s} : s.writable = true → Step s { s with writable := false }
  | exit {s} (code : Option Int) : s.exit = none → Step s { s with exit := some code }
  | read {s} (chunk rest : Bytes) : s.reader = .reading → s.pipe = chunk ++ rest → chunk ≠ [] →
      chunk.length ≤ chunkSize → Step s { s with pipe := rest, reader := .sending chunk }
  | endOfFile {s} : s.reader = .reading → s.pipe = [] → s.writable = false →
      Step s { s with reader := .ended }
  | readFault {s} : s.reader = .reading → Step s { s with reader := .failed }
  | send {s chunk} : s.reader = .sending chunk → s.waiter.isReturned = false →
      Step s { s with channel := s.channel ++ [chunk], reader := .reading }
  | refuse {s chunk} : s.reader = .sending chunk → s.waiter.isReturned = true →
      Step s { s with reader := .refused chunk }
  | receive {s next} : s.waiter.received s.receipt = some next → Step s (s.receive next)
  | sawExit {s code} : s.waiter = .polling → s.exit = some code →
      Step s { s with waiter := .draining code }
  | sawRunning {s} : s.waiter = .polling → s.exit = none → Step s { s with waiter := .waiting }
  | waitFault {s} : s.waiter = .polling → Step s { s with waiter := .surrendering }

/-- What one execution of a process can come to, in any order of steps. -/
inductive Reach (process : Subprocess) : System → Prop
  | start : Reach process { process }
  | next {s t} : Reach process s → Step s t → Reach process t

/-- A process after any calls on it, with the output it had when it was cleared last, or at first, and
the executions since then as they returned. -/
inductive History (first : Subprocess) : Subprocess → Bytes → List System → Prop
  | start : History first first first.output []
  | execute {process kept runs s code ending} : History first process kept runs →
      Reach process s → s.waiter = .returned code ending →
      History first s.process kept (runs ++ [s])
  | refuse {process kept runs launch world error refused after} :
      History first process kept runs →
      process.execute launch world = (.error error, refused, after) →
      History first refused kept runs
  | arrange {process kept runs} (arguments : List String) : History first process kept runs →
      History first { process with arguments } kept runs
  | clear {process kept runs} : History first process kept runs →
      History first process.clearOutput [] []

end ShaderDriver.Execution
