import Mathlib.Logic.Function.Basic
import ShaderDriver.Proofs.Compiler.Session

namespace ShaderDriver

/-- What is asked of one kind of artifact. -/
inductive ArtifactRequest where
  | off
  | toFile (path : String)
  | inMemory (bytes : Option Bytes)
deriving DecidableEq, Repr

/-- The request that a binding stands for. -/
def Binding.request : Binding → ArtifactRequest
  | empty => .off
  | file path => .toFile path
  | pending => .inMemory none
  | memory bytes => .inMemory (some bytes)

/-- The request after a successful compile, from what was found. -/
def ArtifactRequest.filled : ArtifactRequest → Option Bytes → ArtifactRequest
  | inMemory _, some bytes => inMemory (some bytes)
  | inMemory _, none => off
  | off, _ => off
  | toFile path, _ => toFile path

theorem Binding.request_returned (binding : Binding) (found : Option Bytes) :
    (if binding.isMemoryRequest then Staging.readBack found else binding).request =
      binding.request.filled found := by
  cases binding <;> cases found <;> rfl

/-- What is asked of every kind. -/
abbrev Requests := ArtifactKind → ArtifactRequest

namespace Requests

/-- What can happen to requests. A compile succeeds and finds something or nothing for each kind, or it
fails. -/
inductive Event where
  | ask (kind : ArtifactKind) (sink : Sink)
  | drop (kind : ArtifactKind)
  | take (kind : ArtifactKind)
  | compile (found : Option (ArtifactKind → Option Bytes))
  | forget
  | other

/-- What is said to an event. -/
inductive Reply where
  | done
  | bytes (found : Option Bytes)
  | compiled (succeeded : Bool)
deriving DecidableEq, Repr

def next (requests : Requests) : Event → Reply × Requests
  | .ask kind .memory => (.done, Function.update requests kind (.inMemory none))
  | .ask kind (.file path) => (.done, Function.update requests kind (.toFile path))
  | .drop kind => (.done, Function.update requests kind .off)
  | .take kind =>
    match requests kind with
    | .inMemory (some bytes) => (.bytes (some bytes), Function.update requests kind (.inMemory none))
    | _ => (.bytes none, requests)
  | .compile (some found) => (.compiled true, fun kind => (requests kind).filled (found kind))
  | .compile none => (.compiled false, requests)
  | .forget => (.done, fun _ => .off)
  | .other => (.done, requests)

def run (requests : Requests) : List Event → List Reply × Requests
  | [] => ([], requests)
  | event :: events =>
    let (reply, after) := requests.next event
    let (replies, last) := after.run events
    (reply :: replies, last)

end Requests

def ArtifactTable.requests (table : ArtifactTable) : Requests := fun kind => (table.get kind).request

theorem ArtifactTable.requests_set (table : ArtifactTable) (kind : ArtifactKind) (binding : Binding) :
    (table.set kind binding).requests = Function.update table.requests kind binding.request := by
  ext other
  by_cases same : other = kind
  · subst same
    rw [Function.update_self, requests, get_set, if_pos rfl]
  · rw [Function.update_of_ne same, requests, get_set, if_neg same, requests]

theorem ArtifactTable.requests_returned (table : ArtifactTable) (world after : World) :
    (Staging.returned table world after).requests =
      fun kind => (table.requests kind).filled (after.found (Staging.ownPath table world kind)) := by
  ext kind
  exact (table.get kind).request_returned _

theorem ArtifactTable.requests_takeBytes (table : ArtifactTable) (kind : ArtifactKind) :
    (.bytes (table.takeBytes kind).1, (table.takeBytes kind).2.requests) =
      table.requests.next (.take kind) := by
  have known : table.requests kind = (table.get kind).request := rfl
  cases held : table.get kind with
  | empty => simp only [takeBytes, Requests.next, known, held, Binding.request]
  | file path => simp only [takeBytes, Requests.next, known, held, Binding.request]
  | pending => simp only [takeBytes, Requests.next, known, held, Binding.request]
  | memory bytes =>
    simp only [takeBytes, toMemory, Requests.next, known, held, Binding.request, requests_set]

/-- What is found after a compile at each kind's own temporary path, if the child is started. -/
def ExternalCompiler.found (launch : Launcher) (source : String) (compiler : ExternalCompiler)
    (world : World) : Option (ArtifactKind → Option Bytes) :=
  match launch (compiler.invocation source world) (compiler.launchWorld world) with
  | .ok (_, after) => some fun kind => after.found (Staging.ownPath compiler.state.artifacts world kind)
  | .error _ => none

/-- The same for a source in memory, which has to be written to a file first. -/
def ExternalCompiler.foundForBuffer (launch : Launcher) (source : Bytes) (compiler : ExternalCompiler)
    (world : World) : Option (ArtifactKind → Option Bytes) :=
  match (Staging.sourcePath world).2.writeFile (Staging.sourcePath world).1 source with
  | .ok staged => compiler.found launch (Staging.sourcePath world).1 staged
  | .error _ => none

/-- What is said, without the summary or the error. -/
def Answer.reply : Answer → Requests.Reply
  | done => .done
  | bytes found => .bytes found
  | compiled (.ok _) => .compiled true
  | compiled (.error _) => .compiled false

namespace Session

def requests (session : Session) : Requests := session.compiler.state.artifacts.requests

def event (session : Session) : Call → Requests.Event
  | .route kind sink => .ask kind sink
  | .disable kind => .drop kind
  | .take kind => .take kind
  | .reset => .forget
  | .compileFile launch path => .compile (session.compiler.found launch path session.world)
  | .compileBuffer launch source _ =>
    .compile (session.compiler.foundForBuffer launch source session.world)
  | .addArguments _ | .setProfile _ | .setEntry _ | .setCleanup _ | .elapse _ => .other

/-- What calls mean for the requests, each where it is made. -/
def events (session : Session) : List Call → List Requests.Event
  | [] => []
  | call :: calls => session.event call :: (session.perform call).2.events calls

theorem requests_run (launch : Launcher) (source : String) (name : Option String)
    (compiler : ExternalCompiler) (world : World) :
    let outcome := ExternalCompiler.run launch source name compiler world
    ((Answer.compiled outcome.1).reply, outcome.2.1.state.artifacts.requests) =
      compiler.state.artifacts.requests.next (.compile (compiler.found launch source world)) := by
  cases ran : launch (compiler.invocation source world) (compiler.launchWorld world) with
  | error refusal =>
    rw [ExternalCompiler.run_refused name ran, ExternalCompiler.found, ran]
    rfl
  | ok ended =>
    obtain ⟨exit, after⟩ := ended
    rw [ExternalCompiler.run_started name ran, ExternalCompiler.found, ran]
    simp only [Requests.next, ArtifactTable.requests_returned]
    rfl

theorem requests_compileBuffer (launch : Launcher) (source : Bytes) (name : Option String)
    (compiler : ExternalCompiler) (world : World) :
    let outcome := compiler.compileBuffer launch source name world
    ((Answer.compiled outcome.1).reply, outcome.2.1.state.artifacts.requests) =
      compiler.state.artifacts.requests.next (.compile (compiler.foundForBuffer launch source world)) := by
  cases written : (Staging.sourcePath world).2.writeFile (Staging.sourcePath world).1 source with
  | error fault =>
    have missed : compiler.foundForBuffer launch source world = none := by
      unfold ExternalCompiler.foundForBuffer
      simp only [written]
    rw [ExternalCompiler.compileBuffer_unstaged launch name written, missed]
    rfl
  | ok staged =>
    have same : compiler.foundForBuffer launch source world =
        compiler.found launch (Staging.sourcePath world).1 staged := by
      unfold ExternalCompiler.foundForBuffer
      simp only [written]
    rw [ExternalCompiler.compileBuffer_staged launch name written, same]
    exact requests_run launch _ (CompilerState.properName name) compiler staged

theorem requests_perform (session : Session) (call : Call) :
    ((session.perform call).1.reply, (session.perform call).2.requests) =
      session.requests.next (session.event call) := by
  cases call with
  | addArguments arguments => rfl
  | setProfile profile => rfl
  | setEntry entry => rfl
  | setCleanup cleanup => rfl
  | elapse change => rfl
  | reset => rfl
  | disable kind => exact congrArg (Prod.mk _) (ArtifactTable.requests_set ..)
  | route kind sink =>
    cases sink with
    | memory => exact congrArg (Prod.mk _) (ArtifactTable.requests_set ..)
    | file path => exact congrArg (Prod.mk _) (ArtifactTable.requests_set ..)
  | take kind => exact ArtifactTable.requests_takeBytes session.compiler.state.artifacts kind
  | compileFile launch path => exact requests_run launch path none session.compiler session.world
  | compileBuffer launch source name =>
    have compiled := requests_compileBuffer launch source name session.compiler session.world
    rw [perform, event]
    generalize session.compiler.compileBuffer launch source name session.world = outcome at compiled ⊢
    exact compiled

/-- The bindings of a compiler follow the requests in every run, whatever the children do, and every
call answers as the requests say. -/
theorem requests_refined (session : Session) (calls : List Call) :
    ((session.run calls).1.map Answer.reply, (session.run calls).2.requests) =
      session.requests.run (session.events calls) := by
  induction calls generalizing session with
  | nil => rfl
  | cons call calls ih =>
    have step := session.requests_perform call
    have rest := ih (session.perform call).2
    simp only [run, events, Requests.run, List.map_cons, ← step, ← rest]

end Session

end ShaderDriver
