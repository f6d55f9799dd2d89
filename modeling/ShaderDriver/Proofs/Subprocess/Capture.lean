import Mathlib.Data.List.Forall2
import ShaderDriver.Proofs.Subprocess.Interleaving

namespace ShaderDriver.Execution

namespace System

/-- The bytes that have been written and not been captured, the next one first. -/
def inFlight (s : System) : Bytes := s.channel.flatten ++ s.reader.held ++ s.pipe

theorem receipt_bytes_append (s : System) : s.receipt.bytes ++ s.channel.tail.flatten = s.channel.flatten := by
  unfold receipt
  cases s.channel with
  | nil => cases s.reader.isAttached <;> rfl
  | cons chunk rest => rfl

theorem receipt_disconnected {s : System} (found : s.receipt = .disconnected) :
    s.channel = [] ∧ s.reader.isAttached = false := by
  unfold receipt at found
  split at found
  · cases found
  · rename_i empty
    refine ⟨empty, ?_⟩
    split at found
    · cases found
    · rename_i detached
      simpa using detached

end System

theorem Waiter.received_disconnected {waiter : Waiter} {receipt : Receipt} {code : Option Int}
    (went : waiter.received receipt = some (.returned code .disconnected)) :
    waiter = .draining code ∧ receipt = .disconnected := by
  unfold received at went
  split at went <;> simp_all

theorem Waiter.received_isReturned {waiter next : Waiter} {receipt : Receipt}
    (went : waiter.received receipt = some next) : waiter.isReturned = false := by
  unfold received at went
  split at went <;> first | rfl | cases went

/-- What holds at every moment of an execution of `process`. -/
structure Sound (process : Subprocess) (s : System) : Prop where
  process_eq : s.process = { process with output := s.process.output }
  extended : process.output <+: s.process.output
  balance : s.process.output ++ s.inFlight = process.output ++ s.written
  ended : s.reader = .ended → s.pipe = [] ∧ s.writable = false
  refused : ∀ chunk, s.reader = .refused chunk → s.waiter.isReturned = true
  drained : ∀ code, s.waiter = .returned code .disconnected →
    s.channel = [] ∧ (s.reader = .ended ∨ s.reader = .failed)

theorem Sound.start (process : Subprocess) : Sound process { process } where
  process_eq := rfl
  extended := List.prefix_refl _
  balance := rfl
  ended := by simp
  refused := by simp
  drained := by simp

/-- As long as the reading thread may send, nobody has returned for want of a sender. -/
theorem Sound.not_disconnected {process : Subprocess} {s : System} (sound : Sound process s)
    (attached : s.reader.isAttached = true) (code : Option Int) :
    s.waiter ≠ .returned code .disconnected := by
  intro returned
  rcases (sound.drained code returned).2 with ended | failed
  · rw [ended] at attached
    cases attached
  · rw [failed] at attached
    cases attached

/-- The calling thread may move on as long as it does not return. -/
theorem Sound.moveOn {process : Subprocess} {s : System} (sound : Sound process s) (next : Waiter)
    (calling : s.waiter.isReturned = false) (calls : next.isReturned = false) :
    Sound process { s with waiter := next } := by
  refine { sound with refused := ?_, drained := ?_ }
  · intro chunk refused
    rw [sound.refused chunk refused] at calling
    cases calling
  · rintro code rfl
    cases calls

theorem Sound.receive {process : Subprocess} {s : System} {next : Waiter} (sound : Sound process s)
    (went : s.waiter.received s.receipt = some next) : Sound process (s.receive next) := by
  have taken := s.receipt_bytes_append
  have balance := sound.balance
  refine { sound with process_eq := ?_, extended := ?_, balance := ?_, refused := ?_, drained := ?_ }
  · rw [System.receive, sound.process_eq]
  · exact sound.extended.trans (List.prefix_append _ _)
  · simp only [System.inFlight, ← taken] at balance
    simpa only [System.receive, System.inFlight, List.append_assoc] using balance
  · intro chunk refused
    have returned := sound.refused chunk refused
    rw [Waiter.received_isReturned went] at returned
    cases returned
  · intro code returned
    obtain rfl : next = .returned code .disconnected := returned
    obtain ⟨draining, disconnected⟩ := Waiter.received_disconnected went
    obtain ⟨empty, detached⟩ := System.receipt_disconnected disconnected
    refine ⟨by simp [System.receive, empty], ?_⟩
    cases reader : s.reader with
    | reading | sending => simp [reader, Reader.isAttached] at detached
    | ended => exact Or.inl reader
    | failed => exact Or.inr reader
    | refused chunk =>
      have returned := sound.refused chunk reader
      rw [draining] at returned
      cases returned

theorem Sound.step {process : Subprocess} {s t : System} (sound : Sound process s) (step : Step s t) :
    Sound process t := by
  have balance := sound.balance
  simp only [System.inFlight] at balance
  cases step with
  | write bytes writable =>
    refine { sound with balance := ?_, ended := ?_ }
    · simp only [System.inFlight, ← List.append_assoc] at balance ⊢
      rw [balance]
    · intro ended
      rw [(sound.ended ended).2] at writable
      cases writable
  | close writable =>
    exact { sound with ended := fun ended => ⟨(sound.ended ended).1, rfl⟩ }
  | exit code running => exact { sound with }
  | read chunk rest reading front nonempty bounded =>
    refine { sound with balance := ?_, ended := by simp, refused := by simp, drained := ?_ }
    · simp only [reading, front, Reader.held, List.append_nil] at balance
      simpa only [System.inFlight, Reader.held, List.append_assoc] using balance
    · intro code returned
      exact absurd returned (sound.not_disconnected (by rw [reading]; rfl) code)
  | endOfFile reading empty closed =>
    refine { sound with balance := ?_, ended := fun _ => ⟨empty, closed⟩, refused := by simp, drained := ?_ }
    · simpa only [System.inFlight, reading, Reader.held] using balance
    · intro code returned
      exact ⟨(sound.drained code returned).1, Or.inl rfl⟩
  | readFault reading =>
    refine { sound with balance := ?_, ended := by simp, refused := by simp, drained := ?_ }
    · simpa only [System.inFlight, reading, Reader.held] using balance
    · intro code returned
      exact ⟨(sound.drained code returned).1, Or.inr rfl⟩
  | @send chunk sending calling =>
    refine { sound with balance := ?_, ended := by simp, refused := by simp, drained := ?_ }
    · simp only [sending, Reader.held] at balance
      simpa only [System.inFlight, Reader.held, List.flatten_append, List.flatten_singleton,
        List.append_nil] using balance
    · intro code returned
      exact absurd returned (sound.not_disconnected (by rw [sending]; rfl) code)
  | @refuse chunk sending returned =>
    refine { sound with balance := ?_, ended := by simp, refused := fun _ _ => returned, drained := ?_ }
    · simpa only [System.inFlight, sending, Reader.held] using balance
    · intro code returned
      exact absurd returned (sound.not_disconnected (by rw [sending]; rfl) code)
  | receive went => exact sound.receive went
  | sawExit polling exited => exact sound.moveOn _ (by rw [polling]; rfl) rfl
  | sawRunning polling running => exact sound.moveOn _ (by rw [polling]; rfl) rfl
  | waitFault polling => exact sound.moveOn _ (by rw [polling]; rfl) rfl

theorem Reach.sound {process : Subprocess} {s : System} (reach : Reach process s) : Sound process s := by
  induction reach with
  | start => exact .start process
  | next _ step ih => exact ih.step step

/-- What an execution may have captured: no more than was written, without a gap, and all of it if the
channel lost its sender and no read failed. -/
structure Captures (bytes : Bytes) (s : System) : Prop where
  front : bytes <+: s.written
  whole : ∀ code, s.waiter = .returned code .disconnected → s.reader ≠ .failed → bytes = s.written

theorem Sound.output_eq {process : Subprocess} {s : System} (sound : Sound process s) :
    ∃ bytes, s.process.output = process.output ++ bytes ∧ bytes ++ s.inFlight = s.written := by
  obtain ⟨bytes, appended⟩ := sound.extended
  have balance := sound.balance
  rw [← appended, List.append_assoc] at balance
  exact ⟨bytes, appended.symm, List.append_cancel_left balance⟩

theorem Sound.inFlight_eq_nil {process : Subprocess} {s : System} (sound : Sound process s)
    {code : Option Int} (returned : s.waiter = .returned code .disconnected)
    (intact : s.reader ≠ .failed) : s.inFlight = [] := by
  obtain ⟨empty, ended | failed⟩ := sound.drained code returned
  · have pipe := (sound.ended ended).1
    rw [System.inFlight, empty, ended, pipe]
    rfl
  · exact absurd failed intact

theorem Sound.captures {process : Subprocess} {s : System} (sound : Sound process s) :
    ∃ bytes, Captures bytes s ∧ s.process.output = process.output ++ bytes := by
  obtain ⟨bytes, output, balance⟩ := sound.output_eq
  refine ⟨bytes, ⟨⟨s.inFlight, balance⟩, ?_⟩, output⟩
  intro code returned intact
  rw [sound.inFlight_eq_nil returned intact, List.append_nil] at balance
  exact balance

theorem History.output_eq {first process : Subprocess} {kept : Bytes} {runs : List System}
    (history : History first process kept runs) :
    ∃ captured, List.Forall₂ Captures captured runs ∧ process.output = kept ++ captured.flatten := by
  induction history with
  | start => exact ⟨[], .nil, by simp⟩
  | @execute process kept runs s code ending _ reach _ ih =>
    obtain ⟨captured, earlier, output⟩ := ih
    obtain ⟨bytes, captures, extended⟩ := reach.sound.captures
    refine ⟨captured ++ [bytes], List.rel_append earlier (.cons captures .nil), ?_⟩
    rw [extended, output, List.flatten_append, List.flatten_singleton, List.append_assoc]
  | @refuse process kept runs launch world error refused after _ executed ih =>
    obtain ⟨captured, earlier, output⟩ := ih
    refine ⟨captured, earlier, ?_⟩
    unfold Subprocess.execute at executed
    split at executed
    · cases executed
      exact output
    · cases executed
  | arrange arguments _ ih => exact ih
  | clear _ _ => exact ⟨[], .nil, rfl⟩

theorem Sound.execute_eq {process : Subprocess} {s : System} (sound : Sound process s)
    {bytes : Bytes} (output : s.process.output = process.output ++ bytes) {launch : Launcher}
    {world after : World} {code : Option Int}
    (started : launch ⟨process.command.program, process.arguments⟩ world = .ok (⟨code, bytes⟩, after)) :
    process.execute launch world = (.ok code, s.process, after) := by
  rw [Subprocess.execute, started, sound.process_eq, output]

/-- An execution, at any moment of it and after any calls before it, has lost, doubled and reordered
nothing: what is captured, in the channel, in the reader's hands and in the pipe is what there was and
then what was written. It leaves the process as one call with these bytes does. -/
theorem capture_conserves {first process : Subprocess} {kept : Bytes} {runs : List System} {s : System}
    (history : History first process kept runs) (reach : Reach process s) :
    ∃ captured bytes, List.Forall₂ Captures captured runs ∧ Captures bytes s ∧
      process.output = kept ++ captured.flatten ∧
      s.process.output = process.output ++ bytes ∧
      s.process.output ++ s.channel.flatten ++ s.reader.held ++ s.pipe = process.output ++ s.written ∧
      ∀ launch world after code,
        launch ⟨process.command.program, process.arguments⟩ world = .ok (⟨code, bytes⟩, after) →
        process.execute launch world = (.ok code, s.process, after) := by
  have sound := reach.sound
  obtain ⟨captured, earlier, before⟩ := history.output_eq
  obtain ⟨bytes, captures, now⟩ := sound.captures
  refine ⟨captured, bytes, earlier, captures, before, now, ?_, ?_⟩
  · have balance := sound.balance
    simpa only [System.inFlight, List.append_assoc] using balance
  · intro launch world after code started
    exact sound.execute_eq now started

/-- A compiler before it is run for the first time. -/
def fresh : Subprocess := { command := ⟨"dxc", "dxc"⟩ }

/-- The compiler has written twice, the second time while the first chunk was on its way, and ended. -/
def finished : System where
  process := { fresh with output := [1, 2, 3] }
  written := [1, 2, 3]
  writable := false
  exit := some (some 0)
  reader := .ended
  waiter := .returned (some 0) .disconnected

theorem reach_finished : Reach fresh finished := by
  have before : Reach fresh { process := fresh } := .start
  have wrote := before.next (.write [1, 2] rfl)
  have taken := wrote.next (.read [1] [2] rfl rfl (by decide) (by decide))
  have wroteMore := taken.next (.write [3] rfl)
  have sent := wroteMore.next (.send rfl rfl)
  have collected := sent.next (.receive rfl)
  have asked := collected.next (.receive rfl)
  have closed := (asked.next (.close rfl)).next (.exit (some 0) rfl)
  have draining := closed.next (.sawExit rfl rfl)
  have takenRest := draining.next (.read [2, 3] [] rfl rfl (by decide) (by decide))
  have sentRest := takenRest.next (.send rfl rfl)
  have drained := sentRest.next (.receive rfl)
  have atEnd := drained.next (.endOfFile rfl rfl rfl)
  exact atEnd.next (.receive rfl)

/-- A second call, cut short while a chunk is in the reader's hands. -/
def interrupted : System where
  process := finished.process
  written := [4, 5]
  pipe := [5]
  reader := .sending [4]

theorem reach_interrupted : Reach finished.process interrupted := by
  have before : Reach finished.process { process := finished.process } := .start
  have wrote := before.next (.write [4, 5] rfl)
  exact wrote.next (.read [4] [5] rfl rfl (by decide) (by decide))

theorem capture_conserves_interrupted :
    ∃ captured bytes, List.Forall₂ Captures captured [finished] ∧ Captures bytes interrupted ∧
      finished.process.output = [] ++ captured.flatten ∧
      interrupted.process.output = finished.process.output ++ bytes ∧
      interrupted.process.output ++ interrupted.channel.flatten ++ interrupted.reader.held ++
        interrupted.pipe = finished.process.output ++ interrupted.written ∧
      ∀ launch world after code,
        launch ⟨finished.process.command.program, finished.process.arguments⟩ world =
          .ok (⟨code, bytes⟩, after) →
        finished.process.execute launch world = (.ok code, interrupted.process, after) :=
  capture_conserves (.execute .start reach_finished rfl) reach_interrupted

end ShaderDriver.Execution
