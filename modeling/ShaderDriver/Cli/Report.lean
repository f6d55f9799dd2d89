import ShaderDriver.Artifact.Table
import ShaderDriver.Digest.Xxh3
import ShaderDriver.Json.Printer
import ShaderDriver.Summary

namespace ShaderDriver

/-- Where an artifact ended up: in a file, or in memory with its size and digest. -/
inductive Destination where
  | file (path : String)
  | memory (size : Nat) (digest : String)
deriving DecidableEq, Repr

/-- An artifact and where it ended up. -/
structure ArtifactReport where
  kind : ArtifactKind
  destination : Destination
deriving DecidableEq, Repr

namespace ArtifactReport

/-- Describes a binding, if it holds an artifact. -/
def describe (kind : ArtifactKind) : Binding → Option ArtifactReport
  | .empty | .pending => none
  | .file path => some ⟨kind, .file path⟩
  | .memory bytes => some ⟨kind, .memory bytes.length (Xxh3.hex bytes)⟩

/-- Describes the bindings of a table in the order of kinds. -/
def ofTable (table : ArtifactTable) : List ArtifactReport :=
  table.entries.filterMap fun entry => describe entry.1 entry.2

end ArtifactReport

/-- All that is reported. -/
structure Report where
  source : String
  summary : Summary
  artifacts : List ArtifactReport

/-- What is told of an artifact where it need not all be known. -/
structure ArtifactRecord where
  kind : ArtifactKind
  path : Option String := none
  size : Option Nat := none
  digest : Option String := none
deriving DecidableEq, Repr

/-- A report in the form in which it is written as JSON. -/
structure CompileRecord where
  source : String
  summary : Summary
  artifacts : List ArtifactRecord
deriving DecidableEq, Repr

namespace Report

def artifactLine (artifact : ArtifactReport) : String :=
  match artifact.destination with
  | .file path => s!"   Wrote {artifact.kind.name} to {path}\n"
  | .memory size digest =>
    s!"   Captured {artifact.kind.name} ({size} bytes, xxh3 {digest})\n"

/-- The last line. -/
def resultLine (summary : Summary) : String :=
  let exit := match summary.exitCode with
    | some code => toString code
    | none => "unknown"
  s!"   Result: {summary.errorCount} error(s), {summary.warningCount} warning(s), exit code {exit}\n"

/-- The report as text: a line for each message, and unless it is to be quiet a line for each artifact
and one for the result. -/
def text (summary : Summary) (artifacts : List ArtifactReport) (quiet : Bool) : String :=
  let messages := summary.messages.map fun m => m.display ++ "\n"
  let rest := if quiet then [] else artifacts.map artifactLine ++ [resultLine summary]
  String.join (messages ++ rest)

end Report

/-- What is told of an artifact: its file, or its size and digest. -/
def ArtifactReport.record (artifact : ArtifactReport) : ArtifactRecord :=
  match artifact.destination with
  | .file path => { kind := artifact.kind, path := some path }
  | .memory size digest => { kind := artifact.kind, size := some size, digest := some digest }

namespace CompileRecord

/-- A value that may be missing. -/
def orNull (f : α → JsonValue) : Option α → JsonValue
  | some a => f a
  | none => .null

/-- A field that is left out with its value. -/
def told (name : String) (f : α → JsonValue) : Option α → List (String × JsonValue)
  | some a => [(name, f a)]
  | none => []

def messageValue (m : Message) : JsonValue :=
  .object
    [("type", .string m.severity.name),
      ("file", orNull .string m.path),
      ("line", orNull (fun n => .integer n.toNat) m.line),
      ("column", orNull (fun n => .integer n.toNat) m.column),
      ("message", orNull .string m.bodyText),
      ("full_message", .string m.text)]

/-- An artifact as JSON, with only the fields that are known. -/
def artifactValue (artifact : ArtifactRecord) : JsonValue :=
  .object (("kind", .string artifact.kind.name) ::
    (told "path" .string artifact.path ++
      (told "size" (fun size : Nat => .integer size) artifact.size ++ told "xxh3" .string artifact.digest)))

def value (record : CompileRecord) : JsonValue :=
  .object
    [("source", .string record.source),
      ("exit_code", orNull .integer record.summary.exitCode),
      ("arguments", .array (record.summary.arguments.map .string)),
      ("messages", .array (record.summary.messages.map messageValue)),
      ("error_count", .integer record.summary.errorCount),
      ("warning_count", .integer record.summary.warningCount),
      ("artifacts", .array (record.artifacts.map artifactValue))]

def json (record : CompileRecord) : String := Json.pretty record.value

end CompileRecord

namespace Report

def record (report : Report) : CompileRecord where
  source := report.source
  summary := report.summary
  artifacts := report.artifacts.map ArtifactReport.record

def json (report : Report) : String := report.record.json

end Report

end ShaderDriver
