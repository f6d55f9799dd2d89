import ShaderDriver.Diagnostic.Severity
import ShaderDriver.Diagnostic.Span
import ShaderDriver.Text.Numeral

namespace ShaderDriver

/-- Where in a source a message points to. A column is known only together with a line. -/
structure Location where
  path : Span
  line : UInt32
  column : Option UInt32
deriving DecidableEq, Repr

/-- One message of a compiler. It keeps its text as it was written; path and body are spans of the text.
-/
structure Message where
  text : String
  location : Option Location
  severity : Severity
  body : Option Span
deriving DecidableEq, Repr

namespace Message

def unstructured (text : String) : Message := ⟨text, none, .unknown, none⟩

def path (m : Message) : Option String :=
  m.location.map fun location => String.ofList (location.path.slice m.text.toList)

def line (m : Message) : Option UInt32 := m.location.map Location.line

def column (m : Message) : Option UInt32 := m.location.bind Location.column

def bodyText (m : Message) : Option String :=
  m.body.map fun span => String.ofList (span.slice m.text.toList)

/-- Whether the message counts as an error. -/
def isError (m : Message) : Bool := m.severity.isError

/-- Whether the message counts as a warning. -/
def isWarning (m : Message) : Bool := m.severity == .warning

/-- The location as it is printed: `path:line` or `path:line:column`. -/
def locationText (m : Message) : Option String :=
  m.path.map fun path =>
    path ++ String.join ((m.line.toList ++ m.column.toList).map fun n => ":" ++ toString n.toNat)

/-- The printed form joins location, severity and body with `": "`, leaving out what was not
recognised. A message without any of them is printed as its text. -/
def display (m : Message) : String :=
  let severity := if m.severity = .unknown then none else some m.severity.label
  match m.locationText.toList ++ severity.toList ++ m.bodyText.toList with
  | [] => m.text
  | parts => ": ".intercalate parts

end Message

end ShaderDriver
