import ShaderDriver.Diagnostic.Basic
import ShaderDriver.Diagnostic.Segment

namespace ShaderDriver.Diagnostic

def separator : List Char := [':', ' ']

/-- Reads `path:line` or `path:line:column`. A numeral before the last colon is the line, and then
the last numeral is the column. -/
def readLocation (cs : List Char) : Option Location := do
  let (before, last) ← Text.splitLast ':' cs
  let lastNumber ← Numeral.read? last
  match Text.splitLast ':' before with
  | some (path, token) =>
    if Numeral.isNumeral token then
      let line ← Numeral.read? token
      pure ⟨⟨0, Utf8.size path⟩, line, some lastNumber⟩
    else
      pure ⟨⟨0, Utf8.size before⟩, lastNumber, none⟩
  | none =>
    if Numeral.isNumeral before then none
    else pure ⟨⟨0, Utf8.size before⟩, lastNumber, none⟩

/-- Reads severity and body from what follows the location. `offset` is the number of octets before
it. -/
def readSections (text : List Char) (location : Option Location) (offset : Nat) (rest : List Char) :
    Message :=
  match Text.splitFirst separator rest with
  | none => ⟨String.ofList text, location, .unknown, none⟩
  | some (label, body) =>
    let start := offset + Utf8.size label + Utf8.size separator
    ⟨String.ofList text, location, Severity.ofSection label,
      if body.isEmpty then none else some ⟨start, Utf8.size body⟩⟩

/-- Whether the text ends in an ASCII digit, as a location does. -/
def endsInDigit (cs : List Char) : Bool := cs.getLast?.any Char.isDigit

/-- Reads one block, of the form `path:line:column: severity: body`, in which the location, the column and
everything behind the location may be missing. A first section that ends in a digit must be a location. A
block of another form keeps its text and nothing else. -/
def readBlock (text : List Char) : Message :=
  match Text.splitFirst separator text with
  | none => .unstructured (String.ofList text)
  | some (first, rest) =>
    if endsInDigit first then
      match readLocation first with
      | some location =>
        readSections text (some location) (Utf8.size first + Utf8.size separator) rest
      | none => .unstructured (String.ofList text)
    else readSections text none 0 text

/-- All messages of a compiler's output, in order. -/
def parse (output : String) : List Message := (blocks output.toList).map readBlock

end ShaderDriver.Diagnostic
