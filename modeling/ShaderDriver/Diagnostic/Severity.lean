namespace ShaderDriver

/-- The severity of a message, from unrecognised up to unrecoverable. -/
inductive Severity where
  | unknown
  | debug
  | info
  | warning
  | error
  | critical
deriving DecidableEq, Repr, Inhabited

namespace Severity

/-- All severities, least grave first. -/
def all : List Severity := [unknown, debug, info, warning, error, critical]

/-- The place in the order of gravity. -/
def rank : Severity → Nat
  | unknown => 0
  | debug => 1
  | info => 2
  | warning => 3
  | error => 4
  | critical => 5

instance : LE Severity := ⟨fun a b => a.rank ≤ b.rank⟩
instance : LT Severity := ⟨fun a b => a.rank < b.rank⟩
instance : DecidableRel (LE.le : Severity → Severity → Prop) :=
  fun a b => inferInstanceAs (Decidable (a.rank ≤ b.rank))

def label : Severity → String
  | unknown => "Unknown"
  | debug => "Debug"
  | info => "Info"
  | warning => "Warning"
  | error => "Error"
  | critical => "Critical"

def name : Severity → String
  | unknown => "unknown"
  | debug => "debug"
  | info => "info"
  | warning => "warning"
  | error => "error"
  | critical => "critical"

/-- The severity of a structured name, if it is one. -/
def ofName? (s : String) : Option Severity := all.find? fun severity => severity.name == s

def isError : Severity → Bool
  | error | critical => true
  | _ => false

/-- Reads the section of a diagnostic that names its severity. Compilers write `warning` or `error`
there, in any ASCII case; any other text is unrecognised. -/
def ofSection (cs : List Char) : Severity :=
  let folded := cs.map Char.toLower
  if folded = "warning".toList then warning
  else if folded = "error".toList then error
  else unknown

end Severity

end ShaderDriver
