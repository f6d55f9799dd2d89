namespace ShaderDriver

/-- A failed request to the system. -/
inductive Fault where
  | notFound
  | accessDenied
  | notDirectory
  | isDirectory
  | notExecutable
  | notText
  | other (description : String)
deriving DecidableEq, Repr

namespace Fault

def number? : Fault → Option Nat
  | notFound => some 2
  | accessDenied => some 13
  | notDirectory => some 20
  | isDirectory => some 21
  | notExecutable => some 8
  | notText | other _ => none

def words : Fault → String
  | notFound => "No such file or directory"
  | accessDenied => "Permission denied"
  | notDirectory => "Not a directory"
  | isDirectory => "Is a directory"
  | notExecutable => "Exec format error"
  | notText => "stream did not contain valid UTF-8"
  | other description => description

/-- The words, with the number behind them if there is one. -/
def message (fault : Fault) : String :=
  match fault.number? with
  | some number => s!"{fault.words} (os error {number})"
  | none => fault.words

end Fault

end ShaderDriver
