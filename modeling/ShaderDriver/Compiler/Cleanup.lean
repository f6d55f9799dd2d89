namespace ShaderDriver

/-- Whether temporary files are deleted after a compile or left in place. -/
inductive Cleanup where
  | remove
  | keep
deriving DecidableEq, Repr, Inhabited

namespace Cleanup

def names : List String := ["remove", "keep"]

def name : Cleanup → String
  | remove => "remove"
  | keep => "keep"

def ofName? (s : String) : Option Cleanup := [remove, keep].find? fun cleanup => cleanup.name == s

end Cleanup

end ShaderDriver
