import ShaderDriver.Diagnostic.Parser

namespace ShaderDriver

/-- The outcome of a compile: how the compiler ended, the arguments that it got, and what it said. The
exit code is missing if the compiler ended without one. -/
structure Summary where
  exitCode : Option Int
  arguments : List String
  messages : List Message
deriving DecidableEq, Repr

namespace Summary

def errorCount (summary : Summary) : Nat := summary.messages.countP Message.isError

def warningCount (summary : Summary) : Nat := summary.messages.countP Message.isWarning

/-- Whether the compiler ended with code zero and reported no error. -/
def succeeded (summary : Summary) : Bool := summary.exitCode == some 0 && summary.errorCount == 0

end Summary

end ShaderDriver
