import ShaderDriver.World.Basic

namespace ShaderDriver

/-- Finds the bytes of an included file, given its name and the path of the file that includes it. -/
abbrev IncludeHandler := World → (name includer : String) → Option Bytes

namespace IncludeHandler

/-- Looks beside the including file first, then in each directory in order. The first file that can be
read counts. -/
def searching (dirs : List String) : IncludeHandler := fun world name includer =>
  ((Path.parent? includer).toList ++ dirs).findSome? fun dir =>
    (world.readBytes (Path.join dir name)).toOption

end IncludeHandler

end ShaderDriver
