import ShaderDriver.Config.Decode
import ShaderDriver.Toml.Parser
import ShaderDriver.World.Basic

namespace ShaderDriver.Config

def fileName : String := "shc.toml"

/-- The configuration in a text; errors name `origin`. Paths stay as written. -/
def parse (content origin : String) : Except ConfigError Config :=
  match Toml.parse? content with
  | none => .error (.malformed origin)
  | some entries =>
    match Decode.config entries with
    | .error reason => .error (.mismatch origin reason.message)
    | .ok config => config.validate.map fun _ => config

/-- The configuration in a text that stands for a file of the usual name. -/
def ofString (content : String) : Except ConfigError Config := parse content fileName

def loadFile (world : World) (path : String) : Except ConfigError Config :=
  match world.readText path with
  | .error fault => .error (.unreadable path fault)
  | .ok content =>
    match parse content path, Path.parent? path with
    | .error e, _ => .error e
    | .ok config, none => .ok config
    | .ok config, some directory => .ok (config.resolvePaths directory)

def load (world : World) (directory : String) : Except ConfigError Config :=
  loadFile world (Path.join directory fileName)

end ShaderDriver.Config
