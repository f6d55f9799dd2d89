import ShaderDriver.Decode.Error
import ShaderDriver.Number.Shortest

namespace ShaderDriver

/-- A JSON value. An object keeps its fields in the order in which they are listed. -/
inductive JsonValue where
  | null
  | boolean (value : Bool)
  | integer (value : Int)
  | float (value : Binary64)
  | string (value : String)
  | array (items : List JsonValue)
  | object (fields : List (String × JsonValue))
deriving Repr

/-- The value as a report of a mismatch shows it. -/
def JsonValue.found : JsonValue → Decode.Found
  | null => .null
  | boolean value => .boolean value
  | integer value => .integer value
  | float value => .floating (Shortest.compact value)
  | string value => .string value
  | array _ => .sequence
  | object _ => .map

end ShaderDriver
