import ShaderDriver.Text.Quoted

namespace ShaderDriver.Decode

/-- A value that stands where another was expected, as far as a report shows it. -/
inductive Found where
  | boolean (value : Bool)
  | integer (value : Int)
  | floating (digits : String)
  | string (value : String)
  | null
  | sequence
  | map
deriving DecidableEq, Repr

namespace Found

def words : Found → String
  | boolean value => "boolean `" ++ (if value then "true" else "false") ++ "`"
  | integer value => "integer `" ++ toString value ++ "`"
  | floating digits => "floating point `" ++ digits ++ "`"
  | string value => "string " ++ Quoted.quote value
  | null => "null"
  | sequence => "sequence"
  | map => "map"

end Found

/-- A mismatch between a value and the shape expected of it. -/
inductive Error where
  | invalidType (found : Found) (expected : String)
  | invalidLength (length : Nat) (expected : String)
  | unknownVariant (name : String) (known : List String)
  | unknownField (name : String) (known : List String)
  | custom (reason : String)
deriving DecidableEq, Repr

namespace Error

/-- A choice of names: one, two joined by `or`, or a list. -/
def choice : List String → String
  | [name] => "`" ++ name ++ "`"
  | [first, second] => "`" ++ first ++ "` or `" ++ second ++ "`"
  | names => "one of " ++ ", ".intercalate (names.map fun name => "`" ++ name ++ "`")

def message : Error → String
  | invalidType found expected => s!"invalid type: {found.words}, expected {expected}"
  | invalidLength length expected => s!"invalid length {length}, expected {expected}"
  | unknownVariant name known => "unknown variant `" ++ name ++ "`, expected " ++ choice known
  | unknownField name known => "unknown field `" ++ name ++ "`, expected " ++ choice known
  | custom reason => reason

end Error

end ShaderDriver.Decode
