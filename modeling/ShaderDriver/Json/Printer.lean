import ShaderDriver.Json.Value

namespace ShaderDriver.Json

/-- A character below 256 as two hexadecimal digits. -/
def twoDigits (n : Nat) : List Char := [Nat.digitChar (n / 16), Nat.digitChar (n % 16)]

/-- The written form of a character: quotes, backslashes and control characters are escaped. -/
def escape (c : Char) : List Char :=
  if c = '"' then ['\\', '"']
  else if c = '\\' then ['\\', '\\']
  else if c = '\n' then ['\\', 'n']
  else if c = '\r' then ['\\', 'r']
  else if c = '\t' then ['\\', 't']
  else if c = '\x08' then ['\\', 'b']
  else if c = '\x0C' then ['\\', 'f']
  else if c.toNat < 0x20 then ['\\', 'u', '0', '0'] ++ twoDigits c.toNat
  else [c]

def quote (s : String) : List Char := '"' :: s.toList.flatMap escape ++ ['"']

def indent (level : Nat) : List Char := List.replicate (2 * level) ' '

mutual

/-- A value whose first line is already indented. Empty arrays and objects take one line. -/
def write (level : Nat) : JsonValue → List Char
  | .null => "null".toList
  | .boolean true => "true".toList
  | .boolean false => "false".toList
  | .integer n => (toString n).toList
  | .float x => (Shortest.compact x).toList
  | .string s => quote s
  | .array [] => ['[', ']']
  | .array (item :: items) =>
    ['[', '\n'] ++ indent (level + 1) ++ write (level + 1) item ++ writeItems (level + 1) items ++
      '\n' :: indent level ++ [']']
  | .object [] => ['\x7b', '\x7d']
  | .object ((name, value) :: fields) =>
    ['\x7b', '\n'] ++ indent (level + 1) ++ quote name ++ [':', ' '] ++ write (level + 1) value ++
      writeFields (level + 1) fields ++ '\n' :: indent level ++ ['\x7d']

/-- The items of an array behind the first. -/
def writeItems (level : Nat) : List JsonValue → List Char
  | [] => []
  | item :: items => [',', '\n'] ++ indent level ++ write level item ++ writeItems level items

/-- The fields of an object behind the first. -/
def writeFields (level : Nat) : List (String × JsonValue) → List Char
  | [] => []
  | (name, value) :: fields =>
    [',', '\n'] ++ indent level ++ quote name ++ [':', ' '] ++ write level value ++
      writeFields level fields

end

def pretty (value : JsonValue) : String := String.ofList (write 0 value)

end ShaderDriver.Json
