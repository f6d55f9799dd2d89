import ShaderDriver.Text.Numeral
import ShaderDriver.Text.Scan
import ShaderDriver.Toml.Node

namespace ShaderDriver.Toml

open Scan

/-- Values nest at most this deep. -/
def depthLimit : Nat := 79

def isSpace (c : Char) : Bool := c == ' ' || c == '\t'

/-- What may stand in a comment or a literal text: no control character but the tab. -/
def isPlain (c : Char) : Bool := c == '\t' || (c.toNat ≥ 0x20 && c.toNat != 0x7F)

def isHexDigit (c : Char) : Bool :=
  c.isDigit || ('a' ≤ c && c ≤ 'f') || ('A' ≤ c && c ≤ 'F')

def digitValue (c : Char) : Nat :=
  if c.isDigit then c.toNat - '0'.toNat else c.toLower.toNat - 'a'.toNat + 10

def valueIn (base : Nat) (digits : List Char) : Nat :=
  digits.foldl (fun n c => base * n + digitValue c) 0

def spaces : Scan Unit := do let _ ← run isSpace

/-- A line feed, with or without a carriage return before it. -/
def newline : Scan Unit := char '\n' <|> literal "\r\n"

def comment : Scan Unit := do
  char '#'
  let _ ← run isPlain

/-- Skips white space, line ends and comments. -/
def gaps : Scan Unit := do
  let _ ← many ((do let _ ← run1 isSpace) <|> newline <|> comment)

def escaped : Scan Char := do
  match ← next with
  | 'b' => pure '\x08'
  | 't' => pure '\t'
  | 'n' => pure '\n'
  | 'f' => pure '\x0C'
  | 'r' => pure '\r'
  | '"' => pure '"'
  | '\\' => pure '\\'
  | 'u' => scalar (← exactly 4 isHexDigit)
  | 'U' => scalar (← exactly 8 isHexDigit)
  | _ => failure
where
  scalar (digits : List Char) : Scan Char :=
    let n := valueIn 16 digits
    if n.isValidChar then pure (Char.ofNat n) else failure

def basicString : Scan (List Char) := do
  char '"'
  let body ← many ((do char '\\'; escaped) <|> satisfy fun c => isPlain c && c != '"' && c != '\\')
  char '"'
  pure body

def literalString : Scan (List Char) := do
  char '\''
  let body ← run fun c => isPlain c && c != '\''
  char '\''
  pure body

def innerQuote (quote : Char) : Scan (List Char) := do
  guard !(← ahead (String.ofList [quote, quote, quote]))
  char quote
  pure [quote]

/-- Three closing quotes, with up to two quotes before them that belong to the string. -/
def closing (quote : Char) : Scan (List Char) := do
  literal (String.ofList [quote, quote, quote])
  let second ← optionally (char quote)
  let third ← if second.isSome then optionally (char quote) else pure none
  pure (List.replicate (second.toList.length + third.toList.length) quote)

/-- The body of a string between three quotes. A line end right behind the opening quotes is left
out. -/
def multiline (quote : Char) (piece : Scan (List Char)) : Scan (List Char) := do
  literal (String.ofList [quote, quote, quote])
  let _ ← optionally newline
  let pieces ← many (piece <|> innerQuote quote)
  let last ← closing quote
  pure (pieces.flatten ++ last)

/-- A line end inside a string, always read as a line feed. -/
def lineFeed : Scan (List Char) := do
  newline
  pure ['\n']

/-- A backslash at the end of a line, which takes away all white space behind it. -/
def lineContinuation : Scan (List Char) := do
  char '\\'
  spaces
  newline
  let _ ← many ((do let _ ← run1 isSpace) <|> newline)
  pure []

def multilineBasic : Scan (List Char) :=
  multiline '"' (run1 (fun c => isPlain c && c != '"' && c != '\\') <|> lineContinuation <|>
    (do char '\\'; pure [← escaped]) <|> lineFeed)

def multilineLiteral : Scan (List Char) :=
  multiline '\'' (run1 (fun c => isPlain c && c != '\'') <|> lineFeed)

def string : Scan String :=
  String.ofList <$> (multilineBasic <|> basicString <|> multilineLiteral <|> literalString)

def digitRun (p : Char → Bool) : Scan (List Char) := do
  let first ← satisfy p
  let others ← many ((do char '_'; satisfy p) <|> satisfy p)
  pure (first :: others)

/-- An optional sign; true for minus. -/
def sign : Scan Bool := (do char '-'; pure true) <|> (do char '+'; pure false) <|> pure false

/-- Digits of a decimal integer, which start with zero only if zero is the only one. -/
def decimalDigits : Scan (List Char) := do
  let digits ← digitRun Char.isDigit
  if digits.head? = some '0' && digits.length > 1 then failure
  pure digits

/-- An integer of 64 bits. -/
def checked (n : Int) : Scan Node :=
  if Int64.minValue.toInt ≤ n ∧ n ≤ Int64.maxValue.toInt then pure (.integer n) else failure

/-- An integer in base 16, 8 or 2, or in base 10 with an optional sign. -/
def integer : Scan Node :=
  based "0x" 16 isHexDigit <|> based "0o" 8 (fun c => '0' ≤ c && c ≤ '7') <|>
    based "0b" 2 (fun c => c == '0' || c == '1') <|> do
      let negative ← sign
      let magnitude : Int := valueIn 10 (← decimalDigits)
      checked (if negative then -magnitude else magnitude)
where
  based (lead : String) (base : Nat) (p : Char → Bool) : Scan Node := do
    literal lead
    checked (valueIn base (← digitRun p))

def fraction : Scan (List Char) := do
  char '.'
  digitRun Char.isDigit

/-- The power of ten behind an `e`. -/
def exponent : Scan Int := do
  let _ ← satisfy fun c => c == 'e' || c == 'E'
  let negative ← sign
  let magnitude : Int := valueIn 10 (← digitRun Char.isDigit)
  pure (if negative then -magnitude else magnitude)

/-- A number with a fraction, a power of ten, or both. Positive numbers must be in range. -/
def finiteFloat : Scan Node := do
  let negative ← sign
  let front ← decimalDigits
  let back ← optionally fraction
  let power ← optionally exponent
  guard (back.isSome || power.isSome)
  let behind := back.getD []
  let x := Binary64.ofDecimal negative (valueIn 10 (front ++ behind)) (power.getD 0 - behind.length)
  guard (x != .infinite false)
  pure (.float x)

def specialFloat : Scan Node := do
  let negative ← sign
  (do literal "inf"; pure (.float (.infinite negative))) <|> (do literal "nan"; pure (.float .nan))

/-- A number of `width` digits between two bounds. -/
def bounded (width low high : Nat) : Scan Nat := do
  let n := valueIn 10 (← exactly width Char.isDigit)
  if low ≤ n ∧ n ≤ high then pure n else failure

def daysOf (year month : Nat) : Nat :=
  if month = 2 then
    if year % 4 = 0 ∧ (year % 100 ≠ 0 ∨ year % 400 = 0) then 29 else 28
  else if [4, 6, 9, 11].contains month then 30
  else 31

def date : Scan Unit := do
  let year ← bounded 4 0 9999
  char '-'
  let month ← bounded 2 1 12
  char '-'
  let _ ← bounded 2 1 (daysOf year month)

/-- A time of day; the second 60 is a leap second. -/
def time : Scan Unit := do
  let _ ← bounded 2 0 23
  char ':'
  let _ ← bounded 2 0 59
  char ':'
  let _ ← bounded 2 0 60
  let _ ← optionally do char '.'; run1 Char.isDigit

def zone : Scan Unit :=
  (do let _ ← satisfy fun c => c == 'Z' || c == 'z') <|> do
    let _ ← satisfy fun c => c == '+' || c == '-'
    let _ ← bounded 2 0 23
    char ':'
    let _ ← bounded 2 0 59

/-- A date, a time, or both. -/
def moment : Scan Node :=
  (do
    date
    let _ ← optionally do
      let _ ← satisfy fun c => c == 'T' || c == 't' || c == ' '
      time
      optionally zone
    pure .moment) <|> (do time; pure .moment)

def keyPart : Scan String :=
  String.ofList <$> (run1 (fun c => c.isAlphanum || c == '-' || c == '_') <|> basicString <|>
    literalString)

/-- A key: parts between dots, with spaces around them, and fewer of them than values may nest. -/
def key : Scan (List String) := do
  let parts ← separated (do spaces; let part ← keyPart; spaces; pure part) (char '.')
  guard (parts.length ≤ depthLimit)
  pure parts

def scalar : Scan Node :=
  (.string <$> string) <|> moment <|> finiteFloat <|> specialFloat <|> integer <|>
    (do literal "true"; pure (.boolean true)) <|> (do literal "false"; pure (.boolean false))

/-- Sets a key in a table; the last part is the name, the others lead to it. -/
def assignKey (parts : List String) (node : Node) (table : Table) : Option Entries :=
  parts.getLast?.bind fun name => table.assign parts.dropLast name node

/-- A value in which at most `depth` arrays and inline tables are open at once. -/
def value : (depth : Nat) → Scan Node
  | 0 => scalar
  | depth + 1 => scalar <|> (do
      char '['
      gaps
      let item : Scan Node := do
        gaps
        let node ← value depth
        gaps
        pure node
      let items ← optionally (separated item (char ','))
      if items.isSome then
        let _ ← optionally (char ',')
      gaps
      char ']'
      pure (.array (items.getD []))) <|> (do
      char '{'
      let pair : Scan (List String × Node) := do
        let parts ← key
        char '='
        spaces
        let node ← value depth
        spaces
        pure (parts, node)
      let pairs ← optionally (separated pair (char ','))
      spaces
      char '}'
      let entries ← (pairs.getD []).foldlM
        (fun entries (parts, node) => assignKey parts node ⟨.inline, entries⟩) []
      pure (.table .inline entries))

/-- A line of a document that says something. -/
inductive Line where
  | assignment (key : List String) (node : Node)
  | tableHeader (key : List String)
  | arrayHeader (key : List String)

def lineEnd : Scan Unit := do
  spaces
  let _ ← optionally comment
  newline <|> ended

/-- A line with its end. Empty lines and comments say nothing. -/
def line : Scan (Option Line) := do
  spaces
  (do newline; pure none) <|> (do comment; newline <|> ended; pure none) <|> (do
    literal "[["
    let parts ← key
    literal "]]"
    lineEnd
    pure (some (.arrayHeader parts))) <|> (do
    char '['
    let parts ← key
    char ']'
    lineEnd
    pure (some (.tableHeader parts))) <|> (do
    let parts ← key
    char '='
    spaces
    let node ← value depthLimit
    lineEnd
    pure (some (.assignment parts node)))

/-- The lines of a document that say something. A byte order mark may come first. -/
def document : Scan (List Line) := do
  let _ ← optionally (char '\uFEFF')
  let lines ← many line
  spaces
  pure (lines.filterMap id)

end ShaderDriver.Toml
