import ShaderDriver.Json.Value
import ShaderDriver.Text.Numeral
import ShaderDriver.Text.Scan

namespace ShaderDriver.Json

open Scan

/-- Values nest at most this deep. -/
def depthLimit : Nat := 127

def isSpace (c : Char) : Bool := c == ' ' || c == '\t' || c == '\n' || c == '\r'

def spaces : Scan Unit := do let _ ← run isSpace

def hexValue? (c : Char) : Option Nat :=
  if c.isDigit then some (c.toNat - '0'.toNat)
  else if 'a' ≤ c ∧ c ≤ 'f' then some (c.toNat - 'a'.toNat + 10)
  else if 'A' ≤ c ∧ c ≤ 'F' then some (c.toNat - 'A'.toNat + 10)
  else none

def codeUnit : Scan Nat := do
  let digits ← exactly 4 fun c => (hexValue? c).isSome
  pure (digits.foldl (fun n c => 16 * n + (hexValue? c).getD 0) 0)

/-- A character given by one code unit, or by two that form a pair. -/
def codePoint : Scan Char := do
  let unit ← codeUnit
  if 0xD800 ≤ unit ∧ unit ≤ 0xDBFF then
    literal "\\u"
    let low ← codeUnit
    if 0xDC00 ≤ low ∧ low ≤ 0xDFFF then
      pure (Char.ofNat (0x10000 + (unit - 0xD800) * 0x400 + (low - 0xDC00)))
    else failure
  else if 0xDC00 ≤ unit ∧ unit ≤ 0xDFFF then failure
  else pure (Char.ofNat unit)

def escaped : Scan Char := do
  match ← next with
  | '"' => pure '"'
  | '\\' => pure '\\'
  | '/' => pure '/'
  | 'b' => pure '\x08'
  | 'f' => pure '\x0C'
  | 'n' => pure '\n'
  | 'r' => pure '\r'
  | 't' => pure '\t'
  | 'u' => codePoint
  | _ => failure

/-- A string. Control characters below the space must be escaped. -/
def string : Scan String := do
  char '"'
  let body ← many ((do char '\\'; escaped) <|>
    satisfy fun c => c != '"' && c != '\\' && c.toNat ≥ 0x20)
  char '"'
  pure (String.ofList body)

/-- Appends digits to a number as long as 64 bits hold it. Gives the number and the digits left. -/
def absorb : Nat → List Char → Nat × List Char
  | significand, [] => (significand, [])
  | significand, c :: digits =>
    let longer := 10 * significand + (c.toNat - '0'.toNat)
    if longer < UInt64.size then absorb longer digits else (significand, c :: digits)

/-- A magnitude times a power of ten, one rounded step at a time; none if it is out of range. Powers
below the smallest are approached in steps of 308, and three of them leave nothing of 64 bits. -/
def shift : (steps : Nat) → Binary64 → Int → Option Binary64
  | 0, x, _ => some x
  | steps + 1, x, power =>
    if power.natAbs ≤ 308 then
      let factor := Binary64.ofDecimal false 1 power.natAbs
      if power ≥ 0 then
        match x.times factor with
        | .infinite _ => none
        | product => some product
      else some (x.quotient factor)
    else if x.isZero then some x
    else if power ≥ 0 then none
    else shift steps (x.quotient (Binary64.ofDecimal false 1 308)) (power + 308)

/-- A power of ten as it is written behind the `e`. -/
structure Power where
  negative : Bool
  magnitude : Nat

/-- The power of ten behind an `e`. -/
def power : Scan Power := do
  let _ ← satisfy fun c => c == 'e' || c == 'E'
  let negative ← (do char '-'; pure true) <|> (do char '+'; pure false) <|> pure false
  pure ⟨negative, Numeral.value (← run1 Char.isDigit)⟩

/-- The floating number of its parts: the digits before and behind the point and the power. A power of
more than 31 bits is out of range if it is positive and the number is not zero, and makes zero
otherwise. -/
def floating (negative : Bool) (front behind : List Char) (power : Option Power) :
    Option JsonValue := do
  let (whole, dropped) := absorb 0 front
  let (significand, left) := absorb whole behind
  let exponent : Int := (dropped.length : Int) - ((behind.length : Int) - left.length)
  let ⟨down, magnitude⟩ := power.getD ⟨false, 0⟩
  if magnitude > Int32.maxValue.toNatClampNeg then
    if significand ≠ 0 ∧ !down then none
    else some (.float (.finite negative 0 Binary64.minExponent))
  else
    let exponent := if down then exponent - magnitude else exponent + magnitude
    let x ← shift 8 (Binary64.ofRatio false significand 1) exponent
    some (.float (x.signed negative))

/-- A number. A minus sign before zero makes it floating. -/
def number : Scan JsonValue := do
  let minus ← optionally (char '-')
  let negative := minus.isSome
  let front ← run1 Char.isDigit
  guard (front.head? != some '0' || front.length == 1)
  let behind ← optionally do char '.'; run1 Char.isDigit
  let power ← optionally power
  let n := Numeral.value front
  if behind.isNone && power.isNone && !negative && n < UInt64.size then pure (.integer n)
  else if behind.isNone && power.isNone && negative && 0 < n && n ≤ UInt64.size / 2 then
    pure (.integer (-(n : Int)))
  else floating negative front (behind.getD []) power

/-- Puts a field into its place by name; it replaces a field of the same name. -/
def insert (field : String × JsonValue) : List (String × JsonValue) → List (String × JsonValue)
  | [] => [field]
  | other :: fields =>
    if field.1 = other.1 then field :: fields
    else if field.1 < other.1 then field :: other :: fields
    else other :: insert field fields

def scalar : Scan JsonValue :=
  (.string <$> string) <|> number <|> (do literal "null"; pure .null) <|>
    (do literal "true"; pure (.boolean true)) <|> (do literal "false"; pure (.boolean false))

/-- A value in which at most `depth` arrays and objects are open at once, with white space around. -/
def value : (depth : Nat) → Scan JsonValue
  | 0 => do
    spaces
    let found ← scalar
    spaces
    pure found
  | depth + 1 => do
    spaces
    let found ← scalar <|> (do
      char '['
      spaces
      let items ← optionally (separated (value depth) (char ','))
      char ']'
      pure (.array (items.getD []))) <|> (do
      char '{'
      spaces
      let field : Scan (String × JsonValue) := do
        spaces
        let name ← string
        spaces
        char ':'
        let found ← value depth
        pure (name, found)
      let fields ← optionally (separated field (char ','))
      char '}'
      pure (.object ((fields.getD []).foldl (fun sorted field => insert field sorted) [])))
    spaces
    pure found

/-- The value that a text stands for, if it is JSON. Of two fields with one name the later counts, and the
fields of an object come in the order of their names. Integers of 64 bits stay exact, all other numbers
become floating. -/
def parse? (text : String) : Option JsonValue := Scan.whole (value depthLimit) text

end ShaderDriver.Json
