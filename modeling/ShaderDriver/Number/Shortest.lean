import ShaderDriver.Number.Binary64

namespace ShaderDriver.Shortest

/-- A decimal: its digits, the first not zero, and the power of ten of the last digit. -/
structure Decimal where
  digits : List Char
  power : Int
deriving DecidableEq, Repr

/-- The power of ten of the leading digit of `num / den`. -/
def leadingPower (num den : Nat) : Int :=
  if den ≤ num then ((Nat.toDigits 10 (num / den)).length : Int) - 1
  else -((Nat.toDigits 10 ((den - 1) / num)).length : Int)

/-- The nearer of the two neighbours with `count` digits that reads back, if one does. -/
def withDigits (mantissa : Nat) (exponent : Int) (count : Nat) : Option (Nat × Int) :=
  let value := Binary64.ratio mantissa exponent
  let power := leadingPower value.1 value.2 - (count : Int) + 1
  let scaled := Binary64.scale 10 (-power) value
  let below := scaled.1 / scaled.2
  let readsBack (candidate : Nat) : Bool :=
    Binary64.ofDecimal false candidate power == .finite false mantissa exponent
  let nearest := Binary64.roundDiv scaled.1 scaled.2
  let other := if nearest = below then below + 1 else below
  if readsBack nearest then some (nearest, power)
  else if readsBack other then some (other, power)
  else none

def trim (digits : Nat) (power : Int) : Decimal :=
  let reversed := (Nat.toDigits 10 digits).reverse
  let zeros := reversed.takeWhile (· == '0')
  ⟨(reversed.drop zeros.length).reverse, power + zeros.length⟩

/-- The shortest decimal of a positive number; seventeen digits are always enough. -/
def decimal (mantissa : Nat) (exponent : Int) : Decimal :=
  match (List.range' 1 17).findSome? (withDigits mantissa exponent) with
  | some (digits, power) => trim digits power
  | none => trim mantissa exponent

/-- Digits around a decimal point, with at least one digit on each side. -/
def positional (d : Decimal) : List Char :=
  let point : Int := d.digits.length + d.power
  if point ≤ 0 then
    ['0', '.'] ++ List.replicate point.natAbs '0' ++ d.digits
  else if d.power < 0 then
    d.digits.take point.natAbs ++ ['.'] ++ d.digits.drop point.natAbs
  else
    d.digits ++ List.replicate d.power.natAbs '0' ++ ['.', '0']

/-- One digit before the point, and the power of ten behind an `e`. -/
def scientific (d : Decimal) : List Char :=
  let power := d.digits.length + d.power - 1
  let front := match d.digits with
    | [] => []
    | [digit] => [digit]
    | digit :: more => digit :: '.' :: more
  front ++ 'e' :: (toString power).toList

/-- A finite number as text: zero is `0.0`, other numbers are laid out by `layout`. -/
def write (layout : Decimal → List Char) : Binary64 → String
  | .finite negative mantissa exponent =>
    let body := if mantissa = 0 then ['0', '.', '0'] else layout (decimal mantissa exponent)
    String.ofList (if negative then '-' :: body else body)
  | .infinite negative => if negative then "-inf" else "inf"
  | .nan => "NaN"

/-- A number without an exponent, however long it gets. -/
def plain : Binary64 → String := write positional

/-- A number with an exponent if the leading digit's power is below -5 or above 15. -/
def compact : Binary64 → String :=
  write fun d =>
    let point : Int := d.digits.length + d.power
    if -5 < point ∧ point ≤ 16 then positional d else scientific d

end ShaderDriver.Shortest
