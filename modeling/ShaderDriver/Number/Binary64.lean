namespace ShaderDriver

/-- A number of the double-precision binary format, kept exactly: a finite number is a mantissa below 2^53
times a power of two. -/
inductive Binary64 where
  | finite (negative : Bool) (mantissa : Nat) (exponent : Int)
  | infinite (negative : Bool)
  | nan
deriving DecidableEq, Repr

namespace Binary64

/-- The least exponent of a finite number. -/
def minExponent : Int := -1074

def maxExponent : Int := 971

/-- The quotient rounded to the nearest integer, a tie to the even one. -/
def roundDiv (num den : Nat) : Nat :=
  let quotient := num / den
  let twice := 2 * (num % den)
  if twice < den ∨ (twice = den ∧ quotient % 2 = 0) then quotient else quotient + 1

/-- The fraction `num / den` times `base ^ power`. -/
def scale (base : Nat) (power : Int) (ratio : Nat × Nat) : Nat × Nat :=
  let factor := Nat.pow base power.natAbs
  if power < 0 then (ratio.1, ratio.2 * factor) else (ratio.1 * factor, ratio.2)

/-- The number nearest to `num / den`, where `den` is positive. -/
def ofRatio (negative : Bool) (num den : Nat) : Binary64 :=
  if num = 0 then .finite negative 0 minExponent
  else
    let guess : Int := (num.log2 : Int) - den.log2 - 52
    let fits := let scaled := scale 2 (-guess) (num, den); scaled.2 * Nat.pow 2 52 ≤ scaled.1
    let exponent := max minExponent (if fits then guess else guess - 1)
    let scaled := scale 2 (-exponent) (num, den)
    let mantissa := roundDiv scaled.1 scaled.2
    let (mantissa, exponent) :=
      if mantissa = Nat.pow 2 53 then (Nat.pow 2 52, exponent + 1) else (mantissa, exponent)
    if exponent > maxExponent then .infinite negative else .finite negative mantissa exponent

/-- The number nearest to `digits * 10 ^ power`. Powers far outside the format are settled without
computing them. -/
def ofDecimal (negative : Bool) (digits : Nat) (power : Int) : Binary64 :=
  let magnitude := (Nat.toDigits 10 digits).length + power
  if digits = 0 ∨ magnitude < -330 then .finite negative 0 minExponent
  else if magnitude > 330 then .infinite negative
  else let ratio := scale 10 power (digits, 1); ofRatio negative ratio.1 ratio.2

/-- The exact value of a finite number without its sign. -/
def ratio (mantissa : Nat) (exponent : Int) : Nat × Nat := scale 2 exponent (mantissa, 1)

def times : Binary64 → Binary64 → Binary64
  | finite _ m e, finite _ m' e' =>
    let product := scale 2 (e + e') (m * m', 1)
    ofRatio false product.1 product.2
  | _, _ => infinite false

/-- The rounded quotient of two magnitudes, the second not zero. -/
def quotient : Binary64 → Binary64 → Binary64
  | finite _ m e, finite _ m' e' =>
    let quotient := scale 2 (e - e') (m, m')
    ofRatio false quotient.1 quotient.2
  | _, _ => infinite false

def signed (negative : Bool) : Binary64 → Binary64
  | finite _ m e => finite negative m e
  | infinite _ => infinite negative
  | nan => nan

def isZero : Binary64 → Bool
  | finite _ 0 _ => true
  | _ => false

end Binary64

end ShaderDriver
