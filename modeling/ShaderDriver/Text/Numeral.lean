namespace ShaderDriver.Numeral

def isNumeral (cs : List Char) : Bool := !cs.isEmpty && cs.all Char.isDigit

/-- The number that a run of digits stands for, leading zeros allowed. -/
def value (cs : List Char) : Nat := cs.foldl (fun n c => 10 * n + (c.toNat - '0'.toNat)) 0

/-- Reads a numeral whose value fits in 32 bits. -/
def read? (cs : List Char) : Option UInt32 :=
  if isNumeral cs && value cs < UInt32.size then some (UInt32.ofNat (value cs)) else none

/-- The digits of a number, without leading zeros. -/
def digits (n : Nat) : List Char := Nat.toDigits 10 n

end ShaderDriver.Numeral
