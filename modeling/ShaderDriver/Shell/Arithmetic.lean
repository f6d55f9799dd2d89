import ShaderDriver.Shell.State

namespace ShaderDriver.Shell

open Scan

/-- The number that an octal, hexadecimal or decimal numeral stands for. -/
def numeral (digits : List Char) : Nat :=
  let digit (c : Char) : Nat :=
    if c.isDigit then c.toNat - '0'.toNat else c.toLower.toNat - 'a'.toNat + 10
  let valueIn (base : Nat) (digits : List Char) : Nat :=
    (digits.takeWhile fun c => c.isAlphanum && digit c < base).foldl (fun n c => base * n + digit c) 0
  match digits with
  | '0' :: x :: rest => if x == 'x' || x == 'X' then valueIn 16 rest else valueIn 8 (x :: rest)
  | digits => valueIn 10 digits

/-- The integer that the front of a text stands for, or zero. -/
def integerOf (cs : Octets) : Int :=
  match cs.dropWhile (· == ' ') with
  | '-' :: rest => -(numeral rest : Int)
  | '+' :: rest => numeral rest
  | rest => numeral rest

/-- Whether a text is a whole decimal number, perhaps with a sign. -/
def isDecimal (cs : Octets) : Bool :=
  match cs with
  | '-' :: rest | '+' :: rest => Numeral.isNumeral rest
  | rest => Numeral.isNumeral rest

/-- One for true, zero for false. -/
def truth (p : Bool) : Int := if p then 1 else 0

/-- An operator between two operands; none if it has no value for them. -/
abbrev BinaryOperator := Int → Int → Option Int

def dividing (f : Int → Int → Int) : BinaryOperator := fun a b => if b = 0 then none else some (f a b)

/-- The operators between two operands, the loosest first. An operator stands before those that it is
the beginning of. -/
def levels : List (List (String × BinaryOperator)) :=
  let total (f : Int → Int → Int) : BinaryOperator := fun a b => some (f a b)
  [[("||", total fun a b => truth (a != 0 || b != 0))],
    [("&&", total fun a b => truth (a != 0 && b != 0))],
    [("==", total fun a b => truth (a == b)), ("!=", total fun a b => truth (a != b))],
    [("<=", total fun a b => truth (a ≤ b)), (">=", total fun a b => truth (b ≤ a)),
      ("<", total fun a b => truth (a < b)), (">", total fun a b => truth (b < a))],
    [("+", total (· + ·)), ("-", total (· - ·))],
    [("*", total (· * ·)), ("/", dividing Int.tdiv), ("%", dividing Int.tmod)]]

def blanks : Scan Unit := do let _ ← run fun c => c == ' ' || c == '\t' || c == '\n'

/-- An operand, given how to read what stands in brackets. Signs may repeat. -/
def operand (lookup : Octets → Int) (inner : Scan (Option Int)) : Scan (Option Int) := do
  blanks
  let signs ← many (do let c ← satisfy fun c => ['-', '+', '!'].contains c; blanks; pure c)
  let value ← (do
    char '('
    let value ← inner
    blanks
    char ')'
    pure value) <|> (do
    let first ← satisfy Char.isDigit
    pure (some (numeral (first :: (← run Char.isAlphanum)) : Int))) <|> do
    pure (some (lookup (← run1 isNameChar)))
  pure (value.map fun value => signs.foldr (fun sign value =>
    if sign = '-' then -value else if sign = '!' then truth (value == 0) else value) value)

/-- An expression of the given operator levels; operators of one level are read from the left. -/
def levelled (tight : Scan (Option Int)) : List (List (String × BinaryOperator)) → Scan (Option Int)
  | [] => tight
  | operators :: tighter => do
    let below := levelled tight tighter
    let first ← below
    let others ← many (do
      blanks
      let apply ← operators.foldr (fun (sign, apply) rest => (do literal sign; pure apply) <|> rest)
        failure
      pure (apply, ← below))
    pure (others.foldl (fun value (apply, next) => do apply (← value) (← next)) first)

/-- An expression with at most `depth` open brackets. -/
def expression (lookup : Octets → Int) : (depth : Nat) → Scan (Option Int)
  | 0 => failure
  | depth + 1 => levelled (operand lookup (expression lookup depth)) levels

/-- The value of an expression in which variables stand for their values, or what is wrong with it. -/
def evaluate (s : State) (cs : Octets) : Except String Int :=
  let lookup (name : Octets) : Int := ((valueOf? s name).map integerOf).getD 0
  let whole : Scan (Option Int) := do
    let value ← expression lookup (cs.length + 1)
    blanks
    ended
    pure value
  match whole cs with
  | some (some n, _) => .ok n
  | some (none, _) => .error "division by zero"
  | none => .error "expecting primary"

end ShaderDriver.Shell
