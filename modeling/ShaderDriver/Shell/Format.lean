import ShaderDriver.Shell.Arithmetic

namespace ShaderDriver.Shell

/-- The octets that a text with escapes stands for. The flag tells that the output ends there. -/
structure Escaped where
  cs : Octets
  ends : Bool := false

/-- Up to `count` octal digits at the front. -/
def octal (count : Nat) (cs : Octets) : Octets :=
  (cs.take count).takeWhile fun c => '0' ≤ c && c ≤ '7'

def octet (digits : Octets) : Char :=
  Char.ofNat ((digits.foldl (fun n c => 8 * n + (c.toNat - '0'.toNat)) 0) % 256)

def letterEscape? (c : Char) : Option Char :=
  match c with
  | 'a' => some '\x07'
  | 'b' => some '\x08'
  | 'e' => some '\x1B'
  | 'f' => some '\x0C'
  | 'n' => some '\n'
  | 'r' => some '\r'
  | 't' => some '\t'
  | 'v' => some '\x0B'
  | '\\' => some '\\'
  | _ => none

/-- Reads escapes as `echo` and `%b` do: octal numbers follow `\0`, and `\c` ends the output. -/
def unescape (cs : Octets) : Escaped :=
  match cs with
  | [] => ⟨[], false⟩
  | '\\' :: '0' :: rest =>
    let digits := octal 3 rest
    let more := unescape (rest.drop digits.length)
    { more with cs := octet digits :: more.cs }
  | '\\' :: 'c' :: _ => ⟨[], true⟩
  | '\\' :: c :: rest =>
    let more := unescape rest
    match letterEscape? c with
    | some found => { more with cs := found :: more.cs }
    | none => { more with cs := '\\' :: c :: more.cs }
  | c :: rest =>
    let more := unescape rest
    { more with cs := c :: more.cs }
termination_by cs.length
decreasing_by all_goals simp only [List.length_drop, List.length_cons]; omega

/-- A part of a format: text, or a conversion with flags, width, precision and letter. -/
inductive Part where
  | text (cs : Octets)
  | conversion (flags : List Char) (width precision : Option Octets) (letter : Char)

/-- The parts of a format. An octal number follows a backslash directly. -/
def parts (cs : Octets) : List Part :=
  match cs with
  | [] => []
  | '%' :: '%' :: rest => .text ['%'] :: parts rest
  | '%' :: rest =>
    let flags := rest.takeWhile fun c => ['-', '+', ' ', '#', '0'].contains c
    let rest := rest.drop flags.length
    let width := rest.takeWhile fun c => c.isDigit || c == '*'
    let rest := rest.drop width.length
    let point := rest.take 1 == ['.']
    let rest := if point then rest.drop 1 else rest
    let precision := if point then rest.takeWhile fun c => c.isDigit || c == '*' else []
    let width? := if width.isEmpty then none else some width
    let precision? := if point then some precision else none
    (match rest.drop precision.length with
      | letter :: _ => [.conversion flags width? precision? letter]
      | [] => []) ++ parts (rest.drop (precision.length + 1))
  | '\\' :: c :: rest =>
    let digits := octal 3 (c :: rest)
    if digits.isEmpty then
      match letterEscape? c with
      | some found => .text [found] :: parts rest
      | none => .text (if c = '"' ∨ c = '\'' then [c] else ['\\', c]) :: parts rest
    else .text [octet digits] :: parts (rest.drop (digits.length - 1))
  | c :: rest => .text [c] :: parts rest
termination_by cs.length
decreasing_by
  all_goals (try split) <;> simp only [List.length_drop, List.length_cons] <;> omega

/-- A conversion's state: the output so far, the arguments left, whether the output has ended, and
the arguments that were no numbers. -/
structure Formatting where
  output : Octets := []
  arguments : List Octets
  ended : Bool := false
  used : Bool := false
  notNumbers : List Octets := []
  unknown : Option Char := none

/-- Takes the next argument, or none. -/
def Formatting.take (f : Formatting) : Option Octets × Formatting :=
  match f.arguments with
  | [] => (none, { f with used := true })
  | first :: rest => (some first, { f with arguments := rest, used := true })

def isInteger (cs : Octets) : Bool :=
  let body := match cs with
    | '-' :: rest => rest
    | '+' :: rest => rest
    | cs => cs
  match body with
  | '0' :: 'x' :: rest => !rest.isEmpty && rest.all fun c => c.isDigit || ('a' ≤ c.toLower && c.toLower ≤ 'f')
  | body => Numeral.isNumeral body

/-- The integer of an argument: a quote before a character stands for its number. -/
def Formatting.integer (f : Formatting) : Int × Formatting :=
  match f.take with
  | (none, f) => (0, f)
  | (some ('\'' :: c :: _), f) | (some ('"' :: c :: _), f) => ((c.toNat : Int), f)
  | (some cs, f) =>
    (integerOf cs, if isInteger cs then f else { f with notNumbers := f.notNumbers ++ [cs] })

def pad (flags : List Char) (width : Nat) (zeros : Bool) (cs : Octets) : Octets :=
  let missing := width - cs.length
  if flags.contains '-' then cs ++ List.replicate missing ' '
  else if zeros then
    match cs with
    | '-' :: digits => '-' :: List.replicate missing '0' ++ digits
    | digits => List.replicate missing '0' ++ digits
  else List.replicate missing ' ' ++ cs

def Formatting.step (f : Formatting) : Part → Formatting
  | .text cs => if f.ended then f else { f with output := f.output ++ cs }
  | .conversion flags width precision letter =>
    if f.ended then f
    else
      let (wanted, f) := match width with
        | some ['*'] => let (n, f) := f.integer; (n.natAbs, f)
        | some digits => (Numeral.value digits, f)
        | none => (0, f)
      let precision := precision.map Numeral.value
      let emit (f : Formatting) (zeros : Bool) (cs : Octets) : Formatting :=
        { f with output := f.output ++ pad flags wanted zeros cs }
      let number (f : Formatting) (cs : Octets) (negative : Bool) : Formatting :=
        let digits := List.replicate (precision.getD 0 - cs.length) '0' ++ cs
        let sign :=
          if negative then ['-']
          else if flags.contains '+' then ['+']
          else if flags.contains ' ' then [' '] else []
        emit f (flags.contains '0' && precision.isNone) (sign ++ digits)
      match letter with
      | 's' =>
        let (argument, f) := f.take
        let cs := argument.getD []
        emit f false (match precision with
          | some n => cs.take n
          | none => cs)
      | 'b' =>
        let (argument, f) := f.take
        let found := unescape (argument.getD [])
        { emit f false found.cs with ended := found.ends }
      | 'c' =>
        let (argument, f) := f.take
        emit f false ((argument.getD []).take 1)
      | 'd' | 'i' =>
        let (n, f) := f.integer
        number f (Nat.toDigits 10 n.natAbs) (n < 0)
      | 'u' =>
        let (n, f) := f.integer
        number f (Nat.toDigits 10 (n % (UInt64.size : Int)).natAbs) false
      | 'x' =>
        let (n, f) := f.integer
        let mark := if flags.contains '#' then ['0', 'x'] else []
        number f (mark ++ Nat.toDigits 16 (n % (UInt64.size : Int)).natAbs) false
      | 'X' =>
        let (n, f) := f.integer
        number f ((Nat.toDigits 16 (n % (UInt64.size : Int)).natAbs).map Char.toUpper) false
      | 'o' =>
        let (n, f) := f.integer
        number f (Nat.toDigits 8 (n % (UInt64.size : Int)).natAbs) false
      | _ => { f with ended := true, unknown := some letter }

/-- Uses a format at most `rounds` times, as long as arguments remain. -/
def formatRounds (format : List Part) : (rounds : Nat) → Formatting → Formatting
  | 0, f => f
  | rounds + 1, f =>
    let after := format.foldl Formatting.step { f with used := false }
    if after.arguments.isEmpty || after.ended || !after.used then after
    else formatRounds format rounds after

def formatAll (format : Octets) (arguments : List Octets) : Formatting :=
  formatRounds (parts format) (arguments.length + 1) { arguments }

end ShaderDriver.Shell
