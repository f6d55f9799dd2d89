import ShaderDriver.Text.Search

namespace ShaderDriver

/-- A reader of the front of a text: it gives a result and the rest, or fails. An alternative starts again
where the failed one started. -/
abbrev Scan (α : Type) := StateT (List Char) Option α

namespace Scan

def next : Scan Char := fun
  | [] => none
  | c :: cs => some (c, cs)

/-- Takes the next character if it satisfies `p`. -/
def satisfy (p : Char → Bool) : Scan Char := fun
  | [] => none
  | c :: cs => if p c then some (c, cs) else none

/-- Takes exactly the given character. -/
def char (c : Char) : Scan Unit := do let _ ← satisfy (· == c)

/-- Takes exactly the given text. -/
def literal (s : String) : Scan Unit := fun cs => (Text.strip? s.toList cs).map ((), ·)

/-- Takes the longest run of characters that satisfy `p`. -/
def run (p : Char → Bool) : Scan (List Char) := fun cs => some (cs.takeWhile p, cs.dropWhile p)

/-- As `run`, but takes at least one character. -/
def run1 (p : Char → Bool) : Scan (List Char) := do
  let taken ← run p
  guard !taken.isEmpty
  pure taken

/-- Takes exactly `n` characters that satisfy `p`. -/
def exactly (n : Nat) (p : Char → Bool) : Scan (List Char) := fun cs =>
  let taken := cs.take n
  if taken.length = n ∧ taken.all p then some (taken, cs.drop n) else none

/-- Reads what `p` reads, or nothing. -/
def optionally (p : Scan α) : Scan (Option α) := (some <$> p) <|> pure none

/-- Whether the text goes on with `s`, which stays. -/
def ahead (s : String) : Scan Bool := fun cs => some ((Text.strip? s.toList cs).isSome, cs)

/-- Succeeds at the end of the text only. -/
def ended : Scan Unit := fun cs => if cs.isEmpty then some ((), []) else none

/-- Repeats `p` at most `count` times, until it fails. -/
def upTo (p : Scan α) : (count : Nat) → Scan (List α)
  | 0 => pure []
  | count + 1 => (do
      let first ← p
      let others ← upTo p count
      pure (first :: others)) <|> pure []

/-- Repeats `p`, which takes at least one character each time, until it fails. -/
def many (p : Scan α) : Scan (List α) := fun cs => upTo p cs.length cs

/-- Reads `p` once and again behind each `separator`. -/
def separated (p : Scan α) (separator : Scan Unit) : Scan (List α) := do
  let first ← p
  let others ← many (do separator; p)
  pure (first :: others)

def whole (p : Scan α) (s : String) : Option α :=
  let complete : Scan α := do
    let result ← p
    ended
    pure result
  (complete s.toList).map (·.1)

end Scan

end ShaderDriver
