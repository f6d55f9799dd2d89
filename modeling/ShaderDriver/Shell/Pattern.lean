import ShaderDriver.Shell.Syntax

namespace ShaderDriver.Shell

/-- A pattern: characters, and whether they are quoted. -/
abbrev Pattern := List (Char × Bool)

/-- The members of a bracket expression, as ranges. -/
def ranges : List Char → List (Char × Char)
  | a :: '-' :: b :: rest => (a, b) :: ranges rest
  | a :: rest => (a, a) :: ranges rest
  | [] => []

def inBracket (members : List Char) (c : Char) : Bool :=
  let (negated, members) := match members with
    | '!' :: rest => (true, rest)
    | '^' :: rest => (true, rest)
    | rest => (false, rest)
  (ranges members).any (fun (low, high) => low ≤ c && c ≤ high) != negated

/-- The members of a bracket expression behind its `[`, and the pattern behind its `]`. -/
def bracket? (pattern : Pattern) : Option (List Char × Pattern) :=
  let lead := pattern.takeWhile fun (c, quoted) => !quoted && (c == '!' || c == '^')
  let rest := pattern.drop (lead.take 1).length
  let closing := match rest with
    | (']', false) :: _ => 1
    | _ => 0
  let body := rest.take closing ++ (rest.drop closing).takeWhile (· != (']', false))
  match rest.drop body.length with
  | _ :: behind => some ((lead.take 1 ++ body).map (·.1), behind)
  | [] => none

theorem bracket?_shorter {pattern behind : Pattern} {members : List Char}
    (h : bracket? pattern = some (members, behind)) : behind.length < pattern.length := by
  simp only [bracket?] at h
  split at h
  · next first rest same =>
    cases h
    have bound := congrArg List.length same
    simp only [List.length_drop, List.length_cons] at bound
    omega
  · cases h

/-- All endings of a text, the longest first. -/
def endings : List α → List (List α)
  | [] => [[]]
  | a :: rest => (a :: rest) :: endings rest

def isMatch (pattern : Pattern) (cs : List Char) : Bool :=
  match pattern with
  | [] => cs.isEmpty
  | ('*', false) :: rest => (endings cs).any fun ending => isMatch rest ending
  | ('?', false) :: rest =>
    match cs with
    | _ :: cs => isMatch rest cs
    | [] => false
  | ('[', false) :: rest =>
    match found : bracket? rest with
    | some (members, behind) =>
      have := bracket?_shorter found
      match cs with
      | c :: cs => inBracket members c && isMatch behind cs
      | [] => false
    | none =>
      match cs with
      | c :: cs => c == '[' && isMatch rest cs
      | [] => false
  | (p, _) :: rest =>
    match cs with
    | c :: cs => p == c && isMatch rest cs
    | [] => false
termination_by pattern.length

/-- The text without a beginning that matches, the shortest or the longest one. -/
def dropStart (longest : Bool) (pattern : Pattern) (cs : List Char) : List Char :=
  let counts := List.range (cs.length + 1)
  let order := if longest then counts.reverse else counts
  match order.find? fun n => isMatch pattern (cs.take n) with
  | some n => cs.drop n
  | none => cs

/-- The text without an ending that matches, the shortest or the longest one. -/
def dropEnd (longest : Bool) (pattern : Pattern) (cs : List Char) : List Char :=
  let counts := List.range (cs.length + 1)
  let order := if longest then counts else counts.reverse
  match order.find? fun n => isMatch pattern (cs.drop n) with
  | some n => cs.take n
  | none => cs

end ShaderDriver.Shell
