import ShaderDriver.Text.Blank
import ShaderDriver.Text.Search

namespace ShaderDriver.Diagnostic

/-- The lines of a text, each with its ending: LF, CR LF or a lone CR. -/
def lines : List Char → List (List Char)
  | [] => []
  | '\r' :: '\n' :: cs => ['\r', '\n'] :: lines cs
  | c :: cs =>
    if c = '\r' ∨ c = '\n' then [c] :: lines cs
    else
      match lines cs with
      | [] => [[c]]
      | line :: rest => (c :: line) :: rest

def continuesBlock : List Char → Bool
  | ' ' :: _ => true
  | '\t' :: _ => true
  | _ => false

/-- Joins every line with the continuing lines below it, those that start with a space or a tab. The first
line opens a block whatever it starts with. -/
def gather : List (List Char) → List (List Char)
  | [] => []
  | line :: rest =>
    (line ++ (rest.takeWhile continuesBlock).flatten) :: gather (rest.dropWhile continuesBlock)
termination_by rows => rows.length
decreasing_by
  have := (List.dropWhile_sublist continuesBlock (l := rest)).length_le
  simp only [List.length_cons]
  omega

def isLineEnd (c : Char) : Bool := c == '\r' || c == '\n'

/-- The blocks of a text in order, without their final line ends. Blocks of white space are
dropped. -/
def blocks (cs : List Char) : List (List Char) :=
  ((gather (lines cs)).map (Text.trimEnd isLineEnd)).filter fun block => !block.all isBlank

end ShaderDriver.Diagnostic
