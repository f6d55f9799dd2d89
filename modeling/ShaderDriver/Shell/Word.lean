import ShaderDriver.Shell.Syntax
import ShaderDriver.Text.Scan

namespace ShaderDriver.Shell

open Scan

/-- Letters, digits and the underscore. -/
def isNameChar (c : Char) : Bool := c.isAlphanum || c == '_'

def isName (cs : Octets) : Bool := (cs.head?.any fun c => !c.isDigit) && cs.all isNameChar

def isSpecial (c : Char) : Bool := c.isDigit || ['@', '*', '#', '?', '$', '!', '-'].contains c

/-- Characters that end a word unless they are quoted. -/
def isMeta (c : Char) : Bool := [' ', '\t', '\n', ';', '&', '|', '<', '>', '(', ')'].contains c

def isActive (c : Char) : Bool := ['\'', '"', '\\', '$', '\x60'].contains c

/-- The text up to the bracket that closes an open one. Brackets in quotes do not count. -/
def enclosed (opening closing : Char) :
    (depth : Nat) → (quote : Option Char) → (escaped : Bool) → Octets → Option (Octets × Octets)
  | _, _, _, [] => none
  | depth, quote, escaped, c :: cs =>
    let go (depth : Nat) (quote : Option Char) (escaped : Bool) : Option (Octets × Octets) :=
      (enclosed opening closing depth quote escaped cs).map fun (inside, rest) => (c :: inside, rest)
    if escaped then go depth quote false
    else if quote = some '\'' then go depth (if c = '\'' then none else quote) false
    else if c = '\\' then go depth quote true
    else if c = '"' then go depth (if quote.isSome then none else some '"') false
    else if quote.isSome then go depth quote false
    else if c = '\'' then go depth (some '\'') false
    else if c = opening then go (depth + 1) quote false
    else if c = closing then
      match depth with
      | 0 => some ([], cs)
      | depth + 1 => go depth quote false
    else go depth quote false

def bracketed (opening closing : Char) : Scan Octets := enclosed opening closing 0 none false

def braced (cs : Octets) : Octets × Modifier :=
  match cs with
  | '#' :: c :: rest => (c :: rest, .length)
  | _ =>
    let name := if cs.head?.any isNameChar then cs.takeWhile isNameChar else cs.take 1
    match cs.drop name.length with
    | [] => (name, if name.isEmpty then .unknown else .plain)
    | ':' :: '-' :: word => (name, .fallback true word)
    | '-' :: word => (name, .fallback false word)
    | ':' :: '=' :: word => (name, .assign true word)
    | '=' :: word => (name, .assign false word)
    | ':' :: '+' :: word => (name, .instead true word)
    | '+' :: word => (name, .instead false word)
    | ':' :: '?' :: word => (name, .require true word)
    | '?' :: word => (name, .require false word)
    | '#' :: '#' :: pattern => (name, .dropStart true pattern)
    | '#' :: pattern => (name, .dropStart false pattern)
    | '%' :: '%' :: pattern => (name, .dropEnd true pattern)
    | '%' :: pattern => (name, .dropEnd false pattern)
    | _ => (name, .unknown)

/-- A command or an expression in round brackets, which a dollar sign precedes. -/
def bracketPiece (inside : Octets) (quoted : Bool) : Piece :=
  match inside with
  | '(' :: rest =>
    if rest.getLast? = some ')' then .arithmetic rest.dropLast quoted else .substitution inside quoted
  | _ => .substitution inside quoted

/-- What a dollar sign starts. In front of anything but a name or a bracket it stands for itself. -/
def dollar (quoted : Bool) : Scan Piece := do
  char '$'
  (do
    char '('
    pure (bracketPiece (← bracketed '(' ')') quoted)) <|> (do
    char '\x7b'
    let (name, modifier) := braced (← bracketed '\x7b' '\x7d')
    pure (.parameter name modifier quoted)) <|> (do
    let special ← satisfy isSpecial
    pure (.parameter [special] .plain quoted)) <|> (do
    pure (.parameter (← run1 isNameChar) .plain quoted)) <|> (do
    guard !((← ahead "(") || (← ahead "\x7b"))
    pure (.text ['$'] quoted))

/-- A command between backquotes. A backslash before a backquote, a backslash or a dollar sign goes. -/
def backquoted (quoted : Bool) : Scan Piece := do
  char '\x60'
  let body ← many ((do
    char '\\'
    let c ← satisfy fun c => c == '\x60' || c == '\\' || c == '$'
    pure c) <|> satisfy (· != '\x60'))
  char '\x60'
  pure (.substitution body quoted)

/-- A piece between double quotes, or in a document, where a double quote is an ordinary character. -/
def quotedPiece (document : Bool) : Scan Piece :=
  let isQuote (c : Char) : Bool := !document && c == '"'
  (do pure (.text (← run1 fun c => !isQuote c && c != '\\' && c != '$' && c != '\x60') true)) <|>
    dollar true <|> backquoted true <|> (do
    char '\\'
    (do
      let c ← satisfy fun c => c == '$' || c == '\x60' || c == '\\' || isQuote c
      pure (.text [c] true)) <|> (do
      char '\n'
      pure (.text [] true)) <|> pure (.text ['\\'] true))

def pieces : Scan Word :=
  (do
    char '\''
    let body ← run (· != '\'')
    char '\''
    pure [.text body true]) <|> (do
    char '"'
    let body ← many (quotedPiece false)
    char '"'
    pure (if body.isEmpty then [.text [] true] else body)) <|> (do
    literal "\\\n"
    pure []) <|> (do
    char '\\'
    let c ← next
    pure [.text [c] true]) <|> (do pure [← dollar false]) <|> (do pure [← backquoted false]) <|> do
    pure [.text (← run1 fun c => !isMeta c && !isActive c) false]

def word : Scan Word := do
  let first ← pieces
  let others ← many pieces
  pure (first ++ others.flatten)

/-- The pieces of a text that is read as the inside of double quotes. Quotes inside it only go. -/
def parseQuoted (text : Octets) : Word :=
  let piece : Scan Piece := quotedPiece false <|> do
    char '"'
    pure (.text [] true)
  ((many piece text).map (·.1)).getD []

def parseDocument (text : Octets) : Word := ((many (quotedPiece true) text).map (·.1)).getD []

/-- The pieces of a text that is read as a word in which white space stands for itself. -/
def parseWord (text : Octets) : Word :=
  let spaced : Scan Word := pieces <|> do pure [.text [← next] false]
  ((many spaced text).map fun (found, _) => found.flatten).getD []

end ShaderDriver.Shell
