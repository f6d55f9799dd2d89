import ShaderDriver.Shell.Word
import ShaderDriver.Text.Numeral

namespace ShaderDriver.Shell

/-- Why a text is no script, and how many line ends it has behind that. -/
structure SyntaxError where
  message : String
  linesLeft : Nat
deriving Repr

/-- A reader of a script, which knows the number of its line ends. -/
abbrev Parse (α : Type) := ReaderT Nat (StateT Octets (Except SyntaxError)) α

/-- A token. Operators are marks, and so are reserved words where they count as such. -/
inductive Token where
  | endOfFile
  | newline
  | word (word : Word)
  | redirection (descriptor : Nat) (how : Redirection) (stripped : Bool)
  | mark (text : String)

namespace Token

def shown : Token → String
  | endOfFile => "end of file"
  | newline => "newline"
  | word _ => "word"
  | redirection .. => "redirection"
  | mark text => "\"" ++ text ++ "\""

def isMark (token : Token) (text : String) : Bool :=
  match token with
  | mark other => other == text
  | _ => false

/-- The token as a word; reserved words are words like others. -/
def word? : Token → Option Word
  | word pieces => some pieces
  | mark text => if text.toList.all Char.isAlpha then some [.text text.toList false] else none
  | _ => none

def endsList (token : Token) : Bool :=
  match token with
  | endOfFile => true
  | mark text =>
    [")", ";;", "do", "done", "elif", "else", "esac", "fi", "then", "\x7d"].contains text
  | _ => false

end Token

def reserved : List String :=
  ["if", "then", "else", "elif", "fi", "do", "done", "case", "esac", "while", "until", "for", "in",
    "\x7b", "\x7d", "!"]

/-- The operators. One stands before those that it starts with. -/
def operators : List String := ["&&", "||", ";;", "&", "|", ";", "(", ")"]

/-- The signs of redirections, with the descriptors that they redirect. -/
def redirections : List (String × Nat × Redirection × Bool) :=
  [("<<-", 0, .document, true), ("<<", 0, .document, false), ("<&", 0, .duplicate, false),
    ("<", 0, .read, false), (">>", 1, .append, false), (">&", 1, .duplicate, false),
    (">|", 1, .write, false), (">", 1, .write, false)]

/-- Drops white space, continued lines and comments, and line ends if they do not count. -/
def skip (newlines : Bool) : (comment : Bool) → Octets → Octets
  | _, [] => []
  | _, '\n' :: cs => if newlines then skip newlines false cs else '\n' :: cs
  | true, _ :: cs => skip newlines true cs
  | false, ' ' :: cs | false, '\t' :: cs | false, '\\' :: '\n' :: cs => skip newlines false cs
  | false, '#' :: cs => skip newlines true cs
  | false, c :: cs => c :: cs

def refuse (message : String) : Parse α := do
  throw ⟨message, (← get).count '\n'⟩

/-- Stops because of a token, and tells what was expected if there was only one choice. -/
def unexpected (token : Token) (expected : Option String) : Parse α :=
  refuse (match expected with
    | some mark => s!"{token.shown} unexpected (expecting \"{mark}\")"
    | none => s!"{token.shown} unexpected")

def wordProblem (cs : Octets) : String :=
  match cs with
  | '$' :: '(' :: _ => Token.shown .endOfFile ++ " unexpected (expecting \")\")"
  | '$' :: _ => "Missing '\x7d'"
  | '\x60' :: _ => "EOF in backquote substitution"
  | _ => "Unterminated quoted string"

def redirection? (cs : Octets) : Option (Token × Octets) :=
  let digits := cs.takeWhile Char.isDigit
  redirections.findSome? fun (sign, standard, how, stripped) =>
    (Text.strip? sign.toList (cs.drop digits.length)).map fun rest =>
      let descriptor := if digits.isEmpty then standard else Numeral.value digits
      (.redirection descriptor how stripped, rest)

def operator? (cs : Octets) : Option (Token × Octets) :=
  operators.findSome? fun sign => (Text.strip? sign.toList cs).map fun rest => (.mark sign, rest)

/-- A word in front of a text, which must not go on with something unfinished. -/
def readWord (keywords : Bool) : Parse Token := do
  let cs ← get
  match word cs with
  | some (pieces, rest) =>
    if rest.head?.any isActive then
      set ([] : Octets)
      refuse (wordProblem rest)
    else
      set rest
      match pieces with
      | [.text text false] =>
        match reserved.find? fun keyword => keyword.toList == text with
        | some keyword => pure (if keywords then .mark keyword else .word pieces)
        | none => pure (.word pieces)
      | _ => pure (.word pieces)
  | none =>
    set ([] : Octets)
    refuse (wordProblem cs)

/-- Takes a token. Reserved words count as marks if `keywords` holds, and line ends do not count at all
if `newlines` holds. -/
def take (keywords newlines : Bool) : Parse Token := do
  modify (skip newlines false)
  match ← get with
  | [] => pure .endOfFile
  | '\n' :: rest =>
    set rest
    pure .newline
  | cs =>
    match (redirection? cs).or (operator? cs) with
    | some (token, rest) =>
      set rest
      pure token
    | none => readWord keywords

/-- The next token, which stays. -/
def peek (keywords newlines : Bool) : Parse Token := do
  let before ← get
  let token ← take keywords newlines
  set before
  pure token

/-- Takes exactly the given mark. -/
def expect (mark : String) : Parse Unit := do
  let token ← take true true
  if !token.isMark mark then unexpected token (some mark)

end ShaderDriver.Shell
