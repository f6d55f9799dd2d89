namespace ShaderDriver.Shell

/-- Text of a shell: a sequence of octets, each written as the character of its number. -/
abbrev Octets := List Char

/-- What is done with the value of a parameter. `ifEmpty` extends a rule for parameters that are not
set to those with an empty value. -/
inductive Modifier where
  | plain
  | unknown
  | length
  | fallback (ifEmpty : Bool) (word : Octets)
  | assign (ifEmpty : Bool) (word : Octets)
  | instead (ifEmpty : Bool) (word : Octets)
  | require (ifEmpty : Bool) (word : Octets)
  | dropStart (longest : Bool) (pattern : Octets)
  | dropEnd (longest : Bool) (pattern : Octets)
deriving Repr

/-- A piece of a word. -/
inductive Piece where
  | text (cs : Octets) (quoted : Bool)
  | parameter (name : Octets) (modifier : Modifier) (quoted : Bool)
  | substitution (script : Octets) (quoted : Bool)
  | arithmetic (expression : Octets) (quoted : Bool)
deriving Repr

/-- A word: pieces that stand without white space between them. -/
abbrev Word := List Piece

/-- How a redirection treats its target. The target of a document is the text that is read. -/
inductive Redirection where
  | read
  | write
  | append
  | duplicate
  | document
deriving DecidableEq, Repr

/-- A redirection of a descriptor. -/
structure Redirect where
  descriptor : Nat
  how : Redirection
  target : Word
deriving Repr

/-- A command. A loop knows whether it has gone round before. -/
inductive Command where
  | skip
  | simple (line : Nat) (assignments : List (Octets × Word)) (words : List Word)
      (redirects : List Redirect)
  | redirected (body : Command) (redirects : List Redirect)
  | subshell (body : Command)
  | conditional (condition yes no : Command)
  | loop (started until_ : Bool) (condition body : Command)
  | forEach (name : Octets) (words : Option (List Word)) (body : Command)
  | select (subject : Word) (clauses : List (List Word × Command))
  | define (name : Octets) (body : Command)
  | negate (body : Command)
  | pipe (first second : Command)
  | both (first second : Command)
  | either (first second : Command)
  | sequence (first second : Command)
  | background (body : Command)
deriving Repr

end ShaderDriver.Shell
