import ShaderDriver.Text.Search

namespace ShaderDriver.Cli

/-- Why the arguments lead to no action: help or the version was asked for, or they are not understood. -/
inductive Interruption where
  | help
  | version
  | misuse
deriving DecidableEq, Repr

def Interruption.exitCode : Interruption → UInt32
  | help | version => 0
  | misuse => 2

/-- What an option does. Flags and single values may be given once. -/
inductive OptionKind where
  | flag
  | single (accepts : String → Bool)
  | repeated
  | interruption (what : Interruption)

/-- An option and its names. -/
structure OptionRule where
  long : String
  short : Option Char
  kind : OptionKind

namespace OptionRule

def takesValue (rule : OptionRule) : Bool :=
  match rule.kind with
  | .single _ | .repeated => true
  | .flag | .interruption _ => false

end OptionRule

/-- What can be given to a command. -/
structure Level where
  options : List OptionRule
  operands : Nat := 0
  takesRest : Bool := false
  commands : List String := []

/-- What was given: options with their values in order, operands, and what stands behind `--`. -/
structure Given where
  options : List (String × String) := []
  operands : List String := []
  rest : List String := []
deriving DecidableEq, Repr

namespace Given

def has (given : Given) (name : String) : Bool := given.options.any (·.1 == name)

def value? (given : Given) (name : String) : Option String := given.options.lookup name

def values (given : Given) (name : String) : List String :=
  (given.options.filter (·.1 == name)).map (·.2)

/-- Notes an option with its value; a flag's value is empty. -/
def add (given : Given) (rule : OptionRule) (value : String) : Except Interruption Given :=
  let added := { given with options := given.options ++ [(rule.long, value)] }
  match rule.kind with
  | .interruption what => .error what
  | .repeated => .ok added
  | .flag => if given.has rule.long then .error .misuse else .ok added
  | .single accepts =>
    if given.has rule.long || !accepts value then .error .misuse else .ok added

end Given

/-- How an argument looks. A lone dash is an operand. -/
inductive Shape where
  | separator
  | long (name : List Char) (value : Option (List Char))
  | letters (cs : List Char)
  | operand
deriving DecidableEq, Repr

namespace Shape

/-- The shape of an argument. The value of a long option stands behind the first `=`. -/
def ofArgument : List Char → Shape
  | ['-', '-'] => separator
  | '-' :: '-' :: rest =>
    match Text.splitFirst ['='] rest with
    | some (name, value) => long name (some value)
    | none => long rest none
  | '-' :: c :: cs => letters (c :: cs)
  | _ => operand

end Shape

namespace Level

/-- Reads an option by its long name. The answer tells which option still awaits its value. -/
def readLong (level : Level) (name : List Char) (value : Option (List Char)) (given : Given) :
    Except Interruption (Given × Option OptionRule) :=
  match level.options.find? fun rule => rule.long.toList == name with
  | none => .error .misuse
  | some rule =>
    match rule.takesValue, value with
    | true, some value => do pure (← given.add rule (String.ofList value), none)
    | true, none => .ok (given, some rule)
    | false, some _ => .error .misuse
    | false, none => do pure (← given.add rule "", none)

/-- Reads options by their letters. A value may follow the letter of its option, also behind `=`. -/
def readLetters (level : Level) :
    List Char → Given → Except Interruption (Given × Option OptionRule)
  | [], given => .ok (given, none)
  | c :: cs, given =>
    match level.options.find? fun rule => rule.short == some c with
    | none => .error .misuse
    | some rule =>
      if rule.takesValue then
        match cs with
        | [] => .ok (given, some rule)
        | '=' :: value => do pure (← given.add rule (String.ofList value), none)
        | value => do pure (← given.add rule (String.ofList value), none)
      else do readLetters level cs (← given.add rule "")

/-- Reads arguments up to a command. The answer is what was given, and the command with the arguments
behind it. An option that awaits its value takes the next argument if that is an operand. -/
def read (level : Level) :
    (awaiting : Option OptionRule) → Given → List String → Except Interruption (Given × List String)
  | none, given, [] => .ok (given, [])
  | some _, _, [] => .error .misuse
  | some rule, given, argument :: rest =>
    match Shape.ofArgument argument.toList with
    | .operand => do read level none (← given.add rule argument) rest
    | _ => .error .misuse
  | none, given, argument :: rest =>
    match Shape.ofArgument argument.toList with
    | .separator =>
      if level.takesRest || rest.isEmpty then .ok ({ given with rest }, []) else .error .misuse
    | .long name value => do
      let (given, awaiting) ← level.readLong name value given
      read level awaiting given rest
    | .letters cs => do
      let (given, awaiting) ← level.readLetters cs given
      read level awaiting given rest
    | .operand =>
      if level.commands.contains argument then .ok (given, argument :: rest)
      else if given.operands.length < level.operands then
        read level none { given with operands := given.operands ++ [argument] } rest
      else .error .misuse

end Level

end ShaderDriver.Cli
