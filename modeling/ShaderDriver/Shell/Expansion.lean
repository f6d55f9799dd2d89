import ShaderDriver.Shell.Arithmetic
import ShaderDriver.Shell.Pattern
import ShaderDriver.Shell.Script

namespace ShaderDriver.Shell

/-- Fields under construction: those that are finished, and the one that is open, if any. -/
structure Fields where
  finished : List Pattern := []
  current : Option Pattern := none

namespace Fields

def append (fields : Fields) (cs : Pattern) : Fields :=
  { fields with current := some (fields.current.getD [] ++ cs) }

def close (fields : Fields) : Fields :=
  ⟨fields.finished ++ fields.current.toList, none⟩

/-- Appends a value that is not quoted: separators close a field. Of white space, several count as one
separator. -/
def split (separators : Octets) (fields : Fields) (cs : Octets) : Fields :=
  cs.foldl (fun fields c =>
    if !separators.contains c then fields.append [(c, false)]
    else if c = ' ' ∨ c = '\t' ∨ c = '\n' then fields.close
    else (fields.append []).close) fields

end Fields

def quoted (cs : Octets) : Pattern := cs.map fun c => (c, true)

/-- The value of a parameter, if it is set. -/
def parameter? (s : State) (name : Octets) : Option Octets :=
  match name with
  | ['#'] => some (toString s.positional.length).toList
  | ['?'] => some (toString s.status).toList
  | ['$'] => some (toString ownNumber).toList
  | ['!'] => some (toString (ownNumber + 1)).toList
  | ['-'] => some []
  | ['@'] | ['*'] =>
    if s.positional.isEmpty then none else some (Text.joinWith [' '] s.positional)
  | ['0'] => some s.name
  | _ =>
    if name.all Char.isDigit then s.positional[Numeral.value name - 1]? else valueOf? s name

/-- The output of a command without the line ends behind it. -/
def substitute (execute : Runner) (script : Octets) : Run Octets := do
  let output ← capturing (runScript execute script)
  pure (Text.trimEnd (· == '\n') (output.filter (· != '\x00')))

/-- The value of a parameter. One that is not set may have to be set. -/
def requireValue (name : Octets) : Run Octets := do
  let s ← get
  match parameter? s name with
  | some found => pure found
  | none =>
    if s.refuseUnset && !(name == ['@'] || name == ['*']) then
      fatal s!"{toText name}: parameter not set"
    else pure []

/-- Adds a piece to the fields, given how to run a command and how to expand a word inside it. -/
def addPiece (execute : Runner) (inner : Word → Run Pattern) (fields : Fields) :
    Piece → Run Fields
  | .text cs isQuoted =>
    pure (if cs.isEmpty && !isQuoted then fields else fields.append (cs.map fun c => (c, isQuoted)))
  | .parameter ['@'] .plain true => do
    match (← get).positional with
    | [] => pure fields
    | first :: rest =>
      pure (rest.foldl (fun fields value => fields.close.append (quoted value))
        (fields.append (quoted first)))
  | .parameter name .plain isQuoted => do value isQuoted (← requireValue name)
  | .parameter _ .unknown _ => fatal "Bad substitution"
  | .parameter name .length isQuoted => do
    value isQuoted (toString (← requireValue name).length).toList
  | .parameter name (.fallback ifEmpty word) isQuoted => do
    match present ifEmpty (parameter? (← get) name) with
    | some found => value isQuoted found
    | none => other isQuoted word
  | .parameter name (.assign ifEmpty word) isQuoted => do
    match present ifEmpty (parameter? (← get) name) with
    | some found => value isQuoted found
    | none =>
      let chosen := (← inner (parseWord word)).map (·.1)
      setVariable name chosen
      value isQuoted chosen
  | .parameter name (.require ifEmpty word) isQuoted => do
    match present ifEmpty (parameter? (← get) name) with
    | some found => value isQuoted found
    | none =>
      let text := toText ((← inner (parseWord word)).map (·.1))
      let standard := if ifEmpty then "parameter not set or null" else "parameter not set"
      fatal s!"{toText name}: {if word.isEmpty then standard else text}"
  | .parameter name (.instead ifEmpty word) isQuoted => do
    match present ifEmpty (parameter? (← get) name) with
    | some _ => other isQuoted word
    | none => value isQuoted []
  | .parameter name (.dropStart longest pattern) isQuoted => do
    let found ← requireValue name
    value isQuoted (dropStart longest (← inner (parseWord pattern)) found)
  | .parameter name (.dropEnd longest pattern) isQuoted => do
    let found ← requireValue name
    value isQuoted (dropEnd longest (← inner (parseWord pattern)) found)
  | .substitution script isQuoted => do value isQuoted (← substitute execute script)
  | .arithmetic cs isQuoted => do
    let text := (← inner (parseQuoted cs)).map (·.1)
    match evaluate (← get) text with
    | .ok n => value isQuoted (toString n).toList
    | .error problem => fatal s!"arithmetic expression: {problem}: \"{toText text}\""
where
  /-- The fields with a value added. -/
  value (isQuoted : Bool) (cs : Octets) : Run Fields := do
    let separators := (valueOf? (← get) "IFS".toList).getD [' ', '\t', '\n']
    pure (if isQuoted then fields.append (quoted cs) else fields.split separators cs)
  /-- A value that counts as set. -/
  present (ifEmpty : Bool) (found : Option Octets) : Option Octets :=
    found.filter fun cs => !(ifEmpty && cs.isEmpty)
  /-- The fields with a word of a modifier added. -/
  other (isQuoted : Bool) (word : Octets) : Run Fields := do
    let text := (← inner (if isQuoted then parseQuoted word else parseWord word)).map (·.1)
    value isQuoted text

/-- A word as one field, without splitting. Modifiers nest at most `depth` deep. -/
def expandWhole (execute : Runner) : (depth : Nat) → Word → Run Pattern
  | 0, _ => pure []
  | depth + 1, word => do
    let fields ← word.foldlM (fun fields piece => do
      let added ← addPiece execute (expandWhole execute depth) {} (asQuoted piece)
      let parts := added.close.finished
      pure (fields ++ mark piece (Text.joinWith [(' ', true)] parts))) []
    pure fields
where
  /-- The piece as if it stood in quotes, so that it is not split. -/
  asQuoted : Piece → Piece
    | .parameter ['*'] .plain _ => .parameter ['@'] .plain true
    | .parameter name modifier _ => .parameter name modifier true
    | .substitution script _ => .substitution script true
    | .arithmetic cs _ => .arithmetic cs true
    | piece => piece
  /-- Characters of a value count as quoted only where the piece is. -/
  mark (piece : Piece) (cs : Pattern) : Pattern :=
    match piece with
    | .text _ _ => cs
    | .parameter _ _ isQuoted | .substitution _ isQuoted | .arithmetic _ isQuoted =>
      cs.map fun (c, _) => (c, isQuoted)

/-- How deep modifiers may nest. -/
def modifierDepth : Nat := 100

def expandPattern (execute : Runner) (word : Word) : Run Pattern :=
  expandWhole execute modifierDepth word

def expandValue (execute : Runner) (word : Word) : Run Octets := do
  pure ((← expandPattern execute word).map (·.1))

/-- Whether a pattern has characters that match more than themselves. -/
def isOpen (pattern : Pattern) : Bool :=
  pattern.any fun (c, isQuoted) => !isQuoted && (c == '*' || c == '?' || c == '[')

/-- Paths that match a pattern, given part by part, behind a path that is already there. A leading dot
is matched only by itself. -/
def matchingPaths (world : World) : (parts : List Pattern) → (front : Octets) → List Octets
  | [], front => [front]
  | part :: parts, front =>
    let join (name : Octets) : Octets := if parts.isEmpty then front ++ name else front ++ name ++ ['/']
    if isOpen part then
      let names := (world.listDirectory (if front.isEmpty then "." else toText front)).toOption.getD []
      let fitting := (names.map ofString).filter fun name =>
        isMatch part name && (name.head? != some '.' || (part.head?.map (·.1)) == some '.')
      fitting.flatMap fun name => matchingPaths world parts (join name)
    else matchingPaths world parts (join (part.map (·.1)))

/-- The sorted paths of files that match a pattern; without any, the pattern's own text. -/
def pathsOf (world : World) (pattern : Pattern) : List Octets :=
  let slash : Pattern → List Pattern := fun cs => cs.foldr (fun (c, isQuoted) parts =>
    if c == '/' then [] :: parts
    else match parts with
      | part :: parts => ((c, isQuoted) :: part) :: parts
      | [] => [[(c, isQuoted)]]) [[]]
  let found := if isOpen pattern then
      (matchingPaths world (slash pattern) []).filter fun path => world.fileExists (toText path)
    else []
  if found.isEmpty then [pattern.map (·.1)] else found.mergeSort octetsLe

def expandAll (execute : Runner) (words : List Word) : Run (List Octets) := do
  let expanded ← words.mapM fun word => do
    let fields ← word.foldlM (addPiece execute (expandPattern execute)) {}
    pure fields.close.finished
  let world := (← get).world
  pure (expanded.flatten.flatMap (pathsOf world))

end ShaderDriver.Shell
