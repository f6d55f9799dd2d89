import ShaderDriver.Shell.Format

namespace ShaderDriver.Shell

/-- A program: from arguments to a status. -/
abbrev Utility := List Octets → Run Nat

/-- Options at the front of the arguments: the letters of all words that start with a minus sign and go
on, up to `--`. -/
def options : List Octets → List Char × List Octets
  | ['-', '-'] :: rest => ([], rest)
  | ('-' :: c :: cs) :: rest =>
    let (letters, operands) := options rest
    (c :: cs ++ letters, operands)
  | operands => ([], operands)

/-- Reads a file named by an argument; a minus sign is the standard input. -/
def readOperand (program : String) (limit : Option Nat) (path : Octets) : Run (Option Bytes) := do
  if path = ['-'] then pure (some (← readInput limit))
  else
    match ← openRead path with
    | .ok stream => pure (some (← readStream limit stream))
    | .error fault =>
      complain s!"{program}: {toText path}: {fault.words}"
      pure none

def worst (statuses : List Nat) : Nat := statuses.foldl max 0

def cat : Utility := fun arguments => do
  let (_, operands) := options arguments
  let paths := if operands.isEmpty then [['-']] else operands
  let statuses ← paths.mapM fun path => do
    match ← readOperand "cat" none path with
    | some bytes =>
      let _ ← write 1 bytes
      pure 0
    | none => pure 1
  pure (worst statuses)

/-- Writes its arguments with spaces between them, reading escapes. -/
def echo : Utility := fun arguments => do
  let (line, operands) := match arguments with
    | ['-', 'n'] :: rest => (false, rest)
    | operands => (true, operands)
  let found := unescape (Text.joinWith [' '] operands)
  put (found.cs ++ if line && !found.ends then ['\n'] else [])
  pure 0

def printf : Utility := fun arguments => do
  let arguments := match arguments with
    | ['-', '-'] :: rest => rest
    | arguments => arguments
  match arguments with
  | [] =>
    shellComplain "printf: usage: printf format [arg ...]"
    pure 2
  | format :: operands =>
    let done := formatAll format operands
    for bad in done.notNumbers do
      shellComplain s!"printf: {toText bad}: expected numeric value"
    put done.output
    match done.unknown with
    | some letter =>
      shellComplain s!"printf: %{letter}: invalid directive"
      pure 2
    | none => pure (if done.notNumbers.isEmpty then 0 else 1)

/-- The count behind an option letter, in the same argument or the next. -/
def countOption (letter : Char) : List Octets → Option (Octets × List Octets)
  | ('-' :: c :: cs) :: rest =>
    if c = letter then
      match cs, rest with
      | [], count :: rest => some (count, rest)
      | [], [] => none
      | count, rest => some (count, rest)
    else none
  | _ => none

/-- The lines of octets, each with its end. -/
def lineList (cs : Octets) : List Octets :=
  match cs with
  | [] => []
  | c :: rest =>
    let line := (c :: rest).takeWhile (· != '\n')
    let ended := (c :: rest).take (line.length + 1)
    ended :: lineList (rest.drop (ended.length - 1))
termination_by cs.length
decreasing_by simp only [List.length_drop, List.length_cons]; omega

/-- Copies the beginning of files: some bytes, or ten lines if nothing else is said. -/
def head : Utility := fun arguments => do
  let (bytes, lines, operands) := match countOption 'c' arguments, countOption 'n' arguments with
    | some (count, rest), _ => (some (numeral count), 0, rest)
    | none, some (count, rest) => (none, numeral count, rest)
    | none, none =>
      match arguments with
      | ('-' :: c :: cs) :: rest =>
        if c.isDigit then (none, numeral (c :: cs), rest) else (none, 10, arguments)
      | _ => (none, 10, arguments)
  let paths := if operands.isEmpty then [['-']] else operands
  let statuses ← paths.mapM fun path => do
    match ← readOperand "head" bytes path with
    | some content =>
      let _ ← write 1 (match bytes with
        | some n => content.take n
        | none => toBytes ((lineList (ofBytes content)).take lines).flatten)
      pure 0
    | none => pure 1
  pure (worst statuses)

/-- Copies the end of files: some bytes, or ten lines if nothing else is said. -/
def tail : Utility := fun arguments => do
  let (bytes, lines, operands) := match countOption 'c' arguments, countOption 'n' arguments with
    | some (count, rest), _ => (some (numeral count), 0, rest)
    | none, some (count, rest) => (none, numeral count, rest)
    | none, none => (none, 10, arguments)
  let paths := if operands.isEmpty then [['-']] else operands
  let statuses ← paths.mapM fun path => do
    match ← readOperand "tail" none path with
    | some content =>
      let all := lineList (ofBytes content)
      let _ ← write 1 (match bytes with
        | some n => content.drop (content.length - n)
        | none => toBytes (all.drop (all.length - lines)).flatten)
      pure 0
    | none => pure 1
  pure (worst statuses)

/-- The characters of a set for `tr`: escapes and ranges. -/
def trSet (cs : Octets) : Octets :=
  match cs with
  | [] => []
  | '\\' :: c :: rest =>
    let digits := octal 3 (c :: rest)
    if digits.isEmpty then (letterEscape? c).getD c :: trSet rest
    else octet digits :: trSet (rest.drop (digits.length - 1))
  | a :: '-' :: b :: rest =>
    (List.range (b.toNat + 1 - a.toNat)).map (fun i => Char.ofNat (a.toNat + i)) ++ trSet rest
  | c :: rest => c :: trSet rest
termination_by cs.length
decreasing_by all_goals simp only [List.length_drop, List.length_cons]; omega

def squeeze (members : Octets) : Octets → Octets
  | a :: b :: rest =>
    if a = b && members.contains a then squeeze members (b :: rest) else a :: squeeze members (b :: rest)
  | rest => rest

/-- Translates, deletes or squeezes characters of the standard input. -/
def tr : Utility := fun arguments => do
  let (letters, operands) := options arguments
  let input := ofBytes (← readInput none)
  let first := trSet (operands.getD 0 [])
  let first := if letters.contains 'c' || letters.contains 'C' then
      ((List.range 256).map Char.ofNat).filter fun c => !first.contains c
    else first
  let second := trSet (operands.getD 1 [])
  let translate (c : Char) : Char :=
    match first.idxOf? c with
    | some i => second.getD i (second.getLastD c)
    | none => c
  let output :=
    if letters.contains 'd' then input.filter fun c => !first.contains c
    else if second.isEmpty then input
    else input.map translate
  let output :=
    if letters.contains 's' then squeeze (if second.isEmpty then first else second) output else output
  put output
  pure 0

def duration (cs : Octets) : Nat :=
  let whole := cs.takeWhile Char.isDigit
  let rest := cs.drop whole.length
  let fraction := if rest.take 1 == ['.'] then (rest.drop 1).takeWhile Char.isDigit else []
  let unit := match (rest.drop (fraction.length + if rest.take 1 == ['.'] then 1 else 0)) with
    | 'm' :: _ => 60
    | 'h' :: _ => 3600
    | _ => 1
  let padded := (fraction ++ List.replicate 6 '0').take 6
  (Numeral.value whole * 1000000 + Numeral.value padded) * unit

def sleep : Utility := fun arguments => do
  modify fun s => { s with clock := arguments.foldl (fun clock argument => clock + duration argument) s.clock }
  pure 0

def eraseBelow (place : Place) (tree : Tree) : Tree :=
  ⟨tree.entries.filter fun entry => !place.isPrefixOf entry.1⟩

/-- Deletes files, and with `-r` directories. -/
def rm : Utility := fun arguments => do
  let (letters, operands) := options arguments
  let force := letters.contains 'f'
  let deep := letters.contains 'r' || letters.contains 'R'
  let statuses ← operands.mapM fun path => do
    let world := (← get).world
    match world.removeFile (toText path) with
    | .ok world =>
      modify fun s => { s with world }
      pure 0
    | .error fault =>
      match fault, world.locate (toText path) with
      | .isDirectory, .ok place =>
        if deep then
          modify fun s => { s with world := { world with tree := eraseBelow place world.tree } }
          pure 0
        else
          complain s!"rm: cannot remove '{toText path}': Is a directory"
          pure 1
      | fault, _ =>
        if force && fault == .notFound then pure 0
        else
          complain s!"rm: cannot remove '{toText path}': {fault.words}"
          pure 1
  pure (worst statuses)

/-- Makes directories, and with `-p` those that lead to them. -/
def mkdir : Utility := fun arguments => do
  let (letters, operands) := options arguments
  let statuses ← operands.mapM fun path => do
    let world := (← get).world
    let text := toText (Text.trimEnd (· == '/') path)
    let make (place : Place) (tree : Tree) : Run Nat := do
      modify fun s => { s with world := { world with tree := tree.insert place .directory } }
      pure 0
    match world.entry text, world.locate text with
    | .ok entry, _ =>
      if letters.contains 'p' && entry == .directory then pure 0
      else
        complain s!"mkdir: cannot create directory '{toText path}': File exists"
        pure 1
    | .error _, .ok place => make place world.tree
    | .error _, .error fault =>
      let pieces := (World.pieces text).map String.ofList
      if letters.contains 'p' && fault == .notFound then
        let place := if Path.isAbsolute text then pieces else world.workingDir ++ pieces
        make place (world.tree.withParents place)
      else
        complain s!"mkdir: cannot create directory '{toText path}': {fault.words}"
        pure 1
  pure (worst statuses)

def rmdir : Utility := fun arguments => do
  let statuses ← arguments.mapM fun path => do
    let world := (← get).world
    let refuse (words : String) : Run Nat := do
      complain s!"rmdir: failed to remove '{toText path}': {words}"
      pure 1
    match world.locate (toText path) with
    | .ok place =>
      match world.tree.find? place with
      | some .directory =>
        if (world.tree.namesBelow place).isEmpty then
          modify fun s => { s with world := { world with tree := world.tree.erase place } }
          pure 0
        else refuse "Directory not empty"
      | some (.file _ _) => refuse Fault.notDirectory.words
      | none => refuse Fault.notFound.words
    | .error fault => refuse fault.words
  pure (worst statuses)

def touch : Utility := fun arguments => do
  let (_, operands) := options arguments
  let statuses ← operands.mapM fun path => do
    let world := (← get).world
    if world.fileExists (toText path) then pure 0
    else
      match world.writeFile (toText path) [] with
      | .ok world =>
        modify fun s => { s with world }
        pure 0
      | .error fault =>
        complain s!"touch: cannot touch '{toText path}': {fault.words}"
        pure 1
  pure (worst statuses)

/-- The target of a copy: inside a directory, the source's own name. -/
def targetOf (world : World) (source target : Octets) : String :=
  if world.isDirectory (toText target) then
    Path.join (toText target) (toText ((Text.fields '/' source).getLastD []))
  else toText target

def cp : Utility := fun arguments => do
  let (_, operands) := options arguments
  match operands with
  | [source, target] =>
    let world := (← get).world
    match world.entry (toText source) with
    | .ok (.file bytes executable) =>
      let path := targetOf world source target
      match world.locateForWriting path with
      | .ok place =>
        modify fun s =>
          { s with world := { world with tree := world.tree.insert place (.file bytes executable) } }
        pure 0
      | .error fault =>
        complain s!"cp: cannot create regular file '{path}': {fault.words}"
        pure 1
    | .ok .directory =>
      complain s!"cp: -r not specified; omitting directory '{toText source}'"
      pure 1
    | .error fault =>
      complain s!"cp: cannot stat '{toText source}': {fault.words}"
      pure 1
  | _ => pure 1

def mv : Utility := fun arguments => do
  let (_, operands) := options arguments
  match operands with
  | [source, target] =>
    let world := (← get).world
    match world.entry (toText source), world.locate (toText source) with
    | .ok (.file bytes executable), .ok old =>
      let path := targetOf world source target
      match world.locateForWriting path with
      | .ok place =>
        let tree := (world.tree.erase old).insert place (.file bytes executable)
        modify fun s => { s with world := { world with tree } }
        pure 0
      | .error fault =>
        complain s!"mv: cannot move '{toText source}' to '{path}': {fault.words}"
        pure 1
    | .error fault, _ | _, .error fault =>
      complain s!"mv: cannot stat '{toText source}': {fault.words}"
      pure 1
    | _, _ => pure 1
  | _ => pure 1

/-- Lets a file be run, or forbids it. -/
def chmod : Utility := fun arguments => do
  match arguments with
  | mode :: paths =>
    let executable := mode.contains 'x' && !mode.contains '-' ||
      (mode.getLast?.any fun c => c.isDigit && c.toNat % 2 == 1)
    for path in paths do
      let world := (← get).world
      match world.entry (toText path), world.locate (toText path) with
      | .ok (.file bytes _), .ok place =>
        modify fun s =>
          { s with world := { world with tree := world.tree.insert place (.file bytes executable) } }
      | _, _ => pure ()
    pure 0
  | [] => pure 1

/-- Counts lines, words or bytes. -/
def wc : Utility := fun arguments => do
  let (letters, operands) := options arguments
  let content ← match operands with
    | [] => some <$> readInput none
    | path :: _ => readOperand "wc" none path
  match content with
  | none => pure 1
  | some bytes =>
    let cs := ofBytes bytes
    let words := (Text.fields ' ' (cs.map fun c => if c == '\n' || c == '\t' then ' ' else c)).filter
      fun word => !word.isEmpty
    let counts :=
      (if letters.contains 'l' then [cs.count '\n'] else []) ++
      (if letters.contains 'w' then [words.length] else []) ++
      (if letters.contains 'c' then [cs.length] else [])
    let shown := (counts.map fun n => (toString n).toList) ++ operands.take 1
    put (Text.joinWith [' '] shown ++ ['\n'])
    pure 0

def seq : Utility := fun arguments => do
  let (first, step, last) := match arguments.map integerOf with
    | [last] => (1, 1, last)
    | [first, last] => (first, 1, last)
    | [first, step, last] => (first, step, last)
    | _ => (1, 1, 0)
  let count := if step = 0 then 0 else (Int.tdiv (last - first) step + 1).toNat
  let inRange := (step > 0 && first ≤ last) || (step < 0 && last ≤ first)
  if inRange then
    put ((List.range count).flatMap fun (i : Nat) => (toString (first + step * i)).toList ++ ['\n'])
  pure 0

def tee : Utility := fun arguments => do
  let (letters, operands) := options arguments
  let bytes ← readInput none
  let statuses ← operands.mapM fun path => do
    match ← openWrite path (letters.contains 'a') with
    | .ok stream =>
      let streams := (← get).streams
      withStreams (update 1 stream streams) do
        let _ ← write 1 bytes
      pure 0
    | .error fault =>
      complain s!"tee: {toText path}: {fault.words}"
      pure 1
  let _ ← write 1 bytes
  pure (worst statuses)

/-- Lists the names in directories, or the files themselves, one a line. -/
def ls : Utility := fun arguments => do
  let (letters, operands) := options arguments
  let world := (← get).world
  let paths := if operands.isEmpty then [['.']] else operands
  let statuses ← paths.mapM fun path => do
    match world.entry (toText path) with
    | .ok .directory =>
      let names := ((world.listDirectory (toText path)).toOption.getD []).map ofString
      let shown := names.filter fun name =>
        letters.contains 'a' || letters.contains 'A' || name.head? != some '.'
      put ((shown.mergeSort octetsLe).flatMap fun name => name ++ ['\n'])
      pure 0
    | .ok (.file _ _) =>
      put (path ++ ['\n'])
      pure 0
    | .error fault =>
      complain s!"ls: cannot access '{toText path}': {fault.words}"
      pure 2
  pure (worst statuses)

def sort : Utility := fun arguments => do
  let (letters, operands) := options arguments
  let paths := if operands.isEmpty then [['-']] else operands
  let contents ← paths.mapM (readOperand "sort" none)
  let lines := (contents.flatMap fun content => lineList (ofBytes (content.getD []))).map fun line =>
    Text.trimEnd (· == '\n') line
  let sorted := lines.mergeSort octetsLe
  let sorted := if letters.contains 'u' then sorted.eraseReps else sorted
  let sorted := if letters.contains 'r' then sorted.reverse else sorted
  put (sorted.flatMap fun line => line ++ ['\n'])
  pure (if contents.all Option.isSome then 0 else 2)

/-- Copies blocks between the files that `if` and `of` name. What it says of their number is for the
error output. -/
def dd : Utility := fun arguments => do
  let value (name : String) : Option Octets := arguments.findSome? fun argument =>
    Text.strip? (name ++ "=").toList argument
  let size (cs : Octets) : Nat :=
    numeral cs * (match cs.getLast? with
      | some 'k' | some 'K' => 1024
      | some 'M' => 1024 * 1024
      | _ => 1)
  let limit := (value "count").map fun count => size count * ((value "bs").map size).getD 512
  let input ← match value "if" with
    | some path => readOperand "dd" limit path
    | none => some <$> readInput limit
  match input, value "of" with
  | none, _ => pure 1
  | some bytes, none =>
    let _ ← write 1 bytes
    pure 0
  | some bytes, some path =>
    match ← openWrite path false with
    | .ok stream =>
      let streams := (← get).streams
      withStreams (update 1 stream streams) do
        let _ ← write 1 bytes
      pure 0
    | .error fault =>
      complain s!"dd: failed to open '{toText path}': {fault.words}"
      pure 1

/-- Repeats a line, as long as a reader could want. -/
def yes : Utility := fun arguments => do
  let line := (if arguments.isEmpty then ['y'] else Text.joinWith [' '] arguments) ++ ['\n']
  put (List.replicate (endless / line.length + 1) line).flatten
  pure 141

/-- The last name of a path, without an ending that is given. -/
def basename : Utility := fun arguments => do
  let path := Text.trimEnd (· == '/') (arguments.getD 0 [])
  let name := (Text.fields '/' path).getLastD []
  let ending := arguments.getD 1 []
  put ((if name = ending then name else (Text.stripEnd? ending name).getD name) ++ ['\n'])
  pure 0

/-- A path without its last name. -/
def dirname : Utility := fun arguments => do
  let path := Text.trimEnd (· == '/') (arguments.getD 0 [])
  match Text.splitLast '/' path with
  | some ([], _) => put ['/', '\n']
  | some (front, _) => put (Text.trimEnd (· == '/') front ++ ['\n'])
  | none => put ['.', '\n']
  pure 0

def unaryTest (s : State) (operator : Octets) (operand : Octets) : Option Bool :=
  let path := toText operand
  match operator with
  | ['-', 'n'] => some !operand.isEmpty
  | ['-', 'z'] => some operand.isEmpty
  | ['-', 'e'] => some (s.world.fileExists path || ["/dev/null", "/dev/zero", "/dev/stdin"].contains path)
  | ['-', 'f'] => some (s.world.isFile path)
  | ['-', 'd'] => some (s.world.isDirectory path)
  | ['-', 'r'] | ['-', 'w'] => some (s.world.fileExists path)
  | ['-', 'x'] => some (match s.world.entry path with
      | .ok (.file _ executable) => executable
      | .ok .directory => true
      | .error _ => false)
  | ['-', 's'] => some (match s.world.readBytes path with
      | .ok bytes => !bytes.isEmpty
      | .error _ => s.world.isDirectory path)
  | ['-', 'p'] =>
    let descriptor := match path with
      | "/dev/stdin" => some 0
      | "/dev/stdout" => some 1
      | "/dev/stderr" => some 2
      | _ => none
    some (match descriptor.bind fun n => s.streams.lookup n with
      | some .silent | some .captured | some (.pipe _) => true
      | _ => false)
  | ['-', 'h'] | ['-', 'L'] | ['-', 't'] | ['-', 'b'] | ['-', 'c'] | ['-', 'S'] => some false
  | _ => none

/-- A test of two operands, if there is one of that name. Numbers must be numbers. -/
def binaryTest (operator left right : Octets) : Option (Except String Bool) :=
  let compare (p : Int → Int → Bool) : Option (Except String Bool) :=
    match [left, right].find? fun side => !isDecimal side with
    | some bad => some (.error s!"Illegal number: {toText bad}")
    | none => some (.ok (p (integerOf left) (integerOf right)))
  match String.ofList operator with
  | "=" | "==" => some (.ok (left == right))
  | "!=" => some (.ok (left != right))
  | "<" => some (.ok (left != right && octetsLe left right))
  | ">" => some (.ok (left != right && octetsLe right left))
  | "-eq" => compare (· == ·)
  | "-ne" => compare (· != ·)
  | "-lt" => compare fun a b => a < b
  | "-le" => compare fun a b => a ≤ b
  | "-gt" => compare fun a b => b < a
  | "-ge" => compare fun a b => b ≤ a
  | _ => none

/-- A test, or what is wrong with it. Conjunctions bind tighter than disjunctions. -/
def testAll (s : State) : (depth : Nat) → List Octets → Except String Bool
  | 0, _ => .ok false
  | depth + 1, arguments =>
    match arguments with
    | [] => .ok false
    | [operand] => .ok !operand.isEmpty
    | [operator, operand] =>
      if operator = ['!'] then .ok operand.isEmpty
      else
        match unaryTest s operator operand with
        | some answer => .ok answer
        | none => .error s!"{toText operator}: unexpected operator"
    | [left, operator, right] => (binaryTest operator left right).getD (rest depth arguments)
    | _ => rest depth arguments
where
  /-- A test with connectives. -/
  rest (depth : Nat) (arguments : List Octets) : Except String Bool :=
    let split (sign : Octets) : Option (List Octets × List Octets) :=
      let front := arguments.takeWhile (· != sign)
      match arguments.drop front.length with
      | _ :: back => if front.isEmpty then none else some (front, back)
      | [] => none
    match arguments, split ['-', 'o'], split ['-', 'a'] with
    | _, some (front, back), _ => do
      let a ← testAll s depth front
      let b ← testAll s depth back
      pure (a || b)
    | _, none, some (front, back) => do
      let a ← testAll s depth front
      let b ← testAll s depth back
      pure (a && b)
    | ['!'] :: more, none, none => (testAll s depth more).map not
    | ['('] :: more, none, none =>
      if more.getLast? = some [')'] then testAll s depth more.dropLast
      else .error "closing paren expected"
    | _, _, _ => .error s!"{toText (arguments.getD 0 [])}: unexpected operator"

/-- The command `test`; called as `[` it wants a closing bracket. -/
def test (bracketed : Bool) : Utility := fun arguments => do
  let operands := if bracketed then arguments.dropLast else arguments
  if bracketed && arguments.getLast? != some [']'] then
    shellComplain "[: missing ]"
    pure 2
  else
    match testAll (← get) (operands.length + 1) operands with
    | .ok true => pure 0
    | .ok false => pure 1
    | .error problem =>
      let name := if bracketed then "[" else "test"
      shellComplain s!"{name}: {problem}"
      pure 2

/-- All programs by name, apart from the shell itself. -/
def utilities : List (String × Utility) :=
  [("true", fun _ => pure 0), ("false", fun _ => pure 1), ("cat", cat), ("echo", echo),
    ("printf", printf), ("head", head), ("tail", tail), ("tr", tr), ("sleep", sleep), ("rm", rm),
    ("mkdir", mkdir), ("rmdir", rmdir), ("touch", touch), ("cp", cp), ("mv", mv), ("chmod", chmod),
    ("wc", wc), ("seq", seq), ("tee", tee), ("ls", ls), ("sort", sort), ("dd", dd), ("yes", yes),
    ("basename", basename), ("dirname", dirname), ("test", test false), ("[", test true)]

/-- The octets for escapes as a program of its own reads them: only if the option asks for it. -/
def echoProgram : Utility := fun arguments => do
  let isOption (cs : Octets) : Bool :=
    match cs with
    | '-' :: c :: more => (c :: more).all fun c => c == 'n' || c == 'e' || c == 'E'
    | _ => false
  let letters := (arguments.takeWhile isOption).flatMap (List.drop 1)
  let text := Text.joinWith [' '] (arguments.dropWhile isOption)
  let reads := (letters.filter (· != 'n')).getLast? == some 'e'
  let found : Escaped := if reads then unescape text else ⟨text, false⟩
  put (found.cs ++ if letters.contains 'n' || found.ends then [] else ['\n'])
  pure 0

def programs : List (String × Utility) := ("echo", echoProgram) :: utilities

end ShaderDriver.Shell
