import ShaderDriver.Shell.Token

namespace ShaderDriver.Shell

/-- How to read one command, given whether line ends may stand before it. -/
abbrev CommandReader := (newlines : Bool) → Parse Command

/-- A text that is read from the lines behind the current one, up to a line that ends it. Tabs in front
of its lines go if it is `stripped`. -/
def takeDocument (stripped : Bool) (ending : Octets) : Parse Octets := do
  let rest ← get
  let line := rest.takeWhile (· != '\n')
  let lines := (Text.fields '\n' (rest.drop (line.length + 1))).map fun text =>
    if stripped then text.dropWhile (· == '\t') else text
  let body := lines.takeWhile (· != ending)
  let behind := lines.drop (body.length + 1)
  set (line ++ '\n' :: Text.joinWith ['\n'] behind)
  pure (body.flatMap fun text => text ++ ['\n'])

/-- The literal text of a word, and whether any of it is quoted. -/
def literalText (word : Word) : Octets × Bool :=
  (word.flatMap fun piece => match piece with
      | .text cs _ => cs
      | _ => [],
    word.any fun piece => match piece with
      | .text _ isQuoted => isQuoted
      | _ => false)

def takeRedirect (descriptor : Nat) (how : Redirection) (stripped : Bool) : Parse Redirect := do
  let token ← take false false
  match token.word? with
  | none => unexpected token none
  | some target =>
    match how with
    | .document =>
      let (ending, isQuoted) := literalText target
      let body ← takeDocument stripped ending
      pure ⟨descriptor, how, if isQuoted then [.text body true] else parseDocument body⟩
    | _ => pure ⟨descriptor, how, target⟩

def takeRedirects : (limit : Nat) → Parse (List Redirect)
  | 0 => pure []
  | limit + 1 => do
    match ← peek true false with
    | .redirection descriptor how stripped => do
      let _ ← take true false
      let first ← takeRedirect descriptor how stripped
      pure (first :: (← takeRedirects limit))
    | _ => pure []

def assignment? (word : Word) : Option (Octets × Word) :=
  match word with
  | .text cs false :: rest =>
    match Text.splitFirst ['='] cs with
    | some (name, value) =>
      if isName name then
        some (name, if value.isEmpty then rest else .text value false :: rest)
      else none
    | none => none
  | _ => none

def functionName? : List Word → Option Octets
  | [[.text name false]] => some name
  | _ => none

/-- The parts of a simple command that were read so far. -/
structure SimpleParts where
  assignments : List (Octets × Word) := []
  words : List Word := []
  redirects : List Redirect := []

/-- A simple command, or a function if brackets follow a single word. -/
def takeSimple (command : CommandReader) (line : Nat) : (limit : Nat) → SimpleParts → Parse Command
  | 0, parts => pure (.simple line parts.assignments parts.words parts.redirects)
  | limit + 1, parts => do
    let before ← get
    let finished : Command := .simple line parts.assignments parts.words parts.redirects
    match ← take false false with
    | .word pieces =>
      match if parts.words.isEmpty then assignment? pieces else none with
      | some assignment =>
        takeSimple command line limit
          { parts with assignments := parts.assignments ++ [assignment] }
      | none => takeSimple command line limit { parts with words := parts.words ++ [pieces] }
    | .redirection descriptor how stripped => do
      let redirect ← takeRedirect descriptor how stripped
      takeSimple command line limit { parts with redirects := parts.redirects ++ [redirect] }
    | .mark "(" =>
      if parts.words.length = 1 && parts.assignments.isEmpty && parts.redirects.isEmpty then
        expect ")"
        match functionName? parts.words with
        | some name => pure (.define name (← command true))
        | none => refuse "Bad function name"
      else
        set before
        pure finished
    | _ =>
      set before
      pure finished

/-- Commands joined by `|`. -/
def takePipeline (command : CommandReader) : (limit : Nat) → (newlines : Bool) → Parse Command
  | 0, newlines => command newlines
  | limit + 1, newlines => do
    if (← peek true newlines).isMark "!" then
      let _ ← take true newlines
      pure (.negate (← takePipeline command limit false))
    else
      let first ← command newlines
      stages limit first
where
  /-- The stages behind the first. -/
  stages : (limit : Nat) → Command → Parse Command
    | 0, first => pure first
    | limit + 1, first => do
      if (← peek true false).isMark "|" then
        let _ ← take true false
        pure (.pipe first (← stages limit (← command true)))
      else pure first

/-- Pipelines joined by `&&` and `||`. -/
def takeAndOr (command : CommandReader) : (limit : Nat) → (newlines : Bool) → Parse Command
  | limit, newlines => do joined limit (← takePipeline command limit newlines)
where
  /-- The pipelines behind the first. -/
  joined : (limit : Nat) → Command → Parse Command
    | 0, first => pure first
    | limit + 1, first => do
      match ← peek true false with
      | .mark "&&" => do
        let _ ← take true false
        joined limit (.both first (← takePipeline command limit true))
      | .mark "||" => do
        let _ ← take true false
        joined limit (.either first (← takePipeline command limit true))
      | _ => pure first

def follow (before : Option Command) (next : Command) : Option Command :=
  some (match before with
    | some before => .sequence before next
    | none => next)

/-- A list of commands: one line, or several up to a mark that ends them. The list may be empty if
`mayEnd` holds. -/
def takeList (command : CommandReader) (oneLine : Bool) :
    (limit : Nat) → (mayEnd : Bool) → Option Command → Parse (Option Command)
  | 0, _, done => pure done
  | limit + 1, mayEnd, done => do
    let start ← peek true !oneLine
    match start with
    | .newline => do
      let _ ← take true false
      pure done
    | .endOfFile => pure done
    | _ =>
      if mayEnd && !oneLine && start.endsList then pure done
      else
        let part ← takeAndOr command limit !oneLine
        let before ← get
        let token ← take true false
        match token with
        | .mark "&" => takeList command oneLine limit true (follow done (.background part))
        | .mark ";" => takeList command oneLine limit true (follow done part)
        | .newline =>
          set before
          takeList command oneLine limit true (follow done part)
        | .endOfFile => pure (follow done part)
        | _ =>
          if oneLine then unexpected token none
          else
            set before
            pure (follow done part)

def takeBody (command : CommandReader) (mayBeEmpty : Bool) : Parse Command := do
  let limit := (← get).length
  pure ((← takeList command false (limit + 1) mayBeEmpty none).getD .skip)

def takeAlternatives (body : Parse Command) : (limit : Nat) → Parse Command
  | 0 => pure .skip
  | limit + 1 => do
    let token ← peek true true
    if token.isMark "elif" then
      let _ ← take true true
      let condition ← body
      expect "then"
      let yes ← body
      pure (.conditional condition yes (← takeAlternatives body limit))
    else if token.isMark "else" then
      let _ ← take true true
      body
    else pure .skip

/-- The words behind `in`. -/
def takeWords : (limit : Nat) → Parse (List Word)
  | 0 => pure []
  | limit + 1 => do
    let token ← take false false
    match token with
    | .word pieces => pure (pieces :: (← takeWords limit))
    | .newline | .mark ";" => pure []
    | _ => unexpected token none

/-- The patterns of a clause, up to the bracket behind them. -/
def takePatterns : (limit : Nat) → Token → Parse (List Word)
  | 0, _ => pure []
  | limit + 1, token => do
    match token.word? with
    | none => unexpected token (some ")")
    | some pattern =>
      let behind ← take false false
      if behind.isMark "|" then pure (pattern :: (← takePatterns limit (← take false false)))
      else if behind.isMark ")" then pure [pattern]
      else unexpected behind (some ")")

/-- The clauses of a case command, up to its end. -/
def takeClauses (command : CommandReader) : (limit : Nat) → Parse (List (List Word × Command))
  | 0 => pure []
  | limit + 1 => do
    let token ← take true true
    if token.isMark "esac" then pure []
    else
      let token ← if token.isMark "(" then take false false else pure token
      let patterns ← takePatterns limit token
      let body ← takeBody command true
      let behind ← take true true
      if behind.isMark "esac" then pure [(patterns, body)]
      else if behind.isMark ";;" then pure ((patterns, body) :: (← takeClauses command limit))
      else unexpected behind (some ";;")

/-- A compound command behind its first mark. -/
def takeCompound (command : CommandReader) (mark : String) : Parse Command := do
  let body := takeBody command false
  let limit := (← get).length + 1
  match mark with
  | "if" =>
    let condition ← body
    expect "then"
    let yes ← body
    let no ← takeAlternatives body limit
    expect "fi"
    pure (.conditional condition yes no)
  | "while" | "until" =>
    let condition ← body
    expect "do"
    let inside ← body
    expect "done"
    pure (.loop false (mark == "until") condition inside)
  | "for" =>
    let token ← take false false
    let name := (token.word?.bind fun pieces => functionName? [pieces]).getD []
    if !isName name then refuse "Bad for loop variable"
    let before ← get
    let behind ← take true true
    let words ← if behind.isMark "in" then some <$> takeWords limit else do
      if !behind.isMark ";" then set before
      pure none
    expect "do"
    let inside ← body
    expect "done"
    pure (.forEach name words inside)
  | "case" =>
    let token ← take false false
    match token.word? with
    | none => refuse s!"{token.shown} unexpected (expecting word)"
    | some subject =>
      expect "in"
      pure (.select subject (← takeClauses command limit))
  | "(" =>
    let inside ← body
    expect ")"
    pure (.subshell inside)
  | _ =>
    let inside ← body
    expect "\x7d"
    pure inside

/-- Reads a command in which compound commands nest at most `depth` deep. -/
def takeCommand : (depth : Nat) → CommandReader
  | 0, newlines => do unexpected (← take true newlines) none
  | depth + 1, newlines => do
    let before ← get
    let token ← take true newlines
    let limit := before.length + 1
    match token with
    | .word _ | .redirection .. =>
      set (skip newlines false before)
      let line := (← read) + 1 - (← get).count '\n'
      takeSimple (takeCommand depth) line limit {}
    | .mark text =>
      if ["if", "while", "until", "for", "case", "(", "\x7b"].contains text then
        let body ← takeCompound (takeCommand depth) text
        let redirects ← takeRedirects limit
        pure (if redirects.isEmpty then body else .redirected body redirects)
      else unexpected token none
    | _ => unexpected token none

/-- What a line of a script holds, and what is behind it. A line without commands holds none. -/
def parseLine (lineEnds : Nat) (text : Octets) : Except SyntaxError (Option Command × Octets) :=
  (takeList (takeCommand (text.length + 1)) true (text.length + 1) false none).run lineEnds |>.run text

end ShaderDriver.Shell
