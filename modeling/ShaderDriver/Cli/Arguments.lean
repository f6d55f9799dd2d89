import ShaderDriver.Cli.Options

namespace ShaderDriver.Cli

/-- The form of a report. -/
inductive ReportFormat where
  | text
  | json
deriving DecidableEq, Repr

namespace ReportFormat

def name : ReportFormat → String
  | text => "text"
  | json => "json"

def ofName? (s : String) : Option ReportFormat := [text, json].find? fun format => format.name == s

end ReportFormat

/-- What applies to every command. -/
structure GlobalOptions where
  quiet : Bool := false
  verbose : Bool := false
  config : Option String := none
deriving DecidableEq, Repr

/-- What is given for a compile. -/
structure CompileOptions where
  file : String
  profile : Option String := none
  entry : Option String := none
  name : Option String := none
  artifacts : List String := []
  keepTemps : Bool := false
  format : ReportFormat := .text
  extra : List String := []
deriving DecidableEq, Repr

/-- What the program is asked to do. -/
inductive Action where
  | compile (options : CompileOptions)
  | listInstallations (dir : Option String)
deriving DecidableEq, Repr

/-- The arguments of the program. -/
structure Arguments where
  globals : GlobalOptions
  action : Action
deriving DecidableEq, Repr

namespace Arguments

def anyText (_ : String) : Bool := true

def globalRules : List OptionRule :=
  [⟨"quiet", some 'q', .flag⟩, ⟨"verbose", some 'v', .flag⟩, ⟨"config", none, .single anyText⟩,
    ⟨"help", some 'h', .interruption .help⟩]

def top : Level where
  options := ⟨"version", some 'V', .interruption .version⟩ :: globalRules
  commands := ["compile", "toolchain", "help"]

def compileLevel : Level where
  options := globalRules ++
    [⟨"profile", some 'T', .single anyText⟩, ⟨"entry", some 'E', .single anyText⟩,
      ⟨"name", none, .single anyText⟩, ⟨"artifact", none, .repeated⟩, ⟨"keep-temps", none, .flag⟩,
      ⟨"format", some 'f', .single fun s => (ReportFormat.ofName? s).isSome⟩]
  operands := 1
  takesRest := true

def toolchainLevel : Level where
  options := globalRules
  commands := ["list", "help"]

def listLevel : Level where
  options := globalRules ++ [⟨"dir", none, .single anyText⟩]

/-- The global options, which may be given at any level. The innermost file of settings counts. -/
def globalsOf (levels : List Given) : GlobalOptions where
  quiet := levels.any (·.has "quiet")
  verbose := levels.any (·.has "verbose")
  config := levels.reverse.findSome? (·.value? "config")

/-- Asking for help on a command. The names must lead to a command. -/
def helpOn (known : List (List String)) (path : List String) : Interruption :=
  if known.contains path then .help else .misuse

/-- The options of a compile; it needs exactly one file. -/
def compileOptions? (given : Given) : Option CompileOptions :=
  match given.operands with
  | [file] => some
    { file
      profile := given.value? "profile"
      entry := given.value? "entry"
      name := given.value? "name"
      artifacts := given.values "artifact"
      keepTemps := given.has "keep-temps"
      format := ((given.value? "format").bind ReportFormat.ofName?).getD .text
      extra := given.rest }
  | _ => none

def read (args : List String) : Except Interruption Arguments := do
  let (first, rest) ← top.read none {} args
  match rest with
  | "compile" :: rest => do
    let (given, _) ← compileLevel.read none {} rest
    match compileOptions? given with
    | some options => pure ⟨globalsOf [first, given], .compile options⟩
    | none => throw .misuse
  | "toolchain" :: rest => do
    let (second, rest) ← toolchainLevel.read none {} rest
    match rest with
    | "list" :: rest => do
      let (given, _) ← listLevel.read none {} rest
      pure ⟨globalsOf [first, second, given], .listInstallations (given.value? "dir")⟩
    | _ :: path => throw (helpOn [[], ["list"], ["help"]] path)
    | [] => throw .misuse
  | _ :: path =>
    throw (helpOn [[], ["compile"], ["toolchain"], ["toolchain", "list"], ["toolchain", "help"],
      ["help"]] path)
  | [] => throw .misuse

end Arguments

end ShaderDriver.Cli
