import ShaderDriver.Compiler.Include
import ShaderDriver.Compiler.Staging

namespace ShaderDriver

/-- What a library gives for a compile: a status, zero on success, diagnostic text, and outputs by their
numbers. -/
structure LibraryResult where
  status : Int
  errors : Option String
  output : Nat → Option Bytes

/-- A compiler library. Its compilers have a state of type `τ`, and it fails with a text. -/
structure CompilerLibrary (τ : Type) where
  create : Except String τ
  load : World → (path : String) → Except String Bytes
  includes : (dirs : List String) → Except String IncludeHandler :=
    fun dirs => .ok (.searching dirs)
  compile : (source : Bytes) → (arguments : List String) → IncludeHandler → World → τ →
    Except String LibraryResult × τ

/-- A compiler of a library, with all that is kept between compiles. -/
structure LibraryCompiler (τ : Type) where
  library : CompilerLibrary τ
  core : τ
  includeDirs : List String := []
  state : CompilerState := {}

namespace LibraryCompiler

variable {τ : Type}

def create (library : CompilerLibrary τ) : Except CompileError (LibraryCompiler τ) :=
  match library.create with
  | .ok core => .ok { library, core }
  | .error reason => .error (.notUsable reason)

def addIncludeDir (compiler : LibraryCompiler τ) (dir : String) : LibraryCompiler τ :=
  { compiler with includeDirs := compiler.includeDirs ++ [dir] }

/-- Forgets arguments, configuration and results. The directories for included files stay. -/
def reset (compiler : LibraryCompiler τ) : LibraryCompiler τ :=
  { compiler with state := compiler.state.reset }

/-- Delivers the output of one kind to its sink. A file that cannot be written is passed over. -/
def deliver (result : LibraryResult) (kind : ArtifactKind) (table : ArtifactTable) (world : World) :
    ArtifactTable × World :=
  match table.get kind, result.output kind.outputNumber with
  | .empty, _ => (table, world)
  | .pending, some bytes | .memory _, some bytes => (table.set kind (.memory bytes), world)
  | .pending, none | .memory _, none => (table.set kind .empty, world)
  | .file path, some bytes => (table, (world.writeFile path bytes).toOption.getD world)
  | .file _, none => (table, world)

/-- Delivers all outputs, in the order of kinds. -/
def deliverAll (result : LibraryResult) (table : ArtifactTable) (world : World) :
    ArtifactTable × World :=
  ArtifactKind.all.foldl (fun done kind => deliver result kind done.1 done.2) (table, world)

/-- What a compile comes to: a summary or an error, with the compiler and the world behind it. -/
abbrev Outcome (τ : Type) := Except CompileError Summary × LibraryCompiler τ × World

/-- Compiles a source under a name, which is the last argument. -/
def run (source : Bytes) (name : String) (compiler : LibraryCompiler τ) (world : World) : Outcome τ :=
  let compiler := { compiler with state := { compiler.state with sourcePath := some name } }
  let arguments := compiler.state.arguments ++ [name]
  match compiler.library.includes compiler.includeDirs with
  | .error reason => (.error (.notUsable reason), compiler, world)
  | .ok handler =>
    match compiler.library.compile source arguments handler world compiler.core with
    | (.error reason, core) => (.error (.notUsable reason), { compiler with core }, world)
    | (.ok result, core) =>
      let (artifacts, world) := deliverAll result compiler.state.artifacts world
      let (summary, state) :=
        compiler.state.record (some result.status) arguments (result.errors.getD "") name none
      (.ok summary, { compiler with core, state := { state with artifacts } }, world)

/-- Compiles a file, which the library loads. -/
def compileFile (path : String) (compiler : LibraryCompiler τ) (world : World) : Outcome τ :=
  match compiler.library.load world path with
  | .error _ => (.error (.noSuchFile path), compiler, world)
  | .ok source => run source path compiler world

/-- Compiles a source held in memory under its name, or under a fresh one. Nothing is written for it. -/
def compileBuffer (source : Bytes) (name : Option String) (compiler : LibraryCompiler τ)
    (world : World) : Outcome τ :=
  match CompilerState.properName name with
  | some name => run source name compiler world
  | none =>
    let (path, world) := Staging.sourcePath world
    run source path compiler world

end LibraryCompiler

end ShaderDriver
