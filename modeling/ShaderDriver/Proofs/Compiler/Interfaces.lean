import ShaderDriver.Proofs.Compiler.Delivery

namespace ShaderDriver

/-- A compiler under some arguments. What it says of a source depends on the name of the source. -/
structure AbstractCompiler where
  status : Bytes → Int
  output : Bytes → ArtifactKind → Option Bytes
  text : Bytes → String → String

namespace AbstractCompiler

/-- The option by which a child is asked for an artifact, and the number under which a library holds it. -/
def published : ArtifactKind → String × Nat
  | .object => ("-Fo", 1)
  | .debugInfo => ("-Fd", 3)
  | .hash => ("-Fsh", 4)
  | .assemblyListing => ("-Fc", 5)
  | .reflection => ("-Fre", 8)
  | .rootSignature => ("-Frs", 9)

theorem published_eq (kind : ArtifactKind) : published kind = (kind.flag, kind.outputNumber) := by
  cases kind <;> rfl

/-- How a child is asked for artifacts: an option and a path for each. -/
def tokens (requests : List (ArtifactKind × String)) : List String :=
  requests.flatMap fun request => [(published request.1).1, request.2]

theorem options_eq_tokens (requests : List (ArtifactKind × String)) :
    Staging.options requests = tokens requests := by
  simp only [Staging.options, tokens, published_eq]

variable (compiler : AbstractCompiler)

/-- A child that works as the compiler. Behind the arguments of every compile come the options for
artifacts and the source. If all files can be written, it writes what it has of what it was asked for, in
some order, and prints what it says. -/
def DrivesChild (given : List String) (launch : Launcher) : Prop :=
  ∀ (program : String) (requests : List (ArtifactKind × String)) (name : String) (source : Bytes)
    (world : World),
    world.found name = some source →
    (∀ write ∈ ArtifactKind.writes (compiler.output source) requests, world.Writable write.1) →
    ∃ order after, order.Perm (ArtifactKind.writes (compiler.output source) requests) ∧
      World.writeAll order world = .ok after ∧
      launch ⟨program, given ++ tokens requests ++ [name]⟩ world =
        .ok (⟨some (compiler.status source), Utf8.encode (compiler.text source name).toList⟩, after)

/-- A library that works as the compiler. -/
structure DrivesLibrary {τ : Type} (given : List String) (library : CompilerLibrary τ) : Prop where
  load : ∀ world path source, world.found path = some source → library.load world path = .ok source
  includes : ∀ dirs, ∃ handler, library.includes dirs = .ok handler
  compile : ∀ source name handler world core, ∃ result core',
    library.compile source (given ++ [name]) handler world core = (.ok result, core') ∧
      result.status = compiler.status source ∧ result.errors.getD "" = compiler.text source name ∧
      ∀ kind, result.output (published kind).2 = compiler.output source kind

def asked : List String → List (ArtifactKind × String) × String
  | [] => ([], "")
  | [name] => ([], name)
  | option :: path :: rest =>
    let kind := ArtifactKind.all.find? fun kind => (published kind).1 == option
    ((kind.map (·, path)).toList ++ (asked rest).1, (asked rest).2)

theorem asked_tokens (requests : List (ArtifactKind × String)) (name : String) :
    asked (tokens requests ++ [name]) = (requests, name) := by
  induction requests with
  | nil => rfl
  | cons request requests ih =>
    obtain ⟨kind, path⟩ := request
    have known : ArtifactKind.all.find? (fun other => (published other).1 == (published kind).1) =
        some kind := by
      cases kind <;> decide
    have more : asked (tokens ((kind, path) :: requests) ++ [name]) =
        (((ArtifactKind.all.find? fun other => (published other).1 == (published kind).1).map
          (·, path)).toList ++ (asked (tokens requests ++ [name])).1,
          (asked (tokens requests ++ [name])).2) := by
      rw [tokens, List.flatMap_cons, ← tokens]
      rfl
    rw [more, known, ih]
    rfl

/-- The compiler as an executable, for compiles with some arguments. -/
def child (compiler : AbstractCompiler) (given : List String) : Launcher := fun invocation world =>
  let (requests, name) := asked (invocation.arguments.drop given.length)
  match world.found name with
  | none => .ok (⟨some 1, []⟩, world)
  | some source =>
    match World.writeAll (ArtifactKind.writes (compiler.output source) requests) world with
    | .error _ => .ok (⟨some 1, []⟩, world)
    | .ok after =>
      .ok (⟨some (compiler.status source), Utf8.encode (compiler.text source name).toList⟩, after)

theorem child_drives (compiler : AbstractCompiler) (given : List String) :
    compiler.DrivesChild given (compiler.child given) := by
  intro program requests name source world there writable
  obtain ⟨after, written⟩ := World.writeAll_of_writable writable
  refine ⟨_, after, List.Perm.refl _, written, ?_⟩
  simp only [child, List.append_assoc, List.drop_left, asked_tokens, there, written]

def library (compiler : AbstractCompiler) : CompilerLibrary Unit where
  create := .ok ()
  load world path := (world.readBytes path).mapError Fault.message
  compile source arguments _ _ _ :=
    let result : LibraryResult :=
      { status := compiler.status source
        errors := some (compiler.text source (arguments.getLast?.getD ""))
        output := fun number =>
          (ArtifactKind.all.find? fun kind => (published kind).2 == number).bind (compiler.output source) }
    (.ok result, ())

theorem library_drives (compiler : AbstractCompiler) (given : List String) :
    compiler.DrivesLibrary given compiler.library where
  load world path source there := by
    rw [World.found] at there
    cases read : world.readBytes path with
    | error fault =>
      rw [read] at there
      cases there
    | ok bytes =>
      rw [read] at there
      cases there
      simp only [library, read, Except.mapError]
  includes dirs := ⟨.searching dirs, rfl⟩
  compile source name handler world core := by
    refine ⟨_, _, rfl, rfl, ?_, ?_⟩
    · simp
    · intro kind
      have known : ArtifactKind.all.find? (fun other => (published other).2 == (published kind).2) =
          some kind := by
        cases kind <;> decide
      simp [known]

end AbstractCompiler

end ShaderDriver
