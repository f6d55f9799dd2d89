import ShaderDriver.Proofs.Compiler.Arguments

namespace ShaderDriver

namespace LibraryCall

/-- The directory that a call adds to those for included files. -/
def added : LibraryCall → List String
  | .addIncludeDir dir => [dir]
  | _ => []

end LibraryCall

/-- What a compile hands to the library. -/
structure Handover where
  source : Bytes
  arguments : List String
  includeDirs : List String
deriving DecidableEq, Repr

/-- The same with more directories, which are searched first. -/
def Handover.behind (dirs : List String) (given : Handover) : Handover :=
  { given with includeDirs := dirs ++ given.includeDirs }

namespace LibrarySession

variable {τ : Type}

/-- What a call hands to the library, if it compiles a source that can be loaded. -/
def handover (session : LibrarySession τ) : LibraryCall → Option Handover
  | .compileFile path =>
    match session.compiler.library.load session.world path with
    | .ok source => some ⟨source, session.arguments path, session.compiler.includeDirs⟩
    | .error _ => none
  | .compileBuffer source name =>
    let shown := (CompilerState.properName name).getD (Staging.sourcePath session.world).1
    some ⟨source, session.arguments shown, session.compiler.includeDirs⟩
  | .configure _ | .addIncludeDir _ | .reset | .elapse _ => none

/-- A call hands over what the library is called with when the call starts a compile. -/
theorem handover_eq_some {session : LibrarySession τ} {call : LibraryCall} {given : Handover} :
    session.handover call = some given ↔ ∃ source name world, session.Starts call source name world ∧
      given = ⟨source, session.arguments name, session.compiler.includeDirs⟩ := by
  constructor
  · intro handed
    cases call with
    | compileFile path =>
      cases loaded : session.compiler.library.load session.world path with
      | error reason => simp [handover, loaded] at handed
      | ok source =>
        simp only [handover, loaded, Option.some.injEq] at handed
        exact ⟨source, path, session.world, .file loaded, handed.symm⟩
    | compileBuffer source name =>
      cases known : CompilerState.properName name with
      | none =>
        simp only [handover, known, Option.getD_none, Option.some.injEq] at handed
        exact ⟨source, _, _, .unnamed known, handed.symm⟩
      | some shown =>
        simp only [handover, known, Option.getD_some, Option.some.injEq] at handed
        exact ⟨source, shown, _, .named known, handed.symm⟩
    | configure | addIncludeDir | reset | elapse => cases handed
  · rintro ⟨source, name, world, starts, rfl⟩
    cases starts with
    | file loaded => simp only [handover, loaded]
    | named known => simp only [handover, known, Option.getD_some]
    | unnamed unknown => simp only [handover, unknown, Option.getD_none]

/-- No call changes the library, and only one kind of call changes the directories for included files. -/
theorem Ends.kept {session : LibrarySession τ} {call : LibraryCall}
    {outcome : Except CompileError Summary} {compiler : LibraryCompiler τ} {world : World}
    (ends : session.Ends call outcome compiler world) :
    compiler.library = session.compiler.library ∧ compiler.includeDirs = session.compiler.includeDirs := by
  cases ends with
  | unloaded _ _ => exact ⟨rfl, rfl⟩
  | withoutIncludes _ _ => exact ⟨rfl, rfl⟩
  | failed _ _ _ => exact ⟨rfl, rfl⟩
  | finished _ _ _ => exact ⟨rfl, rfl⟩

theorem perform_kept (session : LibrarySession τ) (call : LibraryCall) :
    (session.perform call).2.compiler.library = session.compiler.library ∧
      (session.perform call).2.compiler.includeDirs = session.compiler.includeDirs ++ call.added := by
  cases call with
  | addIncludeDir dir => exact ⟨rfl, rfl⟩
  | configure | reset | elapse => exact ⟨rfl, (List.append_nil _).symm⟩
  | compileFile path =>
    have compiled : (session.perform (.compileFile path)).1 = .compiled _ := rfl
    obtain ⟨library, includeDirs⟩ := (ends_of_compiled compiled).kept
    exact ⟨library, includeDirs.trans (List.append_nil _).symm⟩
  | compileBuffer source name =>
    have compiled : (session.perform (.compileBuffer source name)).1 = .compiled _ := rfl
    obtain ⟨library, includeDirs⟩ := (ends_of_compiled compiled).kept
    exact ⟨library, includeDirs.trans (List.append_nil _).symm⟩

theorem run_kept (session : LibrarySession τ) (calls : List LibraryCall) :
    (session.run calls).2.compiler.library = session.compiler.library ∧
      (session.run calls).2.compiler.includeDirs =
        session.compiler.includeDirs ++ calls.flatMap LibraryCall.added := by
  induction calls generalizing session with
  | nil => exact ⟨rfl, (List.append_nil _).symm⟩
  | cons call calls ih =>
    obtain ⟨library, includeDirs⟩ := session.perform_kept call
    obtain ⟨library', includeDirs'⟩ := ih (session.perform call).2
    refine ⟨library'.trans library, includeDirs'.trans ?_⟩
    rw [includeDirs, List.flatMap_cons, List.append_assoc]

end LibrarySession

namespace LibraryCompiler

variable {τ : Type}

/-- What a sequence of calls hands to the library, call for call. Each call finds a world of its own, so that
two compilers can be given the same calls in the same worlds, whatever they write themselves. -/
def handed (compiler : LibraryCompiler τ) : List (LibraryCall × World) → List (Option Handover)
  | [] => []
  | (call, world) :: steps =>
    LibrarySession.handover ⟨compiler, world⟩ call ::
      handed (LibrarySession.perform ⟨compiler, world⟩ call).2.compiler steps

/-- One compiler hands over what another does, and searches more directories for included files. -/
structure Ahead (dirs : List String) (one other : LibraryCompiler τ) : Prop where
  library : one.library = other.library
  arguments : one.state.arguments = other.state.arguments
  includeDirs : one.includeDirs = dirs ++ other.includeDirs

section Ahead

variable {dirs : List String} {one other : LibraryCompiler τ} (ahead : Ahead dirs one other)

include ahead

/-- Both have the library compile the same sources under the same names. -/
theorem Ahead.starts {call : LibraryCall} {world before : World} {source : Bytes} {name : String} :
    LibrarySession.Starts ⟨one, world⟩ call source name before ↔
      LibrarySession.Starts ⟨other, world⟩ call source name before := by
  constructor
  · intro starts
    cases starts with
    | file loaded => exact .file (ahead.library ▸ loaded)
    | named known => exact .named known
    | unnamed unknown => exact .unnamed unknown
  · intro starts
    cases starts with
    | file loaded => exact .file (ahead.library.symm ▸ loaded)
    | named known => exact .named known
    | unnamed unknown => exact .unnamed unknown

theorem Ahead.handover (call : LibraryCall) (world : World) :
    LibrarySession.handover ⟨one, world⟩ call =
      (LibrarySession.handover ⟨other, world⟩ call).map (Handover.behind dirs) := by
  have given (source : Bytes) (name : String) :
      (⟨source, LibrarySession.arguments ⟨one, world⟩ name, one.includeDirs⟩ : Handover) =
        Handover.behind dirs ⟨source, LibrarySession.arguments ⟨other, world⟩ name, other.includeDirs⟩ := by
    simp only [LibrarySession.arguments, Handover.behind, ahead.arguments, ahead.includeDirs]
  refine Option.ext fun handed => ?_
  rw [LibrarySession.handover_eq_some, Option.map_eq_some_iff]
  constructor
  · rintro ⟨source, name, before, starts, rfl⟩
    exact ⟨_, LibrarySession.handover_eq_some.2 ⟨source, name, before, ahead.starts.1 starts, rfl⟩,
      (given source name).symm⟩
  · rintro ⟨_, handed, rfl⟩
    obtain ⟨source, name, before, starts, rfl⟩ := LibrarySession.handover_eq_some.1 handed
    exact ⟨source, name, before, ahead.starts.2 starts, (given source name).symm⟩

/-- One call, whatever it is and whatever the library answers, keeps the compilers so. -/
theorem Ahead.perform (call : LibraryCall) (world : World) :
    Ahead dirs (LibrarySession.perform ⟨one, world⟩ call).2.compiler
      (LibrarySession.perform ⟨other, world⟩ call).2.compiler := by
  obtain ⟨library, includeDirs⟩ := LibrarySession.perform_kept ⟨one, world⟩ call
  obtain ⟨library', includeDirs'⟩ := LibrarySession.perform_kept ⟨other, world⟩ call
  refine ⟨?_, ?_, ?_⟩
  · rw [library, library', ahead.library]
  · rw [LibrarySession.perform_arguments, LibrarySession.perform_arguments, ahead.arguments]
  · rw [includeDirs, includeDirs', ahead.includeDirs, List.append_assoc]

theorem Ahead.handed (steps : List (LibraryCall × World)) :
    one.handed steps = (other.handed steps).map (Option.map (Handover.behind dirs)) := by
  induction steps generalizing one other with
  | nil => rfl
  | cons step steps ih =>
    obtain ⟨call, world⟩ := step
    have rest := ih (ahead.perform call world)
    rw [LibraryCompiler.handed, LibraryCompiler.handed, List.map_cons, ahead.handover, rest]

/-- The directories are told apart by the first compile. -/
theorem Ahead.handed_eq_iff :
    (∀ steps, one.handed steps = other.handed steps) ↔ dirs = [] := by
  constructor
  · intro same
    -- A buffer is always handed over, so one compile shows the directories of both.
    have first := same [(.compileBuffer [] none, {})]
    rw [ahead.handed] at first
    simpa [LibraryCompiler.handed, LibrarySession.handover, Handover.behind] using first
  · rintro rfl steps
    have unchanged : Handover.behind [] = id := rfl
    rw [ahead.handed, unchanged, Option.map_id, List.map_id]

end Ahead

/-- A compiler just made from the library, with a policy for temporary files. -/
def anew (compiler : LibraryCompiler τ) (cleanup : Cleanup) : LibraryCompiler τ :=
  { compiler with state := compiler.state.setCleanup cleanup }

theorem blank_of_create {library : CompilerLibrary τ} {compiler : LibraryCompiler τ}
    (created : create library = .ok compiler) : compiler.state = {} ∧ compiler.includeDirs = [] := by
  unfold create at created
  split at created
  · cases created
    exact ⟨rfl, rfl⟩
  · cases created

/-- A compiler that is reset, after calls in any number and order, starts from the state of a new one and
hands over the same sources and arguments, but it still searches the directories for included files that were
added before. It is like new exactly if none was. -/
theorem reset_forgets {library : CompilerLibrary τ} {compiler : LibraryCompiler τ}
    (created : create library = .ok compiler) (world : World) (history : List LibraryCall) :
    let used := (LibrarySession.run ⟨compiler, world⟩ history).2.compiler
    let fresh := compiler.anew used.state.cleanup
    let kept := history.flatMap LibraryCall.added
    used.reset.state = fresh.state ∧ used.reset.library = fresh.library ∧
    used.reset.includeDirs = kept ∧
    (∀ steps, used.reset.handed steps = (fresh.handed steps).map (Option.map (Handover.behind kept))) ∧
    ((∀ steps, used.reset.handed steps = fresh.handed steps) ↔ kept = []) := by
  intro used fresh kept
  obtain ⟨blank, none⟩ := blank_of_create created
  obtain ⟨sameLibrary, includeDirs⟩ := LibrarySession.run_kept ⟨compiler, world⟩ history
  simp only [none, List.nil_append] at includeDirs
  have state : used.reset.state = fresh.state := by
    simp only [fresh, anew, blank]
    rfl
  have ahead : Ahead kept used.reset fresh := by
    refine ⟨sameLibrary, congrArg CompilerState.arguments state, ?_⟩
    simp only [fresh, anew, none, List.append_nil]
    exact includeDirs
  exact ⟨state, sameLibrary, includeDirs, ahead.handed, ahead.handed_eq_iff⟩

/-- A compiler of a library that loads every file and never has an output. -/
def idle : LibraryCompiler Unit where
  library :=
    { create := .ok ()
      load := fun _ _ => .ok [7]
      compile := fun _ _ _ _ core => (.ok ⟨0, none, fun _ => none⟩, core) }
  core := ()

/-- A compiler that has compiled with arguments, an entry point and a sink is like new when it is reset. -/
theorem reset_forgets_idle :
    let history := [.configure (.addArguments ["-Zi"]), .configure (.setEntry "main"),
      .configure (.route .object .memory), .compileFile "a.hlsl", .configure (.setCleanup .keep)]
    let used := (LibrarySession.run ⟨idle, {}⟩ history).2.compiler
    used.state.arguments = ["-Zi", "-E", "main"] ∧ used.state.sourcePath = some "a.hlsl" ∧
      used.reset.state = { cleanup := .keep } ∧
      ∀ steps, used.reset.handed steps = (idle.anew .keep).handed steps := by
  intro history used
  have created : create idle.library = .ok idle := rfl
  obtain ⟨state, -, -, -, alike⟩ := reset_forgets created {} history
  exact ⟨rfl, rfl, state, alike.2 rfl⟩

/-- A directory that was added before the reset is still searched behind it. -/
theorem reset_remembers :
    let used := (LibrarySession.run ⟨idle, {}⟩ [.addIncludeDir "inc"]).2.compiler
    let step : LibraryCall × World := (.compileBuffer [7] (some "a.hlsl"), {})
    used.reset.handed [step] = [some ⟨[7], ["a.hlsl"], ["inc"]⟩] ∧
      (idle.anew used.state.cleanup).handed [step] = [some ⟨[7], ["a.hlsl"], []⟩] ∧
      used.reset.handed [step] ≠ (idle.anew used.state.cleanup).handed [step] := by
  decide

end LibraryCompiler

end ShaderDriver
