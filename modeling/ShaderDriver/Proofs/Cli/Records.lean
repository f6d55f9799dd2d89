import ShaderDriver.Cli.Report
import ShaderDriver.Proofs.Diagnostic.Reading
import ShaderDriver.Proofs.Json.Unique

namespace ShaderDriver

/-- A message that was read is what is read from its text. -/
theorem Diagnostic.readBlock_text_of_mem {output : String} {m : Message} (read : m ∈ parse output) :
    readBlock m.text.toList = m := by
  obtain ⟨block, -, rfl⟩ := List.mem_map.1 read
  rw [toList_readBlock]

namespace CompileRecord

section Parts

variable {α : Type} {f : α → JsonValue}

theorem orNull_inj (injective : ∀ a b, f a = f b → a = b) (present : ∀ a, f a ≠ .null) {x y : Option α}
    (same : orNull f x = orNull f y) : x = y := by
  cases x with
  | none =>
    cases y with
    | none => rfl
    | some b => exact absurd same.symm (present b)
  | some a =>
    cases y with
    | none => exact absurd same (present a)
    | some b => rw [injective a b same]

theorem integral_orNull (integral : ∀ a, (f a).Integral) (x : Option α) : (orNull f x).Integral := by
  cases x with
  | none => exact .null
  | some a => exact integral a

theorem mem_told {name : String} {x : Option α} {field : String × JsonValue} :
    field ∈ told name f x ↔ ∃ a, x = some a ∧ field = (name, f a) := by
  cases x <;> simp [told]

/-- Whether a field was left out shows, as no later field has its name. -/
theorem told_append_inj {name : String} (injective : ∀ a b, f a = f b → a = b) {x y : Option α}
    {rest rest' : List (String × JsonValue)} (apart : ∀ field ∈ rest, field.1 ≠ name)
    (apart' : ∀ field ∈ rest', field.1 ≠ name) (same : told name f x ++ rest = told name f y ++ rest') :
    x = y ∧ rest = rest' := by
  cases x with
  | none =>
    cases y with
    | none => exact ⟨rfl, same⟩
    | some b =>
      have member : (name, f b) ∈ rest := by
        rw [show rest = (name, f b) :: rest' from same]
        exact List.mem_cons_self
      exact absurd rfl (apart _ member)
  | some a =>
    cases y with
    | none =>
      have member : (name, f a) ∈ rest' := by
        rw [← show (name, f a) :: rest = rest' from same]
        exact List.mem_cons_self
      exact absurd rfl (apart' _ member)
    | some b =>
      obtain ⟨fields, others⟩ := List.cons.inj same
      rw [injective a b (Prod.mk.inj fields).2]
      exact ⟨rfl, others⟩

end Parts

theorem integral_artifactValue (artifact : ArtifactRecord) : (artifactValue artifact).Integral := by
  refine .object (List.forall_mem_cons.2 ⟨.string _, fun field member => ?_⟩)
  simp only [List.mem_append, mem_told] at member
  rcases member with ⟨path, -, rfl⟩ | ⟨size, -, rfl⟩ | ⟨digest, -, rfl⟩
  · exact .string path
  · exact .integer size
  · exact .string digest

theorem artifactValue_injective {one other : ArtifactRecord} (same : artifactValue one = artifactValue other) :
    one = other := by
  have strings (s t : String) (same : JsonValue.string s = .string t) : s = t := JsonValue.string.inj same
  have numbers (m n : Nat) (same : JsonValue.integer m = .integer n) : m = n :=
    Int.ofNat.inj (JsonValue.integer.inj same)
  obtain ⟨kinds, fields⟩ := List.cons.inj (JsonValue.object.inj same)
  have kind := ArtifactKind.name_injective (strings _ _ (Prod.mk.inj kinds).2)
  have digestOnly (artifact : ArtifactRecord) (name : String) (other : name ≠ "xxh3") :
      ∀ field ∈ told "xxh3" .string artifact.digest, field.1 ≠ name := by
    intro field member
    obtain ⟨digest, -, rfl⟩ := mem_told.1 member
    exact other.symm
  have noPath (artifact : ArtifactRecord) : ∀ field ∈ told "size" (fun n : Nat => .integer n) artifact.size ++
      told "xxh3" .string artifact.digest, field.1 ≠ "path" := by
    intro field member
    rcases List.mem_append.1 member with size | digest
    · obtain ⟨size, -, rfl⟩ := mem_told.1 size
      exact (by decide : "size" ≠ "path")
    · exact digestOnly artifact "path" (by decide) field digest
  obtain ⟨path, fields⟩ := told_append_inj strings (noPath one) (noPath other) fields
  obtain ⟨size, fields⟩ := told_append_inj numbers (digestOnly one "size" (by decide))
    (digestOnly other "size" (by decide)) fields
  rw [← List.append_nil (told "xxh3" _ one.digest), ← List.append_nil (told "xxh3" _ other.digest)] at fields
  obtain ⟨digest, -⟩ := told_append_inj strings (List.forall_mem_nil _) (List.forall_mem_nil _) fields
  cases one
  cases other
  exact (ArtifactRecord.mk.injEq ..).mpr ⟨kind, path, size, digest⟩

theorem integral_messageValue (m : Message) : (messageValue m).Integral := by
  refine .object ?_
  simp only [List.forall_mem_cons]
  exact ⟨.string _, integral_orNull .string _, integral_orNull (fun _ => .integer _) _,
    integral_orNull (fun _ => .integer _) _, integral_orNull .string _, .string _, List.forall_mem_nil _⟩

theorem text_of_messageValue {m n : Message} (same : messageValue m = messageValue n) : m.text = n.text := by
  simp only [messageValue, JsonValue.object.injEq, List.cons.injEq, Prod.mk.injEq, JsonValue.string.injEq,
    true_and, and_true] at same
  exact same.2.2.2.2.2

/-- Messages that are written alike are the same if they were read. -/
theorem messages_eq_of_values {one other : List Message}
    (read : ∀ m ∈ one, ∃ output, m ∈ Diagnostic.parse output)
    (read' : ∀ m ∈ other, ∃ output, m ∈ Diagnostic.parse output)
    (same : one.map messageValue = other.map messageValue) : one = other := by
  induction one generalizing other with
  | nil => exact (List.map_eq_nil_iff.1 same.symm).symm
  | cons m one ih =>
    cases other with
    | nil => cases same
    | cons n other =>
      obtain ⟨⟨output, first⟩, others⟩ := List.forall_mem_cons.1 read
      obtain ⟨⟨output', first'⟩, others'⟩ := List.forall_mem_cons.1 read'
      obtain ⟨heads, tails⟩ := List.cons.inj same
      have texts := text_of_messageValue heads
      have message : m = n := by
        rw [← Diagnostic.readBlock_text_of_mem first, texts, Diagnostic.readBlock_text_of_mem first']
      rw [message, ih others others' tails]

theorem integral_value (record : CompileRecord) : record.value.Integral := by
  have mapped {α : Type} {f : α → JsonValue} (integral : ∀ a, (f a).Integral) (list : List α) :
      (JsonValue.array (list.map f)).Integral := by
    refine .array fun value member => ?_
    obtain ⟨a, -, rfl⟩ := List.mem_map.1 member
    exact integral a
  refine .object ?_
  simp only [List.forall_mem_cons]
  exact ⟨.string _, integral_orNull .integer _, mapped .string _, mapped integral_messageValue _,
    .integer _, .integer _, mapped integral_artifactValue _, List.forall_mem_nil _⟩

/-- The messages of a report come from outputs of compilers. -/
def Read (record : CompileRecord) : Prop :=
  ∀ m ∈ record.summary.messages, ∃ output, m ∈ Diagnostic.parse output

/-- Reports are written alike only if they report the same thing. -/
theorem json_inj {one other : CompileRecord} (read : one.Read) (read' : other.Read) :
    one.json = other.json ↔ one = other := by
  constructor
  · intro same
    have values := (Json.pretty_inj (integral_value one) (integral_value other)).1 same
    simp only [value, JsonValue.object.injEq, List.cons.injEq, Prod.mk.injEq, JsonValue.string.injEq,
      JsonValue.array.injEq, true_and, and_true] at values
    obtain ⟨source, exit, arguments, messages, -, -, artifacts⟩ := values
    have exitCode := orNull_inj (fun _ _ => JsonValue.integer.inj) nofun exit
    have tokens := List.map_injective_iff.2 (fun _ _ => JsonValue.string.inj) arguments
    have said := messages_eq_of_values read read' messages
    have told := List.map_injective_iff.2 (fun _ _ => artifactValue_injective) artifacts
    have summary : one.summary = other.summary :=
      (Summary.mk.injEq ..).mpr ⟨exitCode, tokens, said⟩
    exact (CompileRecord.mk.injEq ..).mpr ⟨source, summary, told⟩
  · rintro rfl
    rfl

/-- Of the same artifact one report tells the size and the other one a digest that reads the same. -/
theorem json_inj_unsized :
    let summary : Summary := ⟨none, ["-E", ""], Diagnostic.parse "é\".hlsl:1:2: error: x: \\x\r\n\t^\r\n"⟩
    let sized : CompileRecord := ⟨"é\".hlsl", summary, [{ kind := .hash, size := some 1 }]⟩
    let unsized : CompileRecord := ⟨"é\".hlsl", summary, [{ kind := .hash, digest := some "1" }]⟩
    summary.errorCount = 1 ∧ sized.Read ∧ unsized.Read ∧ sized.json ≠ unsized.json := by
  intro summary sized unsized
  have read : sized.Read := fun m member => ⟨_, member⟩
  have read' : unsized.Read := fun m member => ⟨_, member⟩
  refine ⟨by decide +kernel, read, read', fun same => ?_⟩
  have artifacts := congrArg CompileRecord.artifacts ((json_inj read read').1 same)
  exact absurd artifacts (by decide)

end CompileRecord

end ShaderDriver
