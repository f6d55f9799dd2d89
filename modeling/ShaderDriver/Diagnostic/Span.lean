import ShaderDriver.Text.Utf8

namespace ShaderDriver

/-- A stretch of a text: the octets before it and the octets in it, counted in the UTF-8 form of the text.
-/
structure Span where
  offset : Nat
  length : Nat
deriving DecidableEq, Repr

namespace Span

def stop (span : Span) : Nat := span.offset + span.length

def isEmpty (span : Span) : Bool := span.length == 0

/-- Leaves out characters until `count` octets are gone. -/
def dropOctets : (count : Nat) → List Char → List Char
  | 0, cs => cs
  | _ + 1, [] => []
  | count + 1, c :: cs => dropOctets (count + 1 - c.utf8Size) cs
termination_by _ cs => cs.length

/-- Takes characters until `count` octets are there. -/
def takeOctets : (count : Nat) → List Char → List Char
  | 0, _ => []
  | _ + 1, [] => []
  | count + 1, c :: cs => c :: takeOctets (count + 1 - c.utf8Size) cs
termination_by _ cs => cs.length

def slice (span : Span) (cs : List Char) : List Char :=
  takeOctets span.length (dropOctets span.offset cs)

theorem dropOctets_size_append (before after : List Char) :
    dropOctets (Utf8.size before) (before ++ after) = after := by
  induction before with
  | nil => simp [Utf8.size, dropOctets]
  | cons c before ih =>
    have positive := Char.utf8Size_pos c
    obtain ⟨count, same⟩ : ∃ count, Utf8.size (c :: before) = count + 1 :=
      ⟨Utf8.size (c :: before) - 1, by simp [Utf8.size]; omega⟩
    rw [same, List.cons_append, dropOctets]
    have : count + 1 - c.utf8Size = Utf8.size before := by
      rw [← same]; simp [Utf8.size]
    rw [this, ih]

theorem takeOctets_size_append (before after : List Char) :
    takeOctets (Utf8.size before) (before ++ after) = before := by
  induction before with
  | nil => simp [Utf8.size, takeOctets]
  | cons c before ih =>
    have positive := Char.utf8Size_pos c
    obtain ⟨count, same⟩ : ∃ count, Utf8.size (c :: before) = count + 1 :=
      ⟨Utf8.size (c :: before) - 1, by simp [Utf8.size]; omega⟩
    rw [same, List.cons_append, takeOctets]
    have : count + 1 - c.utf8Size = Utf8.size before := by
      rw [← same]; simp [Utf8.size]
    rw [this, ih]

theorem slice_append (before covered after : List Char) :
    slice ⟨Utf8.size before, Utf8.size covered⟩ (before ++ covered ++ after) = covered := by
  rw [slice, List.append_assoc, dropOctets_size_append, takeOctets_size_append]

end Span

end ShaderDriver
