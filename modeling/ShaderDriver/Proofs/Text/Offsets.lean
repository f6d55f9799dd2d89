import Mathlib.Data.List.Basic
import ShaderDriver.Proofs.Text.Occurrence
import ShaderDriver.Text.Utf8

namespace ShaderDriver

namespace Utf8

theorem size_nil : size [] = 0 := rfl

theorem size_cons (c : Char) (cs : List Char) : size (c :: cs) = c.utf8Size + size cs := rfl

theorem size_pos_iff {cs : List Char} : 0 < size cs ↔ cs ≠ [] := by
  cases cs with
  | nil => simp [size_nil]
  | cons c cs =>
    have positive := Char.utf8Size_pos c
    simp only [size_cons, ne_eq, reduceCtorEq, not_false_eq_true, iff_true]
    omega

theorem size_le_of_sublist {one other : List Char} (sub : List.Sublist one other) :
    size one ≤ size other := by
  induction sub with
  | slnil => exact le_rfl
  | cons c _ ih => exact ih.trans (Nat.le_add_left _ _)
  | cons_cons c _ ih => exact Nat.add_le_add_left ih _

theorem size_toList (s : String) : size s.toList = s.utf8ByteSize := by
  induction s using String.push_induction with
  | empty => rfl
  | push s c ih => simp [ih, size_cons, size_nil]

end Utf8

namespace Offset

variable {limit a b : Nat} {sep : Char} {pat before after cs : List Char}

/-- A sum of offsets. It has no result above `limit`, as a negative difference has none, and a cut behind
the end of a text or inside a character. -/
def add? (limit a b : Nat) : Option Nat := if a + b ≤ limit then some (a + b) else none

def sub? (a b : Nat) : Option Nat := if b ≤ a then some (a - b) else none

theorem add?_eq (fits : a + b ≤ limit) : add? limit a b = some (a + b) := if_pos fits

theorem sub?_eq : sub? (a + b) a = some b := by
  rw [sub?, if_pos (Nat.le_add_right a b), Nat.add_sub_cancel_left]

/-- The text before and behind an offset. -/
def cut? : Nat → List Char → Option (List Char × List Char)
  | offset, [] => if offset = 0 then some ([], []) else none
  | offset, c :: cs =>
    if offset = 0 then some ([], c :: cs)
    else if c.utf8Size ≤ offset then
      (cut? (offset - c.utf8Size) cs).map fun parts => (c :: parts.1, parts.2)
    else none

theorem cut?_append (before after : List Char) :
    cut? (Utf8.size before) (before ++ after) = some (before, after) := by
  induction before with
  | nil => cases after <;> rfl
  | cons c before ih =>
    have nonzero := (Utf8.size_pos_iff.2 (List.cons_ne_nil c before)).ne'
    rw [List.cons_append, cut?, if_neg nonzero, Utf8.size_cons, if_pos (Nat.le_add_right _ _),
      Nat.add_sub_cancel_left, ih, Option.map_some]

/-- A text is cut at the ends of its first parts and nowhere else. -/
theorem cut?_eq_some_iff {offset : Nat} :
    cut? offset cs = some (before, after) ↔ cs = before ++ after ∧ offset = Utf8.size before := by
  constructor
  · intro found
    fun_induction cut? offset cs generalizing before with
    | case1 =>
      cases found
      exact ⟨rfl, rfl⟩
    | case2 => cases found
    | case3 c cs =>
      cases found
      exact ⟨rfl, rfl⟩
    | case4 offset c cs nonzero inside ih =>
      obtain ⟨parts, inner, same⟩ := Option.map_eq_some_iff.1 found
      cases same
      obtain ⟨rfl, size⟩ := ih inner
      refine ⟨rfl, ?_⟩
      rw [Utf8.size_cons, ← size, Nat.add_sub_cancel' inside]
    | case5 => cases found
  · rintro ⟨rfl, rfl⟩
    exact cut?_append before after

/-- A text is cut exactly at its valid positions. -/
theorem isValid_iff_cut? {text : String} {offset : Nat} :
    String.Pos.Raw.IsValid text ⟨offset⟩ ↔
      ∃ before after, cut? offset text.toList = some (before, after) := by
  rw [String.Pos.Raw.isValid_iff_exists_append]
  simp only [cut?_eq_some_iff]
  constructor
  · rintro ⟨one, other, rfl, same⟩
    refine ⟨one.toList, other.toList, String.toList_append, ?_⟩
    rw [String.Pos.Raw.ext_iff, String.byteIdx_rawEndPos] at same
    rw [Utf8.size_toList]
    exact same
  · rintro ⟨before, after, joined, rfl⟩
    refine ⟨String.ofList before, String.ofList after, ?_, ?_⟩
    · rw [← String.ofList_append, ← joined, String.ofList_toList]
    · rw [String.Pos.Raw.ext_iff, String.byteIdx_rawEndPos, ← Utf8.size_toList, String.toList_ofList]

def before? (offset : Nat) (cs : List Char) : Option (List Char) := (cut? offset cs).map Prod.fst

def behind? (offset : Nat) (cs : List Char) : Option (List Char) := (cut? offset cs).map Prod.snd

/-- The text from `start` up to `stop`. -/
def slice? (start stop : Nat) (cs : List Char) : Option (List Char) :=
  (before? stop cs).bind (behind? start)

theorem before?_append (before after : List Char) :
    before? (Utf8.size before) (before ++ after) = some before := by
  rw [before?, cut?_append, Option.map_some]

theorem behind?_append (before after : List Char) :
    behind? (Utf8.size before) (before ++ after) = some after := by
  rw [behind?, cut?_append, Option.map_some]

theorem slice?_append (before covered after : List Char) :
    slice? (Utf8.size before) (Utf8.size before + Utf8.size covered) (before ++ covered ++ after) =
      some covered := by
  rw [slice?, ← Utf8.size_append, before?_append, Option.bind_some, behind?_append]

/-- The offset of the first occurrence of `pat`. -/
def find (pat cs : List Char) : Option Nat :=
  (Text.splitFirst pat cs).map fun parts => Utf8.size parts.1

theorem find_eq_some (found : Text.splitFirst pat cs = some (before, after)) :
    find pat cs = some (Utf8.size before) := by
  rw [find, found, Option.map_some]

theorem find_eq_none (missing : Text.splitFirst pat cs = none) : find pat cs = none := by
  rw [find, missing, Option.map_none]

/-- The offset of the last `sep`. -/
def findLast (sep : Char) (cs : List Char) : Option Nat :=
  (Text.splitLast sep cs).map fun parts => Utf8.size parts.1

theorem size_splitLast (single : sep.utf8Size = 1)
    (found : Text.splitLast sep cs = some (before, after)) :
    Utf8.size cs = Utf8.size before + 1 + Utf8.size after := by
  rw [Text.splitLast_join found, Utf8.size_append, Utf8.size_cons, single, Nat.add_assoc]

theorem findLast_eq_some (found : Text.splitLast sep cs = some (before, after)) :
    findLast sep cs = some (Utf8.size before) := by
  rw [findLast, found, Option.map_some]

theorem findLast_eq_none (missing : Text.splitLast sep cs = none) : findLast sep cs = none := by
  rw [findLast, missing, Option.map_none]

theorem before?_splitLast (found : Text.splitLast sep cs = some (before, after)) :
    before? (Utf8.size before) cs = some before := by
  rw [Text.splitLast_join found, before?_append]

theorem behind?_splitLast (single : sep.utf8Size = 1)
    (found : Text.splitLast sep cs = some (before, after)) :
    behind? (Utf8.size before + 1) cs = some after := by
  have behind := behind?_append (before ++ [sep]) after
  rw [Utf8.size_append, Utf8.size_cons, single, Utf8.size_nil, List.append_assoc] at behind
  rw [Text.splitLast_join found]
  exact behind

/-- The offset of the first character that satisfies `p`. -/
def findIf (p : Char → Bool) (cs : List Char) : Option Nat :=
  if cs.any p then some (Utf8.size (cs.takeWhile fun c => !p c)) else none

/-- What a search for a character finds: nothing, or the first one that satisfies `p`. -/
theorem findIf_cases (p : Char → Bool) (cs : List Char) :
    (findIf p cs = none ∧ ∀ c ∈ cs, p c = false) ∨
      ∃ front c behind, cs = front ++ c :: behind ∧ (∀ d ∈ front, p d = false) ∧ p c = true ∧
        findIf p cs = some (Utf8.size front) := by
  cases found : cs.find? p with
  | none =>
    have missing : ∀ c ∈ cs, p c = false := by simpa using found
    exact Or.inl ⟨if_neg (by simpa using missing), missing⟩
  | some c =>
    obtain ⟨first, front, behind, rfl, others⟩ := List.find?_eq_some_iff_append.1 found
    refine Or.inr ⟨front, c, behind, rfl, by simpa using others, first, ?_⟩
    rw [findIf, if_pos (by simp [first]), List.takeWhile_append_of_pos others,
      List.takeWhile_cons_of_neg (by simp [first]), List.append_nil]

end Offset

end ShaderDriver
