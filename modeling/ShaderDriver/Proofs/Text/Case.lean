import Mathlib.Data.List.Forall2

namespace ShaderDriver.Text

/-- Texts that differ at most in the case of their ASCII letters. -/
def SameIgnoringCase (one other : List Char) : Prop :=
  List.Forall₂ (fun c d => c.toLower = d.toLower) one other

theorem sameIgnoringCase_iff {one other : List Char} :
    SameIgnoringCase one other ↔ one.map Char.toLower = other.map Char.toLower := by
  rw [← List.forall₂_eq_eq_eq, List.forall₂_map_left_iff, List.forall₂_map_right_iff]
  rfl

theorem SameIgnoringCase.head {label word : List Char} {c : Char}
    (same : SameIgnoringCase label (c :: word)) :
    ∃ first rest, label = first :: rest ∧ first.toLower = c.toLower := by
  cases same with
  | cons head _ => exact ⟨_, _, rfl, head⟩

theorem SameIgnoringCase.last {label word : List Char} {c : Char}
    (same : SameIgnoringCase label (word ++ [c])) :
    ∃ front last, label = front ++ [last] ∧ last.toLower = c.toLower := by
  have reversed : SameIgnoringCase label.reverse (c :: word.reverse) := by
    rw [SameIgnoringCase, ← List.forall₂_reverse_iff, List.reverse_reverse, List.reverse_cons,
      List.reverse_reverse]
    exact same
  obtain ⟨last, front, joined, lower⟩ := reversed.head
  exact ⟨front.reverse, last, by rw [← List.reverse_reverse label, joined]; simp, lower⟩

theorem SameIgnoringCase.not_mem {label word : List Char} (same : SameIgnoringCase label word) {c : Char}
    (other : c.toLower ∉ word.map Char.toLower) : c ∉ label := by
  intro member
  rw [← sameIgnoringCase_iff.1 same] at other
  exact other (List.mem_map_of_mem member)

theorem toLower_of_isDigit {c : Char} (digit : c.isDigit = true) : c.toLower = c := by
  unfold Char.toLower
  split
  · rename_i upper
    exfalso
    simp only [Char.isDigit, ge_iff_le, Bool.and_eq_true, decide_eq_true_eq] at digit
    have above := UInt32.le_iff_toNat_le.1 upper.1
    have below := UInt32.le_iff_toNat_le.1 digit.2
    have bounds : ('9' : Char).val.toNat < ('A' : Char).val.toNat := by decide
    exact absurd (Nat.le_trans above below) (Nat.not_le.2 bounds)
  · rfl

end ShaderDriver.Text
