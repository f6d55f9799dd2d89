import Mathlib.Data.List.Basic
import ShaderDriver.Text.Numeral

namespace ShaderDriver.Numeral

/-- A nonempty run of ASCII digits whose value is the number. -/
structure Denotes (cs : List Char) (n : UInt32) : Prop where
  numeral : isNumeral cs = true
  value_eq : value cs = n.toNat

theorem Denotes.unique {cs : List Char} {n m : UInt32} (one : Denotes cs n) (other : Denotes cs m) :
    n = m :=
  UInt32.toNat_inj.1 (one.value_eq.symm.trans other.value_eq)

theorem isNumeral_iff {cs : List Char} :
    isNumeral cs = true ↔ cs ≠ [] ∧ ∀ c ∈ cs, c.isDigit = true := by
  simp [isNumeral]

theorem ne_nil {cs : List Char} (numeral : isNumeral cs = true) : cs ≠ [] :=
  (isNumeral_iff.1 numeral).1

theorem not_mem {cs : List Char} (numeral : isNumeral cs = true) {c : Char}
    (other : c.isDigit = false) : c ∉ cs := by
  intro member
  rw [(isNumeral_iff.1 numeral).2 c member] at other
  cases other

theorem getLast?_isDigit {cs : List Char} (numeral : isNumeral cs = true) :
    cs.getLast?.any Char.isDigit = true := by
  obtain ⟨nonempty, digits⟩ := isNumeral_iff.1 numeral
  simp [List.getLast?_eq_some_getLast nonempty, digits _ (List.getLast_mem nonempty)]

theorem read?_eq_some_iff {cs : List Char} {n : UInt32} : read? cs = some n ↔ Denotes cs n := by
  unfold read?
  split
  · rename_i fits
    simp only [Bool.and_eq_true, decide_eq_true_eq] at fits
    have back : (UInt32.ofNat (value cs)).toNat = value cs := UInt32.toNat_ofNat_of_lt fits.2
    constructor
    · intro same
      cases same
      exact ⟨fits.1, back.symm⟩
    · intro denotes
      rw [Option.some_inj, ← UInt32.toNat_inj, back, denotes.value_eq]
  · rename_i unfit
    simp only [Bool.and_eq_true, decide_eq_true_eq, not_and] at unfit
    constructor
    · intro same
      cases same
    · intro denotes
      refine absurd n.toNat_lt_size ?_
      rw [← denotes.value_eq]
      exact unfit denotes.numeral

/-- The digits of a word denote it. -/
theorem digits_denotes (n : UInt32) : Denotes (digits n.toNat) n where
  numeral := isNumeral_iff.2
    ⟨Nat.toDigits_ne_nil, fun _ member => Nat.isDigit_of_mem_toDigits (by decide) (by decide) member⟩
  value_eq := Nat.ofDigitChars_ten_toDigits

end ShaderDriver.Numeral
