import ShaderDriver.Text.Utf8
import Mathlib.Tactic.Common

namespace ShaderDriver.Utf8

theorem toNat_octet {n : Nat} (small : n < 256) : (UInt8.ofNat n).toNat = n := by
  rw [UInt8.toNat_ofNat', Nat.mod_eq_of_lt small]

theorem isTail_iff {b : UInt8} : isTail b = true ↔ 0x80 ≤ b.toNat ∧ b.toNat ≤ 0xBF := by
  simp only [isTail, Bool.and_eq_true, decide_eq_true_eq, UInt8.le_iff_toNat_le]
  rfl

/-- Whether an octet may come second, after some lead. -/
def follows (lead b : UInt8) : Bool := (secondRange lead).1 ≤ b && b ≤ (secondRange lead).2

theorem follows_of_toNat {b : UInt8} (lead : UInt8) (tail : isTail b = true)
    (overlong : lead.toNat = 0xE0 → 0xA0 ≤ b.toNat) (surrogate : lead.toNat = 0xED → b.toNat ≤ 0x9F)
    (overlong' : lead.toNat = 0xF0 → 0x90 ≤ b.toNat) (beyond : lead.toNat = 0xF4 → b.toNat ≤ 0x8F) :
    follows lead b = true := by
  obtain ⟨low, high⟩ := isTail_iff.1 tail
  simp only [follows, Bool.and_eq_true, decide_eq_true_eq, UInt8.le_iff_toNat_le]
  unfold secondRange
  split
  · rename_i same
    exact ⟨overlong (congrArg UInt8.toNat same), high⟩
  · split
    · rename_i same
      exact ⟨low, surrogate (congrArg UInt8.toNat same)⟩
    · split
      · rename_i same
        exact ⟨overlong' (congrArg UInt8.toNat same), high⟩
      · split
        · rename_i same
          exact ⟨low, beyond (congrArg UInt8.toNat same)⟩
        · exact ⟨low, high⟩

/-- A lead octet of more than one starts no single octet and is not ill-formed by itself. -/
theorem leads (lead : UInt8) (low : 0xC2 ≤ lead.toNat) (high : lead.toNat ≤ 0xF4) :
    ¬ lead < 0x80 ∧ ¬ (decide (lead < 0xC2) || decide (lead > 0xF4)) = true := by
  simp only [UInt8.lt_iff_toNat_lt, gt_iff_lt, Bool.or_eq_true, decide_eq_true_eq, not_or, Nat.not_lt]
  exact ⟨Nat.le_trans (by decide) low, low, high⟩

section Heads

variable {lead b c d : UInt8} (rest : Bytes)

theorem head_one (ascii : lead.toNat < 0x80) : head lead rest = .char (Char.ofNat lead.toNat) 1 := by
  unfold head
  rw [if_pos (UInt8.lt_iff_toNat_lt.2 ascii)]

theorem head_two (low : 0xC2 ≤ lead.toNat) (high : lead.toNat < 0xE0) (second : isTail b = true) :
    head lead (b :: rest) = .char (Char.ofNat (payload lead 32 * 64 + payload b 64)) 2 := by
  obtain ⟨notOne, led⟩ := leads lead low (by omega)
  unfold head
  rw [if_neg notOne, if_neg led, if_pos (UInt8.lt_iff_toNat_lt.2 high)]
  simp only [second, if_true]

theorem head_three (low : 0xE0 ≤ lead.toNat) (high : lead.toNat < 0xF0) (second : follows lead b = true)
    (third : isTail c = true) :
    head lead (b :: c :: rest) =
      .char (Char.ofNat (payload lead 16 * 4096 + payload b 64 * 64 + payload c 64)) 3 := by
  obtain ⟨notOne, led⟩ := leads lead (by omega) (by omega)
  have notTwo : ¬ lead < 0xE0 := mt UInt8.lt_iff_toNat_lt.1 (Nat.not_lt.2 low)
  have three : lead < 0xF0 := UInt8.lt_iff_toNat_lt.2 high
  unfold follows at second
  unfold head
  rw [if_neg notOne, if_neg led, if_neg notTwo]
  simp only [second, third, three, if_true]

theorem head_four (low : 0xF0 ≤ lead.toNat) (high : lead.toNat ≤ 0xF4) (second : follows lead b = true)
    (third : isTail c = true) (fourth : isTail d = true) :
    head lead (b :: c :: d :: rest) =
      .char (Char.ofNat (payload lead 8 * 262144 + payload b 64 * 4096 + payload c 64 * 64 +
        payload d 64)) 4 := by
  obtain ⟨notOne, led⟩ := leads lead (by omega) high
  have notTwo : ¬ lead < 0xE0 := mt UInt8.lt_iff_toNat_lt.1 (Nat.not_lt.2 (Nat.le_trans (by decide) low))
  have notThree : ¬ lead < 0xF0 := mt UInt8.lt_iff_toNat_lt.1 (Nat.not_lt.2 low)
  unfold follows at second
  unfold head
  rw [if_neg notOne, if_neg led, if_neg notTwo]
  simp only [second, third, fourth, notThree, if_true, if_false]

end Heads

section Octets

variable {n : Nat} (rest : Bytes)

theorem isTail_octet (low : 0x80 ≤ n) (high : n ≤ 0xBF) : isTail (UInt8.ofNat n) = true := by
  rw [isTail_iff, toNat_octet (by omega)]
  exact ⟨low, high⟩

theorem head_octets_two (low : 0x80 ≤ n) (high : n < 0x800) :
    head (UInt8.ofNat (0xC0 + n / 64)) (UInt8.ofNat (0x80 + n % 64) :: rest) =
      .char (Char.ofNat n) 2 := by
  have lead := toNat_octet (n := 0xC0 + n / 64) (by omega)
  have second := toNat_octet (n := 0x80 + n % 64) (by omega)
  rw [head_two rest (by omega) (by omega) (isTail_octet (by omega) (by omega)), payload, payload, lead,
    second]
  have value : (0xC0 + n / 64) % 32 * 64 + (0x80 + n % 64) % 64 = n := by omega
  rw [value]

theorem head_octets_three (low : 0x800 ≤ n) (high : n < 0x10000) (valid : n < 0xD800 ∨ 0xDFFF < n) :
    head (UInt8.ofNat (0xE0 + n / 4096))
        (UInt8.ofNat (0x80 + n / 64 % 64) :: UInt8.ofNat (0x80 + n % 64) :: rest) =
      .char (Char.ofNat n) 3 := by
  have lead := toNat_octet (n := 0xE0 + n / 4096) (by omega)
  have second := toNat_octet (n := 0x80 + n / 64 % 64) (by omega)
  have third := toNat_octet (n := 0x80 + n % 64) (by omega)
  have allowed : follows (UInt8.ofNat (0xE0 + n / 4096)) (UInt8.ofNat (0x80 + n / 64 % 64)) = true :=
    follows_of_toNat _ (isTail_octet (by omega) (by omega)) (by omega) (by omega) (by omega) (by omega)
  rw [head_three rest (by omega) (by omega) allowed (isTail_octet (by omega) (by omega)), payload, payload,
    payload, lead, second, third]
  have value : (0xE0 + n / 4096) % 16 * 4096 + (0x80 + n / 64 % 64) % 64 * 64 + (0x80 + n % 64) % 64 = n := by
    omega
  rw [value]

theorem head_octets_four (low : 0x10000 ≤ n) (high : n < 0x110000) :
    head (UInt8.ofNat (0xF0 + n / 262144))
        (UInt8.ofNat (0x80 + n / 4096 % 64) :: UInt8.ofNat (0x80 + n / 64 % 64) ::
          UInt8.ofNat (0x80 + n % 64) :: rest) =
      .char (Char.ofNat n) 4 := by
  have lead := toNat_octet (n := 0xF0 + n / 262144) (by omega)
  have second := toNat_octet (n := 0x80 + n / 4096 % 64) (by omega)
  have third := toNat_octet (n := 0x80 + n / 64 % 64) (by omega)
  have fourth := toNat_octet (n := 0x80 + n % 64) (by omega)
  have allowed : follows (UInt8.ofNat (0xF0 + n / 262144)) (UInt8.ofNat (0x80 + n / 4096 % 64)) = true :=
    follows_of_toNat _ (isTail_octet (by omega) (by omega)) (by omega) (by omega) (by omega) (by omega)
  rw [head_four rest (by omega) (by omega) allowed (isTail_octet (by omega) (by omega))
    (isTail_octet (by omega) (by omega)), payload, payload, payload, payload, lead, second, third, fourth]
  have value : (0xF0 + n / 262144) % 8 * 262144 + (0x80 + n / 4096 % 64) % 64 * 4096 +
      (0x80 + n / 64 % 64) % 64 * 64 + (0x80 + n % 64) % 64 = n := by omega
  rw [value]

end Octets

/-- The octets of a character are read as this character, whatever follows. -/
theorem head_encodeChar (c : Char) (rest : Bytes) :
    ∃ lead tail, encodeChar c = lead :: tail ∧ head lead (tail ++ rest) = .char c (tail.length + 1) := by
  have named : Char.ofNat c.toNat = c := Char.ofNat_toNat c
  have valid : c.toNat < 0xD800 ∨ 0xDFFF < c.toNat ∧ c.toNat < 0x110000 := c.valid
  simp only [encodeChar]
  split
  · have ascii := toNat_octet (n := c.toNat) (by omega)
    have read := head_one rest (by omega : (UInt8.ofNat c.toNat).toNat < 0x80)
    rw [ascii, named] at read
    exact ⟨_, _, rfl, read⟩
  · split
    · have read := head_octets_two (n := c.toNat) rest (by omega) (by omega)
      rw [named] at read
      exact ⟨_, _, rfl, read⟩
    · split
      · have read := head_octets_three (n := c.toNat) rest (by omega) (by omega) (by omega)
        rw [named] at read
        exact ⟨_, _, rfl, read⟩
      · have read := head_octets_four (n := c.toNat) rest (by omega) (by omega)
        rw [named] at read
        exact ⟨_, _, rfl, read⟩

theorem heads_encodeChar (c : Char) (rest : Bytes) :
    heads (encodeChar c ++ rest) = .char c (encodeChar c).length :: heads rest := by
  obtain ⟨lead, tail, octets, read⟩ := head_encodeChar c rest
  rw [octets, List.cons_append, heads, read]
  simp only [Nat.add_sub_cancel, List.drop_left, List.length_cons]

theorem decodeLossy_encode (cs : List Char) : decodeLossy (encode cs) = cs := by
  induction cs with
  | nil => rw [encode, List.flatMap_nil, decodeLossy, heads, List.map_nil]
  | cons c cs ih =>
    rw [encode, List.flatMap_cons, ← encode, decodeLossy, heads_encodeChar, List.map_cons, ← decodeLossy, ih]

theorem decode?_encode (cs : List Char) : decode? (encode cs) = some cs := by
  induction cs with
  | nil => rw [encode, List.flatMap_nil, decode?, heads, List.mapM_nil]; rfl
  | cons c cs ih =>
    rw [decode?] at ih
    rw [encode, List.flatMap_cons, ← encode, decode?, heads_encodeChar, List.mapM_cons, ih]
    rfl

end ShaderDriver.Utf8
