namespace ShaderDriver

/-- A sequence of octets. -/
abbrev Bytes := List UInt8

namespace Utf8

/-- The octets of one character. -/
def encodeChar (c : Char) : Bytes :=
  let n := c.toNat
  if n < 0x80 then [UInt8.ofNat n]
  else if n < 0x800 then [UInt8.ofNat (0xC0 + n / 64), UInt8.ofNat (0x80 + n % 64)]
  else if n < 0x10000 then
    [UInt8.ofNat (0xE0 + n / 4096), UInt8.ofNat (0x80 + n / 64 % 64), UInt8.ofNat (0x80 + n % 64)]
  else
    [UInt8.ofNat (0xF0 + n / 262144), UInt8.ofNat (0x80 + n / 4096 % 64),
      UInt8.ofNat (0x80 + n / 64 % 64), UInt8.ofNat (0x80 + n % 64)]

/-- The octets of a text. -/
def encode (cs : List Char) : Bytes := cs.flatMap encodeChar

/-- The number of octets of a text. -/
def size (cs : List Char) : Nat := cs.foldr (fun c n => c.utf8Size + n) 0

@[simp] theorem size_append (before after : List Char) :
    size (before ++ after) = size before + size after := by
  induction before with
  | nil => simp [size]
  | cons c before ih =>
    simp only [size, List.cons_append, List.foldr_cons] at ih ⊢
    omega

/-- What the head of an octet sequence turned out to be: a character, or an ill-formed part. Either
comes with the number of octets that it takes. -/
inductive Head where
  | char (c : Char) (width : Nat)
  | illFormed (width : Nat)

/-- The second octets that may follow a lead octet of a sequence of three or four. The narrow
ranges keep out overlong forms, surrogates and numbers above the last character. -/
def secondRange (lead : UInt8) : UInt8 × UInt8 :=
  if lead = 0xE0 then (0xA0, 0xBF)
  else if lead = 0xED then (0x80, 0x9F)
  else if lead = 0xF0 then (0x90, 0xBF)
  else if lead = 0xF4 then (0x80, 0x8F)
  else (0x80, 0xBF)

def isTail (b : UInt8) : Bool := 0x80 ≤ b && b ≤ 0xBF

/-- The low bits of an octet, below `modulus`. -/
def payload (b : UInt8) (modulus : Nat) : Nat := b.toNat % modulus

/-- Reads the head of a sequence that starts with `lead`. -/
def head (lead : UInt8) (rest : Bytes) : Head :=
  if lead < 0x80 then .char (Char.ofNat lead.toNat) 1
  else if lead < 0xC2 || lead > 0xF4 then .illFormed 1
  else if lead < 0xE0 then
    match rest with
    | b :: _ =>
      if isTail b then .char (Char.ofNat (payload lead 32 * 64 + payload b 64)) 2 else .illFormed 1
    | [] => .illFormed 1
  else
    let (low, high) := secondRange lead
    match rest with
    | b :: rest =>
      if low ≤ b && b ≤ high then
        match rest with
        | c :: rest =>
          if isTail c then
            if lead < 0xF0 then
              .char (Char.ofNat (payload lead 16 * 4096 + payload b 64 * 64 + payload c 64)) 3
            else
              match rest with
              | d :: _ =>
                if isTail d then
                  .char (Char.ofNat (payload lead 8 * 262144 + payload b 64 * 4096 +
                    payload c 64 * 64 + payload d 64)) 4
                else .illFormed 3
              | [] => .illFormed 3
          else .illFormed 2
        | [] => .illFormed 2
      else .illFormed 1
    | [] => .illFormed 1

/-- The stretches of a sequence, from left to right. -/
def heads : Bytes → List Head
  | [] => []
  | lead :: rest =>
    let found := head lead rest
    let width := match found with
      | .char _ width => width
      | .illFormed width => width
    found :: heads (rest.drop (width - 1))
termination_by bytes => bytes.length
decreasing_by simp only [List.length_drop, List.length_cons]; omega

def decode? (bytes : Bytes) : Option (List Char) :=
  (heads bytes).mapM fun
    | .char c _ => some c
    | .illFormed _ => none

/-- The text of any sequence, each maximal ill-formed part read as the replacement character. -/
def decodeLossy (bytes : Bytes) : List Char :=
  (heads bytes).map fun
    | .char c _ => c
    | .illFormed _ => '\uFFFD'

end Utf8

end ShaderDriver
