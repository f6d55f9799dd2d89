import ShaderDriver.Text.Utf8

namespace ShaderDriver.Xxh3

/-- A digest, or a pair of accumulators. -/
structure Pair where
  low : UInt64
  high : UInt64
deriving DecidableEq, Repr

/-- The odd constants that spread the bits of a product. -/
def prime32a : UInt64 := 0x9E3779B1
@[inherit_doc prime32a] def prime32b : UInt64 := 0x85EBCA77
@[inherit_doc prime32a] def prime32c : UInt64 := 0xC2B2AE3D
@[inherit_doc prime32a] def prime64a : UInt64 := 0x9E3779B185EBCA87
@[inherit_doc prime32a] def prime64b : UInt64 := 0xC2B2AE3D27D4EB4F
@[inherit_doc prime32a] def prime64c : UInt64 := 0x165667B19E3779F9
@[inherit_doc prime32a] def prime64d : UInt64 := 0x85EBCA77C2B2AE63
@[inherit_doc prime32a] def prime64e : UInt64 := 0x27D4EB2F165667C5
@[inherit_doc prime32a] def primeMixA : UInt64 := 0x165667919E3779F9
@[inherit_doc prime32a] def primeMixB : UInt64 := 0x9FB21C651E98DF25

/-- The secret, whose windows key the input. -/
def secret : Bytes :=
  [0xb8, 0xfe, 0x6c, 0x39, 0x23, 0xa4, 0x4b, 0xbe, 0x7c, 0x01, 0x81, 0x2c, 0xf7, 0x21, 0xad, 0x1c,
    0xde, 0xd4, 0x6d, 0xe9, 0x83, 0x90, 0x97, 0xdb, 0x72, 0x40, 0xa4, 0xa4, 0xb7, 0xb3, 0x67, 0x1f,
    0xcb, 0x79, 0xe6, 0x4e, 0xcc, 0xc0, 0xe5, 0x78, 0x82, 0x5a, 0xd0, 0x7d, 0xcc, 0xff, 0x72, 0x21,
    0xb8, 0x08, 0x46, 0x74, 0xf7, 0x43, 0x24, 0x8e, 0xe0, 0x35, 0x90, 0xe6, 0x81, 0x3a, 0x26, 0x4c,
    0x3c, 0x28, 0x52, 0xbb, 0x91, 0xc3, 0x00, 0xcb, 0x88, 0xd0, 0x65, 0x8b, 0x1b, 0x53, 0x2e, 0xa3,
    0x71, 0x64, 0x48, 0x97, 0xa2, 0x0d, 0xf9, 0x4e, 0x38, 0x19, 0xef, 0x46, 0xa9, 0xde, 0xac, 0xd8,
    0xa8, 0xfa, 0x76, 0x3f, 0xe3, 0x9c, 0x34, 0x3f, 0xf9, 0xdc, 0xbb, 0xc7, 0xc7, 0x0b, 0x4f, 0x1d,
    0x8a, 0x51, 0xe0, 0x4b, 0xcd, 0xb4, 0x59, 0x31, 0xc8, 0x9f, 0x7e, 0xc9, 0xd9, 0x78, 0x73, 0x64,
    0xea, 0xc5, 0xac, 0x83, 0x34, 0xd3, 0xeb, 0xc3, 0xc5, 0x81, 0xa0, 0xff, 0xfa, 0x13, 0x63, 0xeb,
    0x17, 0x0d, 0xdd, 0x51, 0xb7, 0xf0, 0xda, 0x49, 0xd3, 0x16, 0x55, 0x26, 0x29, 0xd4, 0x68, 0x9e,
    0x2b, 0x16, 0xbe, 0x58, 0x7d, 0x47, 0xa1, 0xfc, 0x8f, 0xf8, 0xb8, 0xd1, 0x7a, 0xd0, 0x31, 0xce,
    0x45, 0xcb, 0x3a, 0x8f, 0x95, 0x16, 0x04, 0x28, 0xaf, 0xd7, 0xfb, 0xca, 0xbb, 0x4b, 0x40, 0x7e]

/-- The number that bytes stand for, the least significant byte first. -/
def word (bytes : Bytes) : UInt64 := bytes.foldr (fun b n => n * 256 + b.toUInt64) 0

/-- The 64-bit word at an offset. -/
def word64 (bytes : Bytes) (offset : Nat) : UInt64 := word ((bytes.drop offset).take 8)

/-- The 32-bit word at an offset. -/
def word32 (bytes : Bytes) (offset : Nat) : UInt64 := word ((bytes.drop offset).take 4)

def lower (x : UInt64) : UInt64 := x &&& 0xFFFFFFFF

/-- The bytes of a word of `count` bytes, in the opposite order. -/
def swap (count : Nat) (x : UInt64) : UInt64 :=
  (List.range count).foldl (fun (n : UInt64) (i : Nat) => n * 256 + ((x >>> (8 * i).toUInt64) &&& 0xFF)) 0

/-- Both halves of the full product. -/
def multiply (a b : UInt64) : Pair :=
  let product := a.toNat * b.toNat
  ⟨UInt64.ofNat product, UInt64.ofNat (product / UInt64.size)⟩

/-- The halves of the full product, combined. -/
def fold (a b : UInt64) : UInt64 := let p := multiply a b; p.low ^^^ p.high

def xorShift (x by_ : UInt64) : UInt64 := x ^^^ (x >>> by_)

def avalanche (x : UInt64) : UInt64 := xorShift (xorShift x 37 * primeMixA) 32

def avalancheShort (x : UInt64) : UInt64 :=
  xorShift (xorShift (xorShift x 33 * prime64b) 29 * prime64c) 32

def digestEmpty : Pair :=
  ⟨avalancheShort (word64 secret 64 ^^^ word64 secret 72),
    avalancheShort (word64 secret 80 ^^^ word64 secret 88)⟩

def digestTo3 (bytes : Bytes) : Pair :=
  let n := bytes.length
  let byte (i : Nat) : UInt64 := (bytes.getD i 0).toUInt64
  let low := (byte 0 <<< 16) ||| (byte (n / 2) <<< 24) ||| byte (n - 1) ||| (n.toUInt64 <<< 8)
  let swapped := swap 4 low
  let high := lower (swapped <<< 13) ||| (swapped >>> 19)
  ⟨avalancheShort (low ^^^ word32 secret 0 ^^^ word32 secret 4),
    avalancheShort (high ^^^ word32 secret 8 ^^^ word32 secret 12)⟩

def digestTo8 (bytes : Bytes) : Pair :=
  let n := bytes.length
  let whole := word32 bytes 0 + (word32 bytes (n - 4) <<< 32)
  let keyed := whole ^^^ word64 secret 16 ^^^ word64 secret 24
  let product := multiply keyed (prime64a + (n.toUInt64 <<< 2))
  let high := product.high + (product.low <<< 1)
  let low := product.low ^^^ (high >>> 3)
  ⟨xorShift (xorShift low 35 * primeMixB) 28, avalanche high⟩

def digestTo16 (bytes : Bytes) : Pair :=
  let n := bytes.length
  let first := word64 bytes 0
  let last := word64 bytes (n - 8)
  let product := multiply (first ^^^ last ^^^ word64 secret 32 ^^^ word64 secret 40) prime64a
  let low := product.low + ((n - 1).toUInt64 <<< 54)
  let keyed := last ^^^ word64 secret 48 ^^^ word64 secret 56
  let high := product.high + keyed + lower keyed * (prime32b - 1)
  let final := multiply (low ^^^ swap 8 high) prime64b
  ⟨avalanche final.low, avalanche (final.high + high * prime64b)⟩

def mix16 (bytes : Bytes) (offset key : Nat) : UInt64 :=
  fold (word64 bytes offset ^^^ word64 secret key)
    (word64 bytes (offset + 8) ^^^ word64 secret (key + 8))

def mix32 (bytes : Bytes) (acc : Pair) (first second key : Nat) : Pair :=
  ⟨(acc.low + mix16 bytes first key) ^^^ (word64 bytes second + word64 bytes (second + 8)),
    (acc.high + mix16 bytes second (key + 16)) ^^^ (word64 bytes first + word64 bytes (first + 8))⟩

def finish (length : Nat) (acc : Pair) : Pair :=
  ⟨avalanche (acc.low + acc.high),
    0 - avalanche (acc.low * prime64a + acc.high * prime64d + length.toUInt64 * prime64b)⟩

/-- The digest of 17 to 128 bytes, mixed from both ends, the innermost pieces first. -/
def digestTo128 (bytes : Bytes) : Pair :=
  let n := bytes.length
  let rounds := (n - 1) / 32 + 1
  finish n ((List.range rounds).reverse.foldl
    (fun acc i => mix32 bytes acc (16 * i) (n - 16 * (i + 1)) (32 * i)) ⟨n.toUInt64 * prime64a, 0⟩)

/-- The digest of 129 to 240 bytes, mixed from front to back, and the last piece once more. -/
def digestTo240 (bytes : Bytes) : Pair :=
  let n := bytes.length
  let front := (List.range 4).foldl (fun acc i => mix32 bytes acc (32 * i) (32 * i + 16) (32 * i))
    ⟨n.toUInt64 * prime64a, 0⟩
  let rest := (List.range (n / 32 - 4)).foldl
    (fun acc i => mix32 bytes acc (128 + 32 * i) (144 + 32 * i) (3 + 32 * i))
    ⟨avalanche front.low, avalanche front.high⟩
  finish n (mix32 bytes rest (n - 16) (n - 32) 103)

/-- The eight words of a stretch of 64 bytes. -/
def lanes (bytes : Bytes) : List UInt64 := (List.range 8).map fun i => word64 bytes (8 * i)

def swapNeighbours : List UInt64 → List UInt64
  | a :: b :: rest => b :: a :: swapNeighbours rest
  | rest => rest

/-- Adds a stretch of 64 bytes to the accumulators. -/
def accumulate (acc : List UInt64) (stripe : Bytes) (key : Nat) : List UInt64 :=
  let data := lanes stripe
  let keyed := List.zipWith (· ^^^ ·) data (lanes (secret.drop key))
  let products := keyed.map fun x => lower x * (x >>> 32)
  List.zipWith (· + ·) (List.zipWith (· + ·) acc (swapNeighbours data)) products

/-- Stirs the accumulators at the end of a block of sixteen stretches. -/
def scramble (acc : List UInt64) : List UInt64 :=
  List.zipWith (fun a k => (xorShift a 47 ^^^ k) * prime32a) acc (lanes (secret.drop 128))

/-- Adds `count` stretches, the first of which is number `index` of the input. -/
def accumulateAll : (count index : Nat) → List UInt64 → Bytes → List UInt64
  | 0, _, acc, _ => acc
  | count + 1, index, acc, bytes =>
    let acc := accumulate acc (bytes.take 64) (8 * (index % 16))
    let acc := if index % 16 = 15 then scramble acc else acc
    accumulateAll count (index + 1) acc (bytes.drop 64)

def merge (acc : List UInt64) (key : Nat) (start : UInt64) : UInt64 :=
  let keyed := List.zipWith (· ^^^ ·) acc (lanes (secret.drop key))
  avalanche (pairs keyed start)
where
  /-- Adds the folded products of neighbours. -/
  pairs : List UInt64 → UInt64 → UInt64
    | a :: b :: rest, sum => pairs rest (sum + fold a b)
    | _, sum => sum

/-- The digest of more than 240 bytes. The last 64 bytes are added once more with a key of their own. -/
def digestLong (bytes : Bytes) : Pair :=
  let n := bytes.length
  let start := [prime32c, prime64a, prime64b, prime64c, prime64d, prime32b, prime64e, prime32a]
  let acc := accumulateAll ((n - 1) / 64) 0 start bytes
  let acc := accumulate acc (bytes.drop (n - 64)) 121
  ⟨merge acc 11 (n.toUInt64 * prime64a), merge acc 117 (~~~(n.toUInt64 * prime64b))⟩

/-- The 128-bit digest XXH3 without a seed. It has a form of its own for each range of lengths; all of
them mix words of the input with words of the secret. -/
def digest (bytes : Bytes) : Pair :=
  let n := bytes.length
  if n = 0 then digestEmpty
  else if n ≤ 3 then digestTo3 bytes
  else if n ≤ 8 then digestTo8 bytes
  else if n ≤ 16 then digestTo16 bytes
  else if n ≤ 128 then digestTo128 bytes
  else if n ≤ 240 then digestTo240 bytes
  else digestLong bytes

/-- The sixteen hexadecimal digits of a word. -/
def hexWord (x : UInt64) : List Char :=
  let digits := Nat.toDigits 16 x.toNat
  List.replicate (16 - digits.length) '0' ++ digits

def hex (bytes : Bytes) : String :=
  let pair := digest bytes
  String.ofList (hexWord pair.high ++ hexWord pair.low)

end ShaderDriver.Xxh3
