import ShaderDriver.Text.Numeral
import ShaderDriver.Text.Search

namespace ShaderDriver

/-- A release version, such as `1.7.2308` or `v1.8.2403.2`. The patch number is zero when a tag has none.
-/
structure Version where
  major : UInt32
  minor : UInt32
  micro : UInt32
  patch : UInt32
deriving DecidableEq, Repr

namespace Version

/-- The components, the most significant first. -/
def parts (v : Version) : List UInt32 := [v.major, v.minor, v.micro, v.patch]

/-- The place of a version among all versions: its components are the digits of one number. -/
def rank (v : Version) : Nat := v.parts.foldl (fun n part => n * UInt32.size + part.toNat) 0

instance : LE Version := ⟨fun a b => a.rank ≤ b.rank⟩
instance : LT Version := ⟨fun a b => a.rank < b.rank⟩
instance : DecidableRel (LE.le : Version → Version → Prop) :=
  fun a b => inferInstanceAs (Decidable (a.rank ≤ b.rank))
instance : DecidableRel (LT.lt : Version → Version → Prop) :=
  fun a b => inferInstanceAs (Decidable (a.rank < b.rank))

/-- The printed form leaves out a patch number of zero. -/
def display (v : Version) : String :=
  let shown := if v.patch = 0 then [v.major, v.minor, v.micro] else v.parts
  ".".intercalate (shown.map fun part => toString part.toNat)

/-- Reads three or four numerals between dots, behind an optional `v`. -/
def read? (s : String) : Option Version :=
  let text := (Text.strip? ['v'] s.toList).getD s.toList
  match (Text.fields '.' text).mapM Numeral.read? with
  | some [major, minor, micro] => some ⟨major, minor, micro, 0⟩
  | some [major, minor, micro, patch] => some ⟨major, minor, micro, patch⟩
  | _ => none

/-- The name of the directory that holds an installation of the version. -/
def directoryName (v : Version) : String := "dxc-" ++ v.display

/-- Orders versions newest first, and versions of one rank as they come. -/
def newestFirst (key : α → Version) (xs : List α) : List α :=
  xs.mergeSort fun a b => decide (key b ≤ key a)

end Version

end ShaderDriver
