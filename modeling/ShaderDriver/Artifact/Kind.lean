namespace ShaderDriver

/-- A secondary output of a compiler. -/
inductive ArtifactKind where
  | assemblyListing
  | debugInfo
  | object
  | reflection
  | rootSignature
  | hash
deriving DecidableEq, Repr

namespace ArtifactKind

/-- All kinds, in the order in which they are listed everywhere. -/
def all : List ArtifactKind := [assemblyListing, debugInfo, object, reflection, rootSignature, hash]

def name : ArtifactKind → String
  | assemblyListing => "assembly_listing"
  | debugInfo => "debug_info"
  | object => "object"
  | reflection => "reflection"
  | rootSignature => "root_signature"
  | hash => "hash"

def flag : ArtifactKind → String
  | assemblyListing => "-Fc"
  | debugInfo => "-Fd"
  | object => "-Fo"
  | reflection => "-Fre"
  | rootSignature => "-Frs"
  | hash => "-Fsh"

/-- The place in the order of kinds. -/
def index : ArtifactKind → Nat
  | assemblyListing => 0
  | debugInfo => 1
  | object => 2
  | reflection => 3
  | rootSignature => 4
  | hash => 5

/-- The number under which a compiler library holds the output in its results. -/
def outputNumber : ArtifactKind → Nat
  | assemblyListing => 5
  | debugInfo => 3
  | object => 1
  | reflection => 8
  | rootSignature => 9
  | hash => 4

def ofName? (s : String) : Option ArtifactKind := all.find? fun kind => kind.name == s

def unknownText (s : String) : String := "unknown artifact kind `" ++ s ++ "`"

theorem mem_all (kind : ArtifactKind) : kind ∈ all := by cases kind <;> decide

theorem all_nodup : all.Nodup := by decide

/-- A text names a kind exactly if it is the kind's name. -/
theorem ofName?_eq_some_iff {s : String} {kind : ArtifactKind} : ofName? s = some kind ↔ s = kind.name := by
  constructor
  · intro found
    unfold ofName? at found
    have same := List.find?_some found
    exact (beq_iff_eq.1 same).symm
  · rintro rfl
    cases kind <;> decide

theorem name_injective {a b : ArtifactKind} (h : a.name = b.name) : a = b := by
  have own : ofName? a.name = some a := ofName?_eq_some_iff.2 rfl
  have found : ofName? a.name = some b := ofName?_eq_some_iff.2 h
  exact Option.some.inj (own.symm.trans found)

end ArtifactKind

end ShaderDriver
