import ShaderDriver.Text.Utf8

namespace ShaderDriver

/-- The names that lead from the root to a place. -/
abbrev Place := List String

/-- What can be at a place. -/
inductive Entry where
  | directory
  | file (bytes : Bytes) (executable : Bool)
deriving DecidableEq, Repr

namespace Entry

def isFile : Entry → Bool
  | file _ _ => true
  | directory => false

def bytes? : Entry → Option Bytes
  | file bytes _ => some bytes
  | directory => none

end Entry

/-- The entries of a file tree, at most one for each place. The root is a directory and not listed. -/
structure Tree where
  entries : List (Place × Entry) := []

namespace Tree

def find? (tree : Tree) : Place → Option Entry
  | [] => some .directory
  | place => tree.entries.lookup place

/-- Puts an entry at a place, in the stead of the one that was there. -/
def insert (place : Place) (entry : Entry) (tree : Tree) : Tree :=
  ⟨if tree.entries.any (·.1 == place) then
      tree.entries.map fun old => if old.1 == place then (place, entry) else old
    else tree.entries ++ [(place, entry)]⟩

def erase (place : Place) (tree : Tree) : Tree :=
  ⟨tree.entries.filter fun old => old.1 != place⟩

def withParents (place : Place) (tree : Tree) : Tree :=
  (List.range place.length).foldl (fun tree n =>
    let above := place.take n
    if (tree.find? above).isSome then tree else tree.insert above .directory) tree

/-- The names of the entries of a directory, in the order of the tree. -/
def namesBelow (tree : Tree) (place : Place) : List String :=
  tree.entries.filterMap fun (other, _) =>
    match other.getLast? with
    | some name => if other.dropLast = place then some name else none
    | none => none

theorem find?_cons (tree : Tree) (name : String) (place : Place) :
    tree.find? (name :: place) = tree.entries.lookup (name :: place) := rfl

end Tree

end ShaderDriver
