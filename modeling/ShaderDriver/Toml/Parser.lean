import ShaderDriver.Toml.Grammar

namespace ShaderDriver.Toml

/-- A header with the assignments below it. The lines above the first header have none. -/
structure Block where
  header : Option (Bool × List String)
  assignments : List (List String × Node)

def blocks (lines : List Line) : Block × List Block :=
  lines.foldr (fun line (open_, closed) =>
    match line with
    | .assignment key node => (⟨none, (key, node) :: open_.assignments⟩, closed)
    | .tableHeader key => (⟨none, []⟩, ⟨some (false, key), open_.assignments⟩ :: closed)
    | .arrayHeader key => (⟨none, []⟩, ⟨some (true, key), open_.assignments⟩ :: closed))
    (⟨none, []⟩, [])

def fill (assignments : List (List String × Node)) (entries : Entries) : Option Entries :=
  assignments.foldlM (fun entries (key, node) => assignKey key node ⟨.header, entries⟩) entries

/-- Puts the table of a block into the document. A table may have one header, also if tables below it
have theirs already; it then moves to the end of its parent. -/
def place (document : Entries) (block : Block) : Option Entries := do
  let some (isArray, key) := block.header | fill block.assignments document
  let name ← key.getLast?
  Table.within false (fun parent =>
    match isArray, parent.entries.lookup name with
    | false, none => do
      let filled ← fill block.assignments []
      pure (parent.entries ++ [(name, .table .header filled)])
    | false, some (.table .implied entries) => do
      let filled ← fill block.assignments entries
      let others := parent.entries.filter fun entry => entry.1 != name
      pure (others ++ [(name, .table .header filled)])
    | true, none => do
      let filled ← fill block.assignments []
      pure (parent.entries ++ [(name, .tables [filled])])
    | true, some (.tables elements) => do
      let filled ← fill block.assignments []
      pure (Table.put name (.tables (elements ++ [filled])) parent.entries)
    | _, _ => none) key.dropLast ⟨.header, document⟩

/-- The entries of a document's own table, if the text is a document. The lines below a header fill its
table, which is then put into the document; lines above the first header fill the document's own table. -/
def parse? (text : String) : Option Entries := do
  let lines ← Scan.whole document text
  let (first, others) := blocks lines
  (first :: others).foldlM place []

end ShaderDriver.Toml
