import ShaderDriver.Number.Binary64

namespace ShaderDriver.Toml

/-- How a table came to be, which decides who may add to it: written between braces, opened by a
header, implied by the header of a table below it, or implied by a dotted key. -/
inductive Form where
  | inline
  | header
  | implied
  | dotted
deriving DecidableEq, Repr

/-- A value of a document. `tables` is an array filled by `[[…]]` headers, `moment` a date or time. -/
inductive Node where
  | string (value : String)
  | integer (value : Int)
  | float (value : Binary64)
  | boolean (value : Bool)
  | moment
  | array (items : List Node)
  | table (form : Form) (entries : List (String × Node))
  | tables (elements : List (List (String × Node)))
deriving Repr

/-- The entries of a table in the order in which they were written. -/
abbrev Entries := List (String × Node)

/-- A table that is being filled. -/
structure Table where
  form : Form
  entries : Entries

namespace Table

/-- Gives a key a value, in the key's old place or at the end. -/
def put (key : String) (node : Node) : Entries → Entries
  | [] => [(key, node)]
  | (other, old) :: entries =>
    if other = key then (key, node) :: entries else (other, old) :: put key node entries

/-- Changes the table at the end of a path. Tables on the way are made where there are none; the last
element stands for an array of tables. A dotted key does not enter a table that has its own header,
and nothing enters an inline table. -/
def within (dotted : Bool) (change : Table → Option Entries) : List String → Table → Option Entries
  | [], table => change table
  | key :: path, table =>
    match table.entries.lookup key with
    | none => do
      let form := if dotted then Form.dotted else Form.implied
      let child ← within dotted change path ⟨form, []⟩
      pure (put key (.table form child) table.entries)
    | some (.table form entries) =>
      if form = .inline ∨ (dotted ∧ form = .header) then none
      else do
        let child ← within dotted change path ⟨form, entries⟩
        pure (put key (.table form child) table.entries)
    | some (.tables elements) => do
      let last ← elements.getLast?
      let child ← within dotted change path ⟨.header, last⟩
      pure (put key (.tables (elements.dropLast ++ [child])) table.entries)
    | some _ => none

/-- Adds an entry at the end, unless the key is taken. -/
def add (key : String) (node : Node) (entries : Entries) : Option Entries :=
  match entries.lookup key with
  | none => some (entries ++ [(key, node)])
  | some _ => none

/-- Sets the value of a dotted key. The table that holds its last part must itself come from a dotted
key if the key has more than one part, and must not if it has one. -/
def assign (path : List String) (key : String) (node : Node) (table : Table) : Option Entries :=
  within true (fun holder =>
    if (holder.form = .dotted) = (path = []) then none else add key node holder.entries) path table

end Table

end ShaderDriver.Toml
