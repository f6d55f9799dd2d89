import ShaderDriver.Text.Search

namespace ShaderDriver.Path

def isAbsolute (path : String) : Bool :=
  match path.toList with
  | '/' :: _ => true
  | _ => false

/-- Appends a path to a directory. An absolute path replaces it, and an empty one adds a slash. -/
def join (base path : String) : String :=
  if isAbsolute path || base.isEmpty then path
  else if base.toList.getLast? = some '/' then base ++ path
  else base ++ "/" ++ path

/-- Whether a piece between slashes names nothing, given the pieces before it. A `.` counts only as the
very first piece of a relative path. -/
def isTrailing (absolute : Bool) (piece : List Char) (earlier : List (List Char)) : Bool :=
  piece.isEmpty || (piece == ['.'] && (absolute || !earlier.isEmpty))

/-- Drops the pieces at the end that name nothing; the last piece comes first. -/
def dropTrailing (absolute : Bool) : List (List Char) → List (List Char)
  | [] => []
  | piece :: earlier =>
    if isTrailing absolute piece earlier then dropTrailing absolute earlier else piece :: earlier

/-- The path without its last name; none for the root and for the empty path. -/
def parent? (path : String) : Option String :=
  let absolute := isAbsolute path
  let body := if absolute then path.toList.drop 1 else path.toList
  match dropTrailing absolute (Text.fields '/' body).reverse with
  | [] => none
  | _ :: earlier =>
    let kept := (dropTrailing absolute earlier).reverse
    some (String.ofList ((if absolute then ['/'] else []) ++ Text.joinWith ['/'] kept))

end ShaderDriver.Path
