import ShaderDriver.World.Fault
import ShaderDriver.World.Path
import ShaderDriver.World.Tree

namespace ShaderDriver

/-- What the program can see and change: a tree of files, the directory that relative paths start from,
the directory for temporary files, the directories in which programs are looked up, and a supply of fresh
names. Paths are texts and nothing in the tree is a link. Every operation says what it changes, and one
that fails changes nothing. -/
structure World where
  tree : Tree := {}
  workingDir : Place := []
  tempDir : String := "/tmp"
  searchDirs : List String := []
  nextId : Nat := 0

namespace World

/-- The faults of a path that names no place at all. -/
def checkPath (path : String) : Except Fault Unit :=
  if path.isEmpty then .error .notFound
  else if path.toList.contains '\x00' then
    .error (.other "file name contained an unexpected NUL byte")
  else .ok ()

/-- Follows the pieces of a path. All but the last must lead through directories. -/
def follow (tree : Tree) : List (List Char) → Place → Except Fault Place
  | [], place => .ok place
  | piece :: pieces, place =>
    match tree.find? place with
    | none => .error .notFound
    | some (.file _ _) => .error .notDirectory
    | some .directory =>
      if piece = ['.'] then follow tree pieces place
      else if piece = ['.', '.'] then follow tree pieces place.dropLast
      else follow tree pieces (place ++ [String.ofList piece])

/-- The pieces of a path. A slash at the end asks for a directory, as a final `.` does. -/
def pieces (path : String) : List (List Char) :=
  let parts := (Text.fields '/' path.toList).filter fun piece => !piece.isEmpty
  if path.toList.getLast? = some '/' then parts ++ [['.']] else parts

/-- The place that a path names. Nothing needs to be there yet. -/
def locate (world : World) (path : String) : Except Fault Place := do
  checkPath path
  follow world.tree (pieces path) (if Path.isAbsolute path then [] else world.workingDir)

def entry (world : World) (path : String) : Except Fault Entry := do
  match world.tree.find? (← world.locate path) with
  | some entry => pure entry
  | none => throw .notFound

def fileExists (world : World) (path : String) : Bool := (world.entry path).toOption.isSome

def isFile (world : World) (path : String) : Bool := (world.entry path).toOption.any Entry.isFile

def isDirectory (world : World) (path : String) : Bool :=
  (world.entry path).toOption == some .directory

def readBytes (world : World) (path : String) : Except Fault Bytes := do
  match ← world.entry path with
  | .file bytes _ => pure bytes
  | .directory => throw .isDirectory

def readText (world : World) (path : String) : Except Fault String := do
  match Utf8.decode? (← world.readBytes path) with
  | some text => pure (String.ofList text)
  | none => throw .notText

/-- The place of a file that is to be written; its directory must be there. A path that ends in a slash
cannot make a file. -/
def locateForWriting (world : World) (path : String) : Except Fault Place := do
  let bare := String.ofList (Text.trimEnd (· == '/') path.toList)
  if bare ≠ path ∧ !bare.isEmpty ∧ !world.fileExists bare then
    let _ ← world.locate bare
    throw .isDirectory
  let place ← world.locate path
  if world.tree.find? place = some .directory then throw .isDirectory
  pure place

/-- Writes a file, whose right to be run stays as it was. -/
def writeFile (world : World) (path : String) (bytes : Bytes) : Except Fault World := do
  let place ← world.locateForWriting path
  let executable := match world.tree.find? place with
    | some (.file _ executable) => executable
    | _ => false
  pure { world with tree := world.tree.insert place (.file bytes executable) }

def removeFile (world : World) (path : String) : Except Fault World := do
  let place ← world.locate path
  match world.tree.find? place with
  | some (.file _ _) => pure { world with tree := world.tree.erase place }
  | some .directory => throw .isDirectory
  | none => throw .notFound

def listDirectory (world : World) (path : String) : Except Fault (List String) := do
  let place ← world.locate path
  match world.tree.find? place with
  | some .directory => pure (world.tree.namesBelow place)
  | some (.file _ _) => throw .notDirectory
  | none => throw .notFound

/-- A number as exactly thirty-two hexadecimal digits. -/
@[irreducible] def idDigits (n : Nat) : String :=
  let digits := Nat.toDigits 16 (n % Nat.pow 2 128)
  String.ofList (List.replicate (32 - digits.length) '0' ++ digits)

/-- A name that was not given out before. -/
def freshId (world : World) : String × World :=
  (idDigits world.nextId, { world with nextId := world.nextId + 1 })

end World

end ShaderDriver
