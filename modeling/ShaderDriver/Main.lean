import ShaderDriver.Cli.Run
import ShaderDriver.Shell.Launch

namespace ShaderDriver.Main

/-- What is shown when help is asked for or the arguments are not understood. -/
def usage : String :=
  "Shader compiler driver\n\n" ++
  "Usage: shc [OPTIONS] compile FILE [-T PROFILE] [-E ENTRY] [--name NAME] [--artifact KIND=DEST]\n" ++
  "           [--keep-temps] [-f text|json] [-- EXTRA...]\n" ++
  "       shc [OPTIONS] toolchain list [--dir DIR]\n\n" ++
  "Options: -q, --quiet  -v, --verbose  --config CONFIG  -h, --help  -V, --version\n"

def versionText : String := "shc 0.1.0\n"

def placeOf (path : String) : Place :=
  (path.splitOn "/").filter fun piece => piece ≠ "" && piece ≠ "."

/-- Reads the files below a directory. A file that names its interpreter can be run. -/
partial def readBelow (place : Place) (tree : Tree) : IO Tree := do
  let path := "/" ++ "/".intercalate place
  let here ← IO.FS.realPath path
  let mut tree := (tree.withParents place).insert place .directory
  for entry in ← here.readDir do
    let below := place ++ [entry.fileName]
    if ← entry.path.isDir then tree ← readBelow below tree
    else
      let bytes ← IO.FS.readBinFile entry.path
      tree := tree.insert below (.file bytes.toList (bytes.toList.take 2 == [35, 33]))
  pure tree

def readWorld : IO World := do
  let workingDir := placeOf (← IO.currentDir).toString
  let tempDir := (← IO.getEnv "TMPDIR").getD "/tmp"
  let seed ← IO.getRandomBytes 16
  let tree ← readBelow workingDir (Tree.withParents (placeOf tempDir ++ ["_"]) {})
  pure
    { tree, workingDir, tempDir, searchDirs := ["/usr/local/bin", "/usr/bin", "/bin"]
      nextId := seed.toList.foldl (fun n b => 256 * n + b.toNat) 0 }

/-- Writes the files that are new or changed, and deletes those that are gone. -/
def writeBack (before after : World) : IO Unit := do
  for (place, entry) in after.tree.entries do
    if before.tree.find? place ≠ some entry then
      let path := "/" ++ "/".intercalate place
      match entry with
      | .directory => IO.FS.createDirAll path
      | .file bytes _ => IO.FS.writeBinFile path ⟨bytes.toArray⟩
  for (place, entry) in before.tree.entries do
    if entry.isFile && (after.tree.find? place).isNone then
      IO.FS.removeFile ("/" ++ "/".intercalate place)

end ShaderDriver.Main

open ShaderDriver ShaderDriver.Main in
def main (args : List String) : IO UInt32 := do
  match Cli.Arguments.read args with
  | .error interruption =>
    match interruption with
    | .help => IO.print usage
    | .version => IO.print versionText
    | .misuse => IO.eprint usage
    return interruption.exitCode
  | .ok arguments =>
    let world ← readWorld
    let (outcome, after) := Cli.perform Shell.launch arguments world
    writeBack world after
    IO.print outcome.output
    IO.eprint outcome.errorOutput
    return outcome.exitCode
