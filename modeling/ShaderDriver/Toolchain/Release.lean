import ShaderDriver.Decode.Error
import ShaderDriver.Json.Parser
import ShaderDriver.Toolchain.Error

namespace ShaderDriver

/-- A release with the archive to download, whose path is relative to the service's root. A description
gives one if it has a version tag and an archive of the service among its assets. -/
structure Release where
  version : Version
  asset : String
  path : String
deriving DecidableEq, Repr

namespace Release

def serviceRoot : String := "https://api.github.com/"

def listingPath : String := "repos/microsoft/DirectXShaderCompiler/releases"

def latestPath : String := listingPath ++ "/latest"

def taggedPath (version : Version) : String := listingPath ++ "/tags/v" ++ version.display

/-- A description with the parts that may be missing. -/
structure Description where
  tag : Option String
  assets : Option (List JsonValue)

/-- A string, or nothing for null. -/
def text? : JsonValue → Except Decode.Error (Option String)
  | .null => .ok none
  | .string value => .ok (some value)
  | value => .error (.invalidType value.found "a string")

/-- A list of values, or nothing for null. -/
def list? : JsonValue → Except Decode.Error (Option (List JsonValue))
  | .null => .ok none
  | .array items => .ok (some items)
  | value => .error (.invalidType value.found "a sequence")

/-- Decodes a description: an object, or an array of tag and assets. -/
def describe : JsonValue → Except Decode.Error Description
  | .object fields =>
    fields.foldlM (fun description (name, value) =>
      match name with
      | "tag_name" => do pure { description with tag := ← text? value }
      | "assets" => do pure { description with assets := ← list? value }
      | _ => .ok description) ⟨none, none⟩
  | .array [] => .error (.invalidLength 0 "struct RawRelease with 2 elements")
  | .array [tag] => do pure ⟨← text? tag, none⟩
  | .array (tag :: assets :: more) => do
    let description := ⟨← text? tag, ← list? assets⟩
    if more.isEmpty then pure description
    else throw (.invalidLength (more.length + 2) "fewer elements in array")
  | value => .error (.invalidType value.found "struct RawRelease")

/-- Name and address of an asset: an object with both as strings, or an array of the two. -/
def asset? : JsonValue → Option (String × String)
  | .object fields =>
    match fields.lookup "name", fields.lookup "url" with
    | some (.string name), some (.string url) => some (name, url)
    | _, _ => none
  | .array [.string name, .string url] => some (name, url)
  | _ => none

/-- The archive that an asset is, with its path, if it is one that can be downloaded. -/
def archive? (asset : String × String) : Option (String × String) :=
  let name := asset.1.toList
  if (Text.strip? "dxc".toList name).isSome && (Text.stripEnd? ".zip".toList name).isSome then
    (Text.strip? serviceRoot.toList asset.2.toList).map fun path => (asset.1, String.ofList path)
  else none

/-- The release that a value describes: its tag's version and its first archive. -/
def ofValue (value : JsonValue) : Except ToolchainError Release := do
  let description ← (describe value).mapError fun e => .invalidRelease e.message
  let some tag := description.tag | throw (.invalidRelease "missing tag_name")
  let version ← Version.parse tag
  let some assets := description.assets | throw (.invalidRelease s!"release {tag} has no assets")
  match assets.findSome? fun value => (asset? value).bind archive? with
  | some (name, path) => pure ⟨version, name, path⟩
  | none => throw (.invalidRelease s!"release {tag} has no dxc zip archive")

def parse (text : String) : Except ToolchainError Release :=
  match Json.parse? text with
  | none => .error .notJson
  | some value => ofValue value

/-- Orders releases newest first; releases of one version keep their order. -/
def sort (releases : List Release) : List Release :=
  Version.newestFirst Release.version releases

/-- The releases of a listing that count, newest first. -/
def parseListing (text : String) : Except ToolchainError (List Release) :=
  match Json.parse? text with
  | none => .error .notJson
  | some (.array entries) => .ok (sort (entries.filterMap fun entry => (ofValue entry).toOption))
  | some _ => .error (.invalidRelease "release listing is not an array")

end Release

end ShaderDriver
