/-
# Packages and their manifests

A package is a directory with a manifest, the file `Move.toml`.  The manifest may be missing or
broken: work that only needs a script goes on without it, and the fault is reported by the first
operation that asks for the manifest.  Opening a package fails only where a manifest cannot be
taken for a text at all.
-/
import MovePack.Files.FileSystem
import MovePack.Toml.Reader

namespace MovePack

/-- Why a manifest, or the name in it, is not available. -/
inductive ManifestFault where
  /-- There is no manifest in the directory. -/
  | missing (directory : Text)
  /-- The manifest cannot be read. -/
  | unreadable (path : Text) (fault : AccessFault)
  /-- The manifest is no TOML document. -/
  | malformed (path : Text) (fault : Toml.Fault)
  /-- The manifest names no package. -/
  | unnamed (root : Text)
  /-- What the manifest gives as the name is no name. -/
  | invalidName (found : Toml.Value)
  /-- What the manifest gives as the name is no name and cannot even be shown. -/
  | unshownName (fault : Toml.Value.DisplayFault)
deriving Repr

/-- The message of a manifest fault. -/
def ManifestFault.message : ManifestFault → Text
  | .missing directory => "Manifest file not found at " ++ directory
  | .unreadable path fault => "Invalid manifest " ++ path ++ ": " ++ fault.message
  | .malformed path fault => "Invalid manifest " ++ path ++ ": " ++ fault.message
  | .unnamed root => "Manifest in " ++ root ++ " has no [package] name"
  | .invalidName found => "Invalid package name in manifest: " ++ found.display
  | .unshownName fault => fault.message

/-- Why a package cannot be opened. -/
inductive OpenFault where
  /-- The bytes of the manifest are no text. -/
  | undecodable (fault : DecodeFault)
  /-- The path of the manifest holds the null character. -/
  | nullCharacter
  /-- The manifest has too much of something. -/
  | tooMuch (excess : Toml.Excess)
deriving Repr

/-- The message of a package that cannot be opened. -/
def OpenFault.message : OpenFault → Text
  | .undecodable fault => fault.message
  | .nullCharacter => AccessFault.nullCharacter.message
  | .tooMuch excess => excess.message

/-- A package: its directory and the manifest, or why there is none. -/
structure Package where
  /-- The directory, as it was given. -/
  root : Text
  /-- The table of the manifest. -/
  manifest : Except ManifestFault Toml.Value

namespace Package

/-- The name of the manifest file. -/
def manifestName : String := "Move.toml"

/-- The manifest at a path with the given content. -/
def manifestOf (path : Text) (content : Bytes) :
    Except OpenFault (Except ManifestFault Toml.Value) :=
  match Utf8.decode content with
  | .error fault => .error (.undecodable fault)
  | .ok text =>
    match Toml.Value.ofDocument text with
    | .ok table => .ok (.ok table)
    | .error (.tooMuch excess) => .error (.tooMuch excess)
    | .error .malformed => .ok (.error (.malformed path .malformed))

/-- The manifest in a directory. -/
def readManifest (fs : FileSystem) (root : Text) :
    Except OpenFault (Except ManifestFault Toml.Value) :=
  let path := Path.join root manifestName
  match fs.read path with
  | .ok content => manifestOf path content
  | .error .nullCharacter => .error .nullCharacter
  | .error (.refused .notFound _) =>
    .ok (.error (.missing (Path.absolute fs.workingDirectory root)))
  | .error fault => .ok (.error (.unreadable path fault))

/-- The package in a directory. -/
def ofDirectory (fs : FileSystem) (root : Text) : Except OpenFault Package :=
  (readManifest fs root).map fun manifest => ⟨root, manifest⟩

/-- The package has a manifest. -/
def hasManifest (p : Package) : Bool := p.manifest.isOk

/-- The name that a manifest gives to its package in the table `package`. -/
def nameIn (root : Text) (manifest : Toml.Value) : Except ManifestFault Text :=
  match (manifest.member? "package").bind (·.member? "name") with
  | none => .error (.unnamed root)
  | some (.string (c :: name)) => .ok (c :: name)
  | some found =>
    match found.displayFault? 0 with
    | none => .error (.invalidName found)
    | some fault => .error (.unshownName fault)

/-- The name of the package. -/
def name (p : Package) : Except ManifestFault Text := do nameIn p.root (← p.manifest)

end Package

end MovePack
