/-
# The layout of a package

Everything that is made from a package lies below its directory `build/<name>`: compiled modules
in `bytecode_modules`, bundles in `bundles` and script transactions in `script_transactions`.
-/
import MovePack.LogEntry
import MovePack.Package.Manifest

namespace MovePack

/-- Why there is no place for an output. -/
inductive OutputFault where
  /-- The manifest is needed and does not help. -/
  | manifest (fault : ManifestFault)
  /-- A directory cannot be made. -/
  | directory (fault : AccessFault)
deriving Repr

/-- The message of an output fault. -/
def OutputFault.message : OutputFault → Text
  | .manifest fault => fault.message
  | .directory fault => fault.message

namespace Package

/-- The name of the directory with all that is built. -/
def buildDirectoryName : Text := "build"

/-- The name of the directories with compiled modules. -/
def modulesDirectoryName : Text := "bytecode_modules"

/-- The name of the directory with bundles. -/
def bundlesDirectoryName : Text := "bundles"

/-- The name of the directory with script transactions. -/
def transactionsDirectoryName : Text := "script_transactions"

/-- The end of the name of a compiled module. -/
def moduleExtension : String := ".mv"

/-- The end of the name of a bundle. -/
def bundleExtension : String := ".mvb"

/-- The end of the name of a script transaction. -/
def transactionExtension : String := ".mvt"

/-- The directory of what is built from the package. -/
def buildDirectory (p : Package) : Except ManifestFault Text := do
  return Path.join (Path.join p.root buildDirectoryName) (← p.name)

/-- A directory below the build directory, which is made if it is missing. -/
def outputDirectory (p : Package) (directoryName : Text) (fs : FileSystem) :
    Except OutputFault Text × FileSystem :=
  match p.buildDirectory with
  | .error fault => (.error (.manifest fault), fs)
  | .ok base =>
    let directory := Path.join base directoryName
    match fs.makeDirectories directory with
    | (.error fault, after) => (.error (.directory fault), after)
    | (.ok (), after) => (.ok directory, after)

/-- The path of the bundle with the given name, in a directory that exists then. -/
def bundlePath (p : Package) (bundleName : Text) (fs : FileSystem) :
    Except OutputFault Text × FileSystem :=
  let (directory, after) := p.outputDirectory bundlesDirectoryName fs
  (directory.map fun directory => Path.join directory (bundleName ++ bundleExtension), after)

/-- The path of the transaction of a compiled script: in a package with a manifest below the build
directory, otherwise beside the script. -/
def transactionPath (p : Package) (script : Text) (fs : FileSystem) :
    Except OutputFault Text × FileSystem :=
  let fileName := Path.stem (Path.baseName script) ++ transactionExtension
  let (directory, after) :=
    if p.hasManifest then p.outputDirectory transactionsDirectoryName fs
    else (.ok (Path.directoryName script), fs)
  (directory.map fun directory => Path.join directory fileName, after)

/-! ## Compiled modules -/

/-- The compiled modules that lie in the directory at a path itself.  A file whose path is too long
to lead to it is passed over. -/
def modulesIn (fs : FileSystem) (path : Text) (children : List (Text × Entry)) : List Text :=
  if Path.baseName path = modulesDirectoryName then
    children.filterMap fun (name, entry) =>
      match entry with
      | .file _ =>
        if name.endsWith moduleExtension && fs.isFile (Path.join path name) then
          some (Path.join path name)
        else none
      | .directory => none
  else []

/-- The names of the directories among what a directory holds. -/
def directoriesIn (children : List (Text × Entry)) : List Text :=
  children.filterMap fun (name, entry) => if entry = .directory then some name else none

/-- The compiled modules in the directory at a location and below it, of at most `fuel` levels.
A directory comes before those in it, and names are ascending. -/
def modulesBelow (fs : FileSystem) : (fuel : Nat) → Location → (path : Text) → List Text
  | 0, _, _ => []
  | fuel + 1, location, path =>
    let children := fs.children location
    modulesIn fs path children ++ (directoriesIn children).flatMap fun name =>
      modulesBelow fs fuel (location ++ [name]) (Path.join path name)

/-- The paths of the compiled modules of the package: the files `*.mv` that lie directly in a
directory `bytecode_modules`. -/
def compiledModules (p : Package) (fs : FileSystem) : List Text :=
  match fs.locate p.root with
  | .error _ => []
  | .ok location =>
    if fs.isDirectoryAt location then modulesBelow fs (fs.height + 1) location p.root else []

/-- What is recorded when compiled modules have been looked for. -/
def searchEntry (modules : List Text) : LogEntry :=
  ⟨.debug, "Found " ++ Text.ofNat modules.length ++ " compiled modules"⟩

end Package

end MovePack
