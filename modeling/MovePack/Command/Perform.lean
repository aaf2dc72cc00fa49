/-
# Performing commands

Every command is a sequence of steps on the workspace; the first one that fails ends it.
-/
import MovePack.Command.Basic
import MovePack.Command.Workspace
import MovePack.Package.Exclusion

namespace MovePack

namespace Work

/-- The shortest path from the root of the given one. -/
def realPath (path : Text) : Work Text := do
  return Path.real (← get).files.workingDirectory path

/-- The package in a directory. -/
def openPackage (directory : Text) : Work Package := do
  orFail .opening (Package.ofDirectory (← get).files directory)

/-- The content of the file that an option is given with. -/
def readGiven (path? : Option Text) : Work Bytes := do
  read (← givenPath path?)

/-- Writes an output to the path that a change of the files leads to, and shows where it is. -/
def writeOutput (find : FileSystem → Except OutputFault Text × FileSystem)
    (encoded : Except Codec.WriteFault Bytes) (caption : Text) : Work Unit := do
  let output ← outputPath find
  write output (← orFail .serialization encoded)
  display (caption ++ (← realPath output))

/-! ## Bundles -/

/-- The compiled modules of a package without those excluded by name. -/
def selectModules (p : Package) (excluded : List Text) : Work (List Text) := do
  let found := p.compiledModules (← get).files
  record [Package.searchEntry found]
  let (left, selected) := found.partition (Package.isExcluded excluded)
  record (left.map Package.exclusionEntry)
  return selected

/-- The compiled module in a file. -/
def readModule (path : Text) : Work ModuleDescriptor := do
  orFail .integrity (ModuleDescriptor.ofBinary (← read path))

/-- The modules in the order in which they can be published. -/
def orderModules (modules : List ModuleDescriptor) : Work (List ModuleDescriptor) := do
  record (Bundle.orderLog modules)
  orFail .cycle (Bundle.order modules)

/-- The name of a bundle: the given one, unless it is empty, or that of the package. -/
def bundleName (p : Package) : Option Text → Work Text
  | some (c :: name) => return c :: name
  | _ => orFail .manifest p.name

/-- The compiled modules of the package in a directory without those excluded by name, in the order
in which they can be published. -/
def gatherModules (p : Package) (directory : Text) (excluded : List Text) :
    Work (List ModuleDescriptor) := do
  let paths ← selectModules p excluded
  if paths.isEmpty then
    throw (.noModules (Path.absolute (← get).files.workingDirectory directory))
  orderModules (← paths.mapM readModule)

/-- Writes the bundle of modules. -/
def writeBundle (p : Package) (name? : Option Text) (modules : List ModuleDescriptor) :
    Work Unit := do
  writeOutput (p.bundlePath (← bundleName p name?)) (ModuleBundle.ofDescriptors modules).encode
    "Modules are bundled under: "

/-- Makes the bundle of a package. -/
def makeBundle (directory? name? : Option Text) (excluded : List Text) (builds : Bool) :
    Work Unit := do
  let directory ← givenPath directory?
  let p ← openPackage directory
  if builds then build directory else record [⟨.info, "Skipping the package build"⟩]
  writeBundle p name? (← gatherModules p directory excluded)

/-! ## Transactions -/

/-- The transaction of the script in a file. -/
def createTransaction (script : Text) (types args : List Text) : Work ScriptTransaction := do
  let bytecode ← read script
  let arguments ← orFail .argument (ScriptArguments.ofTexts types args)
  orFail .transaction (ScriptTransaction.create bytecode arguments)

/-- Makes the transaction of a compiled script. -/
def makeTransaction (script? directory? : Option Text) (types args : List Text) : Work Unit := do
  let p ← openPackage (← givenPath directory?)
  let script ← givenPath script?
  let transaction ← createTransaction script types args
  record [⟨.info, "Created " ++ transaction.toText⟩]
  writeOutput (p.transactionPath script) transaction.encode
    "Script transaction is created at:\n"

/-- Shows the hash of the transaction in a file. -/
def showCallHash (path? : Option Text) : Work Unit := do
  display ("Call hash: " ++ (ScriptTransaction.callHash (← readGiven path?)).markedHex)

/-! ## Nodes -/

/-- The query of a request, for which files are read. -/
def queryOf : NodeRequest → Work Query
  | .publishModule account? path? => return .publishModule account? (← readGiven path?)
  | .publishBundle account? path? => return .publishBundle account? (← readGiven path?)
  | .executeScript path? payer? =>
    return .executeScript (← readGiven path?) (payer?.map fun p => (p.1, p.2.map Int.ofNat))
  | .gasToWeight gas? => return .gasToWeight (gas?.map Int.ofNat)
  | .moduleInterface address? name? => return .moduleInterface address? name?

/-- The line that shows what has been found out. -/
def findingText (q : Query) : Finding → Text
  | .estimation e => "Estimated gas: " ++ e.toText
  | .weight w =>
    let gas : Text :=
      match q with
      | .gasToWeight gas? => (Query.numberParameter gas?).plain
      | _ => []
    "Value of " ++ gas ++ " gas converted to weight has a value of " ++ w.toText
  | .interface bytes? =>
    "Module ABI: " ++
      match bytes? with
      | some bytes => bytes.markedHex
      | none => "None"

/-- The address of a destination. -/
def urlOf : Destination → Work Text
  | .usual => return (← get).nodeUrl
  | .given url? => orFail (fun _ => .missingUrl) (url?.elim (.error ()) .ok)

/-- Asks a node and shows the answer. -/
def askNode (destination : Destination) (request : NodeRequest) : Work Unit := do
  let _ ← orFail .timeout (Timeout.ofSetting (← get).timeoutSetting?)
  let q ← queryOf request
  display (findingText q (← ask (← urlOf destination) q))

end Work

/-! ## All commands -/

/-- Performs a command. -/
def Command.perform : Command → Work Unit
  | .bundle directory? name? excluded builds => Work.makeBundle directory? name? excluded builds
  | .createTransaction script? directory? types args =>
    Work.makeTransaction script? directory? types args
  | .callHash path? => Work.showCallHash path?
  | .ask destination request => Work.askNode destination request

end MovePack
