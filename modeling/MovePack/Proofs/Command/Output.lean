/-
# Making an artifact

A command that makes an artifact opens a package, prepares the artifact, and at last writes it.
Before it comes to the output nothing but the log is changed, unless the package is built; so what a
run does to the files is done by the tool and where the output is written.
-/
import MovePack.Proofs.Command.Bundle
import MovePack.Proofs.Command.Transaction
import MovePack.Proofs.Files.Directories

namespace MovePack

namespace Command

variable {w after : Workspace} {fs : FileSystem} {command : Command} {failure : Failure}
  {find : FileSystem → Except OutputFault Text × FileSystem} {output : Text}

/-- The command makes an artifact. -/
def makesArtifact : Command → Bool
  | .bundle .. => true
  | .createTransaction .. => true
  | _ => false

/-- The command has a package built. -/
def builds : Command → Bool
  | .bundle _ _ _ builds => builds
  | _ => false

/-- The files after a package has been built, if the command asks for it. -/
def filesAfterBuild (w : Workspace) : Command → FileSystem
  | .bundle (some directory) _ _ true => w.tool.filesAfter directory w.files
  | _ => w.files

/-- What is shown before the location of the output. -/
def caption : Command → Text
  | .bundle .. => "Modules are bundled under: "
  | _ => "Script transaction is created at:\n"

lemma notMem_caption_of_isSurrogate (command : Command) {c : CodePoint}
    (h : c.isSurrogate = true) : c ∉ command.caption := by
  have hcaptions : ∀ caption ∈ [("Modules are bundled under: " : Text),
      "Script transaction is created at:\n"], ∀ c ∈ caption, c.isSurrogate = false := by decide
  have hcaption : command.caption ∈ [("Modules are bundled under: " : Text),
      "Script transaction is created at:\n"] := by
    cases command
    · exact List.mem_cons_self
    all_goals exact List.mem_cons_of_mem _ List.mem_cons_self
  intro hc
  rw [hcaptions _ hcaption c hc] at h
  cases h

/-- What the names of outputs end with. -/
def outputExtension : Command → Text
  | .bundle .. => Package.bundleExtension
  | _ => Package.transactionExtension

/-- Why a command fails before it comes to its output. -/
inductive FailsFor (w : Workspace) : Command → Failure → Prop
  | noDirectory {name? excluded builds} :
      FailsFor w (.bundle none name? excluded builds) .missingPath
  | opening {directory name? excluded builds fault}
      (h : Package.ofDirectory w.files directory = .error fault) :
      FailsFor w (.bundle (some directory) name? excluded builds) (.opening fault)
  | building {directory name? excluded fault}
      (h : (w.tool.build directory).outcome = .error fault) :
      FailsFor w (.bundle (some directory) name? excluded true) (.tool fault)
  | gathering {directory name? excluded builds p failure}
      (h : Work.gathered p directory excluded
        (filesAfterBuild w (.bundle (some directory) name? excluded builds)) = .error failure) :
      FailsFor w (.bundle (some directory) name? excluded builds) failure
  | naming {directory name? excluded builds p fault}
      (hp : Package.ofDirectory w.files directory = .ok p)
      (h : p.nameForBundle name? = .error fault) :
      FailsFor w (.bundle (some directory) name? excluded builds) (.manifest fault)
  | noScriptDirectory {script? types args} :
      FailsFor w (.createTransaction script? none types args) .missingPath
  | openingForScript {script? directory types args fault}
      (h : Package.ofDirectory w.files directory = .error fault) :
      FailsFor w (.createTransaction script? (some directory) types args) (.opening fault)
  | noScript {directory? types args} :
      FailsFor w (.createTransaction none directory? types args) .missingPath
  | reading {script directory? types args fault}
      (h : Artifact.read w.files script = .error fault) :
      FailsFor w (.createTransaction (some script) directory? types args) (.artifact fault)
  | argument {script? directory? types args fault}
      (h : ScriptArguments.ofTexts types args = .error fault) :
      FailsFor w (.createTransaction script? directory? types args) (.argument fault)
  | transaction {script directory? types args binary arguments fault}
      (hread : Artifact.read w.files script = .ok binary)
      (hargs : ScriptArguments.ofTexts types args = .ok arguments)
      (h : ScriptTransaction.create binary arguments = .error fault) :
      FailsFor w (.createTransaction (some script) directory? types args) (.transaction fault)

/-- The output of a command: the change of the files that leads to its path. -/
inductive HasOutput (fs : FileSystem) :
    Command → (FileSystem → Except OutputFault Text × FileSystem) → Prop
  | bundle {directory name? excluded builds p name}
      (hp : Package.ofDirectory fs directory = .ok p) (hname : p.nameForBundle name? = .ok name) :
      HasOutput fs (.bundle (some directory) name? excluded builds) (p.bundlePath name)
  | transaction {script directory types args p binary}
      (hp : Package.ofDirectory fs directory = .ok p) (hread : fs.read script = .ok binary) :
      HasOutput fs (.createTransaction (some script) (some directory) types args)
        (p.transactionPath script)

/-- The command fails before it comes to its output, or it comes to it and all that is left is to
write it. -/
inductive Ends (w : Workspace) (command : Command) : Except Failure Unit × Workspace → Prop
  | early {failure : Failure} {after : Workspace} (hfails : command.FailsFor w failure)
      (hfiles : after.files = w.files ∨ after.files = command.filesAfterBuild w) :
      Ends w command (.error failure, after)
  | atOutput {find encoded} {mid : Workspace} {run} (hfind : command.HasOutput w.files find)
      (hrun : (Work.writeOutput find encoded command.caption).runOn mid = run)
      (hencoded : ∀ fault, encoded = .error fault → fault.IsOfValue)
      (hfiles : mid.files = command.filesAfterBuild w) (hshown : mid.shown = w.shown) :
      Ends w command run

end Command

namespace Work

open Command (Ends)

variable {α β : Type} {w mid mid' : Workspace} {command : Command}

/-- A step either fails or leaves the rest to what follows. -/
lemma ends_bind {x : Work α} {next : α → Work Unit} {outcome : Except Failure α}
    (hx : x.runOn mid = (outcome, mid'))
    (herror : ∀ failure, outcome = .error failure → Ends w command (.error failure, mid'))
    (hok : ∀ a, outcome = .ok a → Ends w command ((next a).runOn mid')) :
    Ends w command ((x >>= next).runOn mid) := by
  rw [runOn_bind, hx]
  cases outcome with
  | error failure => exact herror failure rfl
  | ok a => exact hok a rfl

lemma runOn_build (directory : Text) (w : Workspace) : ∃ toolCommands log,
    (build directory).runOn w =
      (((w.tool.build directory).outcome.map fun _ => ()).mapError .tool,
        { w with files := w.tool.filesAfter directory w.files, toolCommands, log }) := by
  apply Exists.intro
  apply Exists.intro
  simp only [build, runOn_bind, runOn_get, runOn_modify, runOn_record, runOn_orFail]
  cases (w.tool.build directory).outcome <;> rfl

/-- The modules are gathered, the bundle is named, and its output is left. -/
lemma ends_gatherModules {p : Package} {directory : Text} {name? : Option Text}
    {excluded : List Text} {builds : Bool} (hp : Package.ofDirectory w.files directory = .ok p)
    (hfiles : mid.files = (Command.bundle (some directory) name? excluded builds).filesAfterBuild w)
    (hshown : mid.shown = w.shown) :
    Ends w (.bundle (some directory) name? excluded builds)
      ((gatherModules p directory excluded >>= writeBundle p name?).runOn mid) := by
  obtain ⟨log, hgather⟩ := runOn_gatherModules p directory excluded mid
  refine ends_bind hgather (fun failure hfailure => ?_) (fun ordered _ => ?_)
  · exact .early (.gathering (hfiles ▸ hfailure)) (.inr hfiles)
  refine ends_bind (runOn_bundleName p name?) (fun failure hfailure => ?_) (fun name hname => ?_)
  · obtain ⟨fault, hname, rfl⟩ := Except.mapError_eq_error_iff.mp hfailure
    exact .early (.naming hp hname) (.inr hfiles)
  · exact .atOutput (.bundle hp (Except.mapError_eq_ok_iff.mp hname)) rfl
      (fun _ => ModuleBundle.isOfValue_of_encode) hfiles hshown

lemma ends_makeBundle (directory? name? : Option Text) (excluded : List Text) (builds : Bool)
    (w : Workspace) :
    Ends w (.bundle directory? name? excluded builds)
      ((makeBundle directory? name? excluded builds).runOn w) := by
  cases directory? with
  | none => exact .early .noDirectory (.inl rfl)
  | some directory =>
    refine ends_bind (runOn_givenPath directory) nofun (fun _ hdirectory => ?_)
    cases hdirectory
    refine ends_bind (runOn_openPackage directory) (fun failure hfailure => ?_) (fun p hp => ?_)
    · obtain ⟨fault, hp, rfl⟩ := Except.mapError_eq_error_iff.mp hfailure
      exact .early (.opening hp) (.inl rfl)
    have hp := Except.mapError_eq_ok_iff.mp hp
    cases builds with
    | false => exact ends_bind (runOn_record _) nofun (fun _ _ => ends_gatherModules hp rfl rfl)
    | true =>
      obtain ⟨toolCommands, log, hbuild⟩ := runOn_build directory w
      refine ends_bind hbuild (fun failure hfailure => ?_)
        (fun _ _ => ends_gatherModules hp rfl rfl)
      obtain ⟨fault, hfault, rfl⟩ := Except.mapError_eq_error_iff.mp hfailure
      exact .early (.building (Except.map_eq_error_iff.mp hfault)) (.inr rfl)

lemma runOn_createTransaction_eq_error {script : Text} {directory? : Option Text}
    {types args : List Text} {failure : Failure}
    (h : (createTransaction script types args).runOn w = (.error failure, mid)) :
    mid = w ∧ Command.FailsFor w (.createTransaction (some script) directory? types args)
      failure := by
  simp only [createTransaction, runOn_bind_eq_error_iff, runOn_read, runOn_orFail, Prod.mk.injEq,
    Except.mapError_eq_error_iff, Except.mapError_eq_ok_iff] at h
  obtain ⟨⟨fault, hread, rfl⟩, rfl⟩ | ⟨_, _, ⟨hread, rfl⟩, ⟨⟨fault, hargs, rfl⟩, rfl⟩ |
    ⟨_, _, ⟨hargs, rfl⟩, ⟨fault, hcreate, rfl⟩, rfl⟩⟩ := h
  · exact ⟨rfl, .reading hread⟩
  · exact ⟨rfl, .argument hargs⟩
  · exact ⟨rfl, .transaction hread hargs hcreate⟩

lemma ends_makeTransaction (script? directory? : Option Text) (types args : List Text)
    (w : Workspace) :
    Ends w (.createTransaction script? directory? types args)
      ((makeTransaction script? directory? types args).runOn w) := by
  cases directory? with
  | none => exact .early .noScriptDirectory (.inl rfl)
  | some directory =>
    refine ends_bind (runOn_givenPath directory) nofun (fun _ hdirectory => ?_)
    cases hdirectory
    refine ends_bind (runOn_openPackage directory) (fun failure hfailure => ?_) (fun p hp => ?_)
    · obtain ⟨fault, hp, rfl⟩ := Except.mapError_eq_error_iff.mp hfailure
      exact .early (.openingForScript hp) (.inl rfl)
    cases script? with
    | none => exact .early .noScript (.inl rfl)
    | some script =>
      refine ends_bind (runOn_givenPath script) nofun (fun _ hscript => ?_)
      cases hscript
      rcases hcreate : (createTransaction script types args).runOn w with ⟨created, mid⟩
      refine ends_bind hcreate (fun failure hfailure => ?_) (fun tx htx => ?_)
      · subst hfailure
        obtain ⟨rfl, hfails⟩ := runOn_createTransaction_eq_error hcreate
        exact .early hfails (.inl rfl)
      · subst htx
        obtain ⟨rfl, binary, hread, -⟩ := runOn_createTransaction_eq_ok_iff.mp hcreate
        exact ends_bind (runOn_record _) nofun fun _ _ =>
          .atOutput (.transaction (Except.mapError_eq_ok_iff.mp hp) hread) rfl
            (fun _ => ScriptTransaction.isOfValue_of_encode) rfl rfl

end Work

namespace Command

variable {w after : Workspace} {fs : FileSystem} {command : Command}
  {find : FileSystem → Except OutputFault Text × FileSystem} {output : Text}

/-- **All that is left to a command that has not failed is to write its output.** -/
theorem ends_perform (hcommand : command.makesArtifact = true) (w : Workspace) :
    command.Ends w (command.perform.runOn w) := by
  cases command with
  | bundle directory? name? excluded builds =>
    exact Work.ends_makeBundle directory? name? excluded builds w
  | createTransaction script? directory? types args =>
    exact Work.ends_makeTransaction script? directory? types args w
  | callHash path? => cases hcommand
  | ask destination request => cases hcommand

lemma filesAfterBuild_eq (h : command.builds = false) (w : Workspace) :
    command.filesAfterBuild w = w.files := by
  rcases command with ⟨_ | directory, name?, excluded, _ | _⟩ | _ | _ | _
  all_goals first | rfl | cases h

end Command

/-! ## Places of outputs -/

namespace Package

variable {p : Package} {fs : FileSystem} {output : Text}

/-- The path of a directory for outputs of the package with the given name. -/
def outputPath (p : Package) (name directoryName : Text) : Text :=
  Path.join (Path.join (Path.join p.root buildDirectoryName) name) directoryName

/-- A directory for outputs is made as far as it can be, once the package has a name. -/
lemma outputDirectory_cases (p : Package) (directoryName : Text) (fs : FileSystem) :
    (∃ fault, p.name = .error fault ∧
        p.outputDirectory directoryName fs = (.error (.manifest fault), fs)) ∨
      ∃ name outcome after, p.name = .ok name ∧
        fs.makeDirectories (p.outputPath name directoryName) = (outcome, after) ∧
        p.outputDirectory directoryName fs =
          ((outcome.mapError .directory).map fun _ => p.outputPath name directoryName, after) := by
  cases hname : p.name with
  | error fault =>
    refine .inl ⟨fault, rfl, ?_⟩
    rw [outputDirectory, buildDirectory, hname]
    rfl
  | ok name =>
    rcases hmade : fs.makeDirectories (p.outputPath name directoryName) with ⟨outcome, after⟩
    refine .inr ⟨name, outcome, after, rfl, hmade, ?_⟩
    rw [outputPath] at hmade
    simp only [outputDirectory, buildDirectory, hname, Except.ok_bind, pure, Except.pure, hmade]
    cases outcome <;> rfl

lemma growsTo_outputDirectory (p : Package) (directoryName : Text) (fs : FileSystem) :
    fs.GrowsTo (p.outputDirectory directoryName fs).2 := by
  obtain ⟨fault, -, h⟩ | ⟨name, outcome, after, -, hmade, h⟩ :=
    p.outputDirectory_cases directoryName fs
  · rw [h]
    exact .refl fs
  · have hgrows := fs.growsTo_makeDirectories (p.outputPath name directoryName)
    rw [hmade] at hgrows
    rwa [h]

lemma growsTo_transactionPath (p : Package) (script : Text) (fs : FileSystem) :
    fs.GrowsTo (p.transactionPath script fs).2 := by
  rw [transactionPath]
  split_ifs
  · exact p.growsTo_outputDirectory transactionsDirectoryName fs
  · exact .refl fs

lemma exists_baseName_bundlePath {name : Text} (h : (p.bundlePath name fs).1 = .ok output) :
    ∃ before, Path.baseName output = before ++ (bundleExtension : Text) := by
  obtain ⟨directory, -, rfl⟩ := Except.map_eq_ok_iff.mp h
  exact Path.exists_baseName_join_append directory name (by decide)

/-- The output for a script lies below the build directory, or beside the script. -/
lemma exists_directory_of_transactionPath {script : Text}
    (h : (p.transactionPath script fs).1 = .ok output) : ∃ directory,
    output =
      Path.join directory (Path.stem (Path.baseName script) ++ (transactionExtension : Text)) ∧
    ((p.hasManifest = true ∧ (p.outputDirectory transactionsDirectoryName fs).1 = .ok directory) ∨
      directory = Path.directoryName script) := by
  rw [transactionPath] at h
  split_ifs at h with hmanifest
  · obtain ⟨directory, hdirectory, rfl⟩ := Except.map_eq_ok_iff.mp h
    exact ⟨directory, rfl, .inl ⟨hmanifest, hdirectory⟩⟩
  · cases h
    exact ⟨_, rfl, .inr rfl⟩

/-- The output for a script has its name, with another extension. -/
lemma baseName_transactionPath {script : Text} (h : (p.transactionPath script fs).1 = .ok output) :
    Path.baseName output = Path.stem (Path.baseName script) ++ (transactionExtension : Text) := by
  obtain ⟨directory, rfl, -⟩ := exists_directory_of_transactionPath h
  refine Path.baseName_join directory fun hslash => ?_
  obtain hslash | hslash := List.mem_append.mp hslash
  · exact Path.slash_notMem_baseName script (Path.mem_of_mem_stem hslash)
  · exact absurd hslash (by decide)

end Package

namespace Command.HasOutput

variable {fs mid : FileSystem} {command : Command} {output : Text}
  {find : FileSystem → Except OutputFault Text × FileSystem}

/-- Seeking the place of an output adds directories only. -/
lemma growsTo (h : command.HasOutput fs find) (mid : FileSystem) : mid.GrowsTo (find mid).2 := by
  cases h with
  | bundle hp hname => exact Package.growsTo_outputDirectory _ _ mid
  | transaction hp hread => exact Package.growsTo_transactionPath _ _ mid

lemma exists_baseName_eq (h : command.HasOutput fs find) (houtput : (find mid).1 = .ok output) :
    ∃ before, Path.baseName output = before ++ command.outputExtension := by
  cases h with
  | bundle hp hname => exact Package.exists_baseName_bundlePath houtput
  | transaction hp hread => exact ⟨_, Package.baseName_transactionPath houtput⟩

end Command.HasOutput

end MovePack
