/-
# Bundling the modules of a package

What the command for bundles does depends on the files that are found and not excluded: there must
be some, each must hold a module, and the modules must not depend on each other in a cycle.  The
bundle then consists of the modules, each in the last of its files and after its dependencies.
-/
import Mathlib
import MovePack.Proofs.Bundle.Cycle
import MovePack.Proofs.Bytecode.Module
import MovePack.Proofs.Codec.RoundTrip
import MovePack.Proofs.Command.Workspace
import MovePack.Proofs.Files.Directories

namespace MovePack

open ModuleDescriptor (DependsOn)

/-! ## Finding modules -/

namespace Package

variable {p : Package} {fs : FileSystem} {path : Text}

/-- The files that go into a bundle: those that are found and not excluded, in the order in which
they are found. -/
def selected (p : Package) (excluded : List Text) (fs : FileSystem) : List Text :=
  (p.compiledModules fs).filter fun path => !isExcluded excluded path

/-- The path leads to a regular file and has the ending of a compiled module. -/
def IsModulePath (fs : FileSystem) (path : Text) : Prop :=
  fs.isFile path = true ∧
    ∃ directory name, path = Path.join directory (name ++ (moduleExtension : Text))

lemma isModulePath_of_mem_modulesIn {children : List (Text × Entry)} {directory : Text}
    (h : path ∈ modulesIn fs directory children) : IsModulePath fs path := by
  rw [modulesIn] at h
  split_ifs at h
  · obtain ⟨⟨name, entry⟩, -, hentry⟩ := List.mem_filterMap.mp h
    cases entry with
    | directory => cases hentry
    | file content =>
      simp only [Option.ite_none_right_eq_some, Bool.and_eq_true, Option.some.injEq] at hentry
      obtain ⟨⟨hname, hfile⟩, rfl⟩ := hentry
      obtain ⟨name, rfl⟩ := List.isSuffixOf_iff_suffix.mp hname
      exact ⟨hfile, directory, name, rfl⟩
  · cases h

lemma isModulePath_of_mem_modulesBelow {fuel : Nat} {location : Location} {directory : Text}
    (h : path ∈ modulesBelow fs fuel location directory) : IsModulePath fs path := by
  induction fuel generalizing location directory with
  | zero => cases h
  | succ fuel ih =>
    rw [modulesBelow, List.mem_append, List.mem_flatMap] at h
    obtain h | ⟨name, -, h⟩ := h
    · exact isModulePath_of_mem_modulesIn h
    · exact ih h

/-- What is found are regular files with the ending of a compiled module. -/
lemma isModulePath_of_mem_compiledModules (h : path ∈ p.compiledModules fs) :
    IsModulePath fs path := by
  rw [compiledModules] at h
  split at h
  · cases h
  · split_ifs at h
    · exact isModulePath_of_mem_modulesBelow h
    · cases h

/-- The name of a bundle: the given one, unless it is empty, or that of the package. -/
def nameForBundle (p : Package) : Option Text → Except ManifestFault Text
  | some (c :: name) => .ok (c :: name)
  | _ => p.name

end Package

/-! ## Reading modules -/

namespace ModuleDescriptor

variable {fs : FileSystem} {path : Text} {d : ModuleDescriptor} {failure : Failure}

/-- The file at the path holds the binary of the module, with these dependencies. -/
structure IsAt (fs : FileSystem) (path : Text) (d : ModuleDescriptor) : Prop where
  /-- The content of the file. -/
  read : fs.read path = .ok d.code
  /-- The module of this content. -/
  isModule : CompiledModule.IsModule d.code d.id d.dependencies

/-- The file at the path holds something else than a module. -/
def IsRefusedAt (fs : FileSystem) (path : Text) : Prop :=
  ∃ content, fs.read path = .ok content ∧
    ¬ ∃ id dependencies, CompiledModule.IsModule content id dependencies

/-- The module in a file. -/
def at? (fs : FileSystem) (path : Text) : Except Failure ModuleDescriptor := do
  (ofBinary (← (Artifact.read fs path).mapError .artifact)).mapError .integrity

lemma at?_eq_ok_iff : at? fs path = .ok d ↔ IsAt fs path d := by
  simp only [at?, Except.bind_eq_ok_iff, Except.mapError_eq_ok_iff, Artifact.read_eq_ok_iff,
    ofBinary_eq_ok_iff_isModule]
  constructor
  · rintro ⟨code, hread, rfl, hd⟩
    exact ⟨hread, hd⟩
  · rintro ⟨hread, hd⟩
    exact ⟨_, hread, rfl, hd⟩

/-- A file that is there is refused only for its content. -/
lemma exists_of_at?_eq_error (hfile : fs.isFile path = true) (h : at? fs path = .error failure) :
    IsRefusedAt fs path ∧ ∃ fault, failure = .integrity fault := by
  obtain ⟨content, hcontent⟩ := FileSystem.isFile_iff.mp hfile
  rw [at?, Artifact.read_eq_ok_iff.mpr hcontent] at h
  obtain ⟨fault, hfault, rfl⟩ := Except.mapError_eq_error_iff.mp h
  refine ⟨⟨content, hcontent, ?_⟩, fault, rfl⟩
  rintro ⟨id, dependencies, hmodule⟩
  have hd := (ofBinary_eq_ok_iff_isModule (d := ⟨id, dependencies, content⟩)).mpr ⟨rfl, hmodule⟩
  rw [hd] at hfault
  cases hfault

lemma mapM_at?_eq_ok_iff {paths : List Text} {modules : List ModuleDescriptor} :
    paths.mapM (at? fs) = .ok modules ↔ List.Forall₂ (IsAt fs) paths modules := by
  simp only [Except.mapM_eq_ok_iff, at?_eq_ok_iff]

/-- Files hold modules in one way only. -/
lemma forall₂_isAt_unique {paths : List Text} {modules modules' : List ModuleDescriptor}
    (h : List.Forall₂ (IsAt fs) paths modules) (h' : List.Forall₂ (IsAt fs) paths modules') :
    modules = modules' := by
  rw [← mapM_at?_eq_ok_iff] at h h'
  exact Except.ok.inj (h.symm.trans h')

lemma IsRefusedAt.not_isAt (h : IsRefusedAt fs path) (d : ModuleDescriptor) :
    ¬ IsAt fs path d := by
  rintro ⟨hread, hd⟩
  obtain ⟨content, hcontent, hnone⟩ := h
  obtain rfl := Except.ok.inj (hread.symm.trans hcontent)
  exact hnone ⟨d.id, d.dependencies, hd⟩

lemma IsRefusedAt.not_forall₂_isAt {paths : List Text} (h : IsRefusedAt fs path)
    (hpath : path ∈ paths) (modules : List ModuleDescriptor) :
    ¬ List.Forall₂ (IsAt fs) paths modules := by
  rw [← mapM_at?_eq_ok_iff]
  intro hmodules
  obtain ⟨d, -, hd⟩ := Except.exists_of_mapM_eq_ok hmodules hpath
  exact h.not_isAt d (at?_eq_ok_iff.mp hd)

end ModuleDescriptor

/-! ## Gathering modules -/

namespace Work

open ModuleDescriptor (IsAt IsRefusedAt at?)

variable {w : Workspace} {p : Package} {directory : Text} {excluded : List Text}

/-- The ordered modules of the files that go into a bundle. -/
def gathered (p : Package) (directory : Text) (excluded : List Text) (fs : FileSystem) :
    Except Failure (List ModuleDescriptor) :=
  if p.selected excluded fs = [] then
    .error (.noModules (Path.absolute fs.workingDirectory directory))
  else do (Bundle.order (← (p.selected excluded fs).mapM (at? fs))).mapError .cycle

lemma runOn_readModule (path : Text) : (readModule path).runOn w = (at? w.files path, w) := by
  rw [readModule, runOn_bind, runOn_read, at?]
  cases (Artifact.read w.files path).mapError Failure.artifact <;> simp <;> rfl

lemma runOn_selectModules (p : Package) (excluded : List Text) (w : Workspace) : ∃ log,
    (selectModules p excluded).runOn w =
      (.ok (p.selected excluded w.files), { w with log }) := by
  apply Exists.intro
  simp only [selectModules, runOn_bind, runOn_get, runOn_record, runOn_pure,
    List.partition_eq_filter_filter]
  rfl

lemma runOn_orderModules (modules : List ModuleDescriptor) (w : Workspace) :
    (orderModules modules).runOn w =
      ((Bundle.order modules).mapError .cycle,
        { w with log := (Bundle.orderLog modules).reverse ++ w.log }) := by
  simp only [orderModules, runOn_bind, runOn_record, runOn_orFail]

/-- Modules are gathered from the files, and nothing but the log is changed. -/
lemma runOn_gatherModules (p : Package) (directory : Text) (excluded : List Text)
    (w : Workspace) : ∃ log,
    (gatherModules p directory excluded).runOn w =
      (gathered p directory excluded w.files, { w with log }) := by
  obtain ⟨log, hselect⟩ := runOn_selectModules p excluded w
  rw [gatherModules, runOn_bind, hselect, gathered]
  by_cases hnone : p.selected excluded w.files = []
  · refine ⟨log, ?_⟩
    simp [hnone, runOn_bind]
  · have hread : ((p.selected excluded w.files).mapM readModule).runOn { w with log } =
        ((p.selected excluded w.files).mapM (at? w.files), { w with log }) :=
      runOn_mapM (fun path => runOn_readModule path) _
    simp only [List.isEmpty_iff, hnone, if_false, runOn_bind, hread]
    cases (p.selected excluded w.files).mapM (at? w.files) with
    | error failure => exact ⟨log, rfl⟩
    | ok modules => exact ⟨_, runOn_orderModules modules _⟩

section Gathered

variable {fs : FileSystem} {modules ordered : List ModuleDescriptor} {fault : Bundle.CycleFault}

/-- What the files hold decides whether modules are gathered, and why not. -/
lemma gathered_cases (p : Package) (directory : Text) (excluded : List Text) (fs : FileSystem) :
    (p.selected excluded fs = [] ∧ gathered p directory excluded fs =
        .error (.noModules (Path.absolute fs.workingDirectory directory))) ∨
      ((∃ path ∈ p.selected excluded fs, IsRefusedAt fs path) ∧
        ∃ fault, gathered p directory excluded fs = .error (.integrity fault)) ∨
      ∃ modules, p.selected excluded fs ≠ [] ∧
        List.Forall₂ (IsAt fs) (p.selected excluded fs) modules ∧
        gathered p directory excluded fs = (Bundle.order modules).mapError .cycle := by
  rw [gathered]
  -- a file that has been found can be read, so only its content can be refused
  split_ifs with hnone
  · exact .inl ⟨hnone, rfl⟩
  · refine .inr ?_
    cases hread : (p.selected excluded fs).mapM (at? fs) with
    | error failure =>
      obtain ⟨path, hpath, herror⟩ := Except.exists_of_mapM_eq_error hread
      have hfile := (Package.isModulePath_of_mem_compiledModules (List.mem_of_mem_filter hpath)).1
      obtain ⟨hrefused, fault, rfl⟩ := ModuleDescriptor.exists_of_at?_eq_error hfile herror
      exact .inl ⟨⟨path, hpath, hrefused⟩, fault, rfl⟩
    | ok modules =>
      exact .inr ⟨modules, hnone, ModuleDescriptor.mapM_at?_eq_ok_iff.mp hread, rfl⟩

lemma gathered_eq_noModules_iff :
    gathered p directory excluded fs =
        .error (.noModules (Path.absolute fs.workingDirectory directory)) ↔
      p.selected excluded fs = [] := by
  obtain ⟨hnone, h⟩ | ⟨⟨path, hpath, -⟩, fault, h⟩ | ⟨modules, hsome, -, h⟩ :=
    gathered_cases p directory excluded fs
  · simp [hnone, h]
  · simp [h, List.ne_nil_of_mem hpath]
  · rw [h]
    simp only [hsome, iff_false]
    cases Bundle.order modules <;> simp [Except.mapError]

lemma exists_gathered_eq_integrity_iff :
    (∃ fault, gathered p directory excluded fs = .error (.integrity fault)) ↔
      ∃ path ∈ p.selected excluded fs, IsRefusedAt fs path := by
  obtain ⟨hnone, h⟩ | ⟨hrefused, fault, h⟩ | ⟨modules, -, hmodules, h⟩ :=
    gathered_cases p directory excluded fs
  · simp [hnone, h]
  · exact ⟨fun _ => hrefused, fun _ => ⟨fault, h⟩⟩
  · rw [h]
    constructor
    · rintro ⟨fault, hfault⟩
      cases horder : Bundle.order modules <;> simp [horder, Except.mapError] at hfault
    · rintro ⟨path, hpath, hrefused⟩
      exact absurd hmodules (hrefused.not_forall₂_isAt hpath modules)

lemma exists_gathered_eq_cycle_iff :
    (∃ fault, gathered p directory excluded fs = .error (.cycle fault)) ↔
      ∃ modules, List.Forall₂ (IsAt fs) (p.selected excluded fs) modules ∧
        ∃ a, Relation.TransGen (DependsOn modules) a a := by
  simp only [← Bundle.exists_order_eq_error_iff]
  obtain ⟨hnone, h⟩ | ⟨⟨path, hpath, hrefused⟩, fault, h⟩ | ⟨modules, -, hmodules, h⟩ :=
    gathered_cases p directory excluded fs
  · -- no modules depend on each other
    have horder : Bundle.order [] = .ok [] := by cbv
    simp [hnone, h, horder]
  · simp [h, hrefused.not_forall₂_isAt hpath]
  · rw [h]
    constructor
    · rintro ⟨fault, hfault⟩
      obtain ⟨fault, horder, -⟩ := Except.mapError_eq_error_iff.mp hfault
      exact ⟨modules, hmodules, fault, horder⟩
    · -- the files hold these modules and no others
      rintro ⟨modules', hmodules', fault, horder⟩
      obtain rfl := ModuleDescriptor.forall₂_isAt_unique hmodules hmodules'
      exact ⟨fault, Except.mapError_eq_error_iff.mpr ⟨fault, horder, rfl⟩⟩

/-- What has been gathered are the modules of the files, in an order in which they can be
published. -/
lemma exists_of_gathered_eq_ok (h : gathered p directory excluded fs = .ok ordered) :
    ∃ modules, List.Forall₂ (IsAt fs) (p.selected excluded fs) modules ∧
      Bundle.IsPublishOrder modules ordered := by
  obtain ⟨-, h'⟩ | ⟨-, fault, h'⟩ | ⟨modules, -, hmodules, h'⟩ :=
    gathered_cases p directory excluded fs <;> rw [h'] at h
  · cases h
  · cases h
  · exact ⟨modules, hmodules,
      Bundle.isPublishOrder_of_order_eq_ok (Except.mapError_eq_ok_iff.mp h)⟩

end Gathered

/-! ## The command -/

variable {name? : Option Text} {outcome : Except Failure Unit} {after : Workspace}

lemma runOn_bundleName (p : Package) (name? : Option Text) :
    (bundleName p name?).runOn w = ((p.nameForBundle name?).mapError .manifest, w) := by
  rcases name? with _ | _ | ⟨c, name⟩
  · exact runOn_orFail _ _
  · exact runOn_orFail _ _
  · rfl

lemma runOn_makeBundle (hp : Package.ofDirectory w.files directory = .ok p)
    (name? : Option Text) (excluded : List Text) : ∃ log,
    (makeBundle (some directory) name? excluded false).runOn w =
      match gathered p directory excluded w.files with
      | .error failure => (.error failure, { w with log })
      | .ok ordered => (writeBundle p name? ordered).runOn { w with log } := by
  -- without a build nothing but the log is changed before the modules are gathered
  obtain ⟨log, hgather⟩ := runOn_gatherModules p directory excluded
    { w with log := [⟨.info, "Skipping the package build"⟩].reverse ++ w.log }
  refine ⟨log, ?_⟩
  simp only [makeBundle, runOn_bind, runOn_givenPath, runOn_openPackage, hp, Except.mapError,
    Bool.false_eq_true, if_false, runOn_record, hgather]
  cases gathered p directory excluded w.files <;> rfl

lemma runOn_writeBundle_eq_ok_iff {ordered : List ModuleDescriptor} {files : FileSystem} :
    (∃ after, (writeBundle p name? ordered).runOn w = (.ok (), after) ∧ after.files = files) ↔
      ∃ name output bytes, p.nameForBundle name? = .ok name ∧
        (p.bundlePath name w.files).1 = .ok output ∧
        (ModuleBundle.ofDescriptors ordered).encode = .ok bytes ∧
        (p.bundlePath name w.files).2.write output bytes = .ok files ∧
        ∀ c ∈ Path.real files.workingDirectory output, c.isSurrogate = false := by
  have hcaption : ∀ c ∈ ("Modules are bundled under: " : Text), c.isSurrogate = false := by decide
  simp only [writeBundle, runOn_bind_eq_ok_iff, runOn_bundleName, Prod.mk.injEq,
    Except.mapError_eq_ok_iff]
  constructor
  · rintro ⟨after, ⟨name, _, ⟨hname, rfl⟩, h⟩, hfiles⟩
    exact ⟨name, by
      simpa [hname] using (runOn_writeOutput_eq_ok_iff hcaption).mp ⟨after, h, hfiles⟩⟩
  · rintro ⟨name, output, bytes, hname, hwrite⟩
    obtain ⟨after, h, hfiles⟩ :=
      (runOn_writeOutput_eq_ok_iff hcaption).mpr ⟨output, bytes, hwrite⟩
    exact ⟨after, ⟨name, w, ⟨hname, rfl⟩, h⟩, hfiles⟩

lemma isOfOutput_of_runOn_writeBundle {ordered : List ModuleDescriptor} {failure : Failure}
    (h : (writeBundle p name? ordered).runOn w = (.error failure, after)) :
    failure.IsOfOutput := by
  simp only [writeBundle, runOn_bind_eq_error_iff, runOn_bundleName, Prod.mk.injEq,
    Except.mapError_eq_error_iff] at h
  obtain ⟨⟨fault, -, rfl⟩, -⟩ | ⟨name, _, -, h⟩ := h
  · trivial
  · exact isOfOutput_of_runOn_writeOutput h

/-- Before the output is written, the command fails as the gathering of the modules does. -/
lemma makeBundle_eq_error_iff (hp : Package.ofDirectory w.files directory = .ok p)
    (h : (makeBundle (some directory) name? excluded false).runOn w = (outcome, after))
    {failure : Failure} (hfailure : ¬ failure.IsOfOutput) :
    outcome = .error failure ↔ gathered p directory excluded w.files = .error failure := by
  obtain ⟨log, hrun⟩ := runOn_makeBundle hp name? excluded
  rw [hrun] at h
  cases hgather : gathered p directory excluded w.files with
  | error failure' =>
    rw [hgather] at h
    cases h
    simp
  | ok ordered =>
    rw [hgather] at h
    simp only [reduceCtorEq, iff_false]
    rintro rfl
    exact hfailure (isOfOutput_of_runOn_writeBundle h)

/-- The command succeeds when modules are gathered, the output can be written, and its location is
text. -/
lemma makeBundle_eq_ok_iff (hp : Package.ofDirectory w.files directory = .ok p)
    {files : FileSystem} :
    (∃ after, (makeBundle (some directory) name? excluded false).runOn w = (.ok (), after) ∧
        after.files = files) ↔
      ∃ ordered name output bytes, gathered p directory excluded w.files = .ok ordered ∧
        p.nameForBundle name? = .ok name ∧ (p.bundlePath name w.files).1 = .ok output ∧
        (ModuleBundle.ofDescriptors ordered).encode = .ok bytes ∧
        (p.bundlePath name w.files).2.write output bytes = .ok files ∧
        ∀ c ∈ Path.real files.workingDirectory output, c.isSurrogate = false := by
  obtain ⟨log, hrun⟩ := runOn_makeBundle hp name? excluded
  rw [hrun]
  cases hgather : gathered p directory excluded w.files with
  | error failure => simp
  | ok ordered => simp [runOn_writeBundle_eq_ok_iff]

end Work

/-! ## A package with one module -/

open Bytecode.Assembler in
/-- The binary of a module without dependencies. -/
lemma moduleBinary_atOrigin : moduleBinary (Bundle.atOrigin "a") [] =
    .ok ([161, 28, 235, 11, 6, 0, 0, 0, 3, 1, 0, 2, 7, 2, 2, 8, 4, 32, 0, 0, 1, 97] ++
      List.replicate 32 0 ++ [0]) := by
  have hentries : entries 0 (linkage [Bundle.atOrigin "a"]) =
      [⟨.moduleHandles, 0, 2⟩, ⟨.identifiers, 2, 2⟩, ⟨.addresses, 4, 32⟩] := by cbv
  have hwritable : IsWritable ([] ++ [Bundle.atOrigin "a"]) :=
    ⟨by decide, by rw [List.nil_append, hentries]; simp [Bytecode.Table.Fits, Codec.maxCount]⟩
  rw [moduleBinary_of_isWritable rfl hwritable]
  cbv

/-- The files of a built package in the working directory, with one module. -/
def builtFiles (code : Bytes) : FileSystem where
  entries := [(["Move.toml"], .file "[package]\nname = \"p\"".toUTF8.toList),
    (["build"], .directory), (["build", "p"], .directory), (["build", "p", "bundles"], .directory),
    (["build", "p", "bytecode_modules"], .directory),
    (["build", "p", "bytecode_modules", "a.mv"], .file code)]
  workingDirectory := []

/-- The package of these files. -/
def builtPackage : Package := ⟨".", .ok (.table [("package", .table [("name", .string "p")])])⟩

lemma ofDirectory_builtFiles (code : Bytes) :
    Package.ofDirectory (builtFiles code) "." = .ok builtPackage := by cbv

lemma exists_write_builtFiles (code bytes : Bytes) :
    ∃ files, (builtFiles code).write "./build/p/bundles/p.mvb" bytes = .ok files := by
  apply Exists.intro
  cbv

lemma compiledModules_builtPackage (code : Bytes) :
    builtPackage.compiledModules (builtFiles code) =
      [("./build/p/bytecode_modules/a.mv" : Text)] := by
  have hlocate : (builtFiles code).locate "." = .ok [] := by cbv
  have hheight : (builtFiles code).height = 4 := by cbv
  have hroot : (builtFiles code).children [] =
      [(("Move.toml" : Text), .file "[package]\nname = \"p\"".toUTF8.toList),
        (("build" : Text), .directory)] := by cbv
  have hbuild : (builtFiles code).children ["build"] = [(("p" : Text), .directory)] := by cbv
  have hp : (builtFiles code).children ["build", "p"] =
      [(("bundles" : Text), .directory), (("bytecode_modules" : Text), .directory)] := by cbv
  have hbundles : (builtFiles code).children ["build", "p", "bundles"] = [] := by cbv
  have hmodules : (builtFiles code).children ["build", "p", "bytecode_modules"] =
      [(("a.mv" : Text), .file code)] := by cbv
  have hpaths : Path.join "." "build" = "./build" ∧ Path.join "./build" "p" = "./build/p" ∧
      Path.join "./build/p" "bundles" = "./build/p/bundles" ∧
      Path.join "./build/p" "bytecode_modules" = "./build/p/bytecode_modules" := by decide
  have hfound : Package.modulesIn (builtFiles code) "./build/p/bytecode_modules"
      [(("a.mv" : Text), .file code)] = [("./build/p/bytecode_modules/a.mv" : Text)] := by cbv
  have hother : ∀ path ∈ [("." : Text), "./build", "./build/p", "./build/p/bundles"],
      ∀ children, Package.modulesIn (builtFiles code) path children = [] := by
    have hnames : ∀ path ∈ [("." : Text), "./build", "./build/p", "./build/p/bundles"],
        Path.baseName path ≠ Package.modulesDirectoryName := by decide
    intro path hpath children
    rw [Package.modulesIn, if_neg (hnames path hpath)]
  simp [builtPackage, Package.compiledModules, hlocate, hheight, Package.modulesBelow,
    Package.directoriesIn, FileSystem.isDirectoryAt, hroot, hbuild, hp, hbundles, hmodules, hpaths,
    hfound, hother]

lemma outputDirectory_of_makeDirectories {fs : FileSystem}
    (h : fs.makeDirectories "./build/p/bundles" = (.ok (), fs)) :
    builtPackage.outputDirectory Package.bundlesDirectoryName fs =
      (.ok "./build/p/bundles", fs) := by
  have hbase : builtPackage.buildDirectory = .ok "./build/p" := by cbv
  have hjoin : Path.join "./build/p" Package.bundlesDirectoryName = "./build/p/bundles" := by cbv
  rw [Package.outputDirectory, hbase]
  simp only [hjoin, h]

lemma bundlePath_of_makeDirectories {fs : FileSystem}
    (h : fs.makeDirectories "./build/p/bundles" = (.ok (), fs)) :
    builtPackage.bundlePath "p" fs = (.ok "./build/p/bundles/p.mvb", fs) := by
  have houtput : Path.join "./build/p/bundles" ("p" ++ (Package.bundleExtension : Text)) =
      "./build/p/bundles/p.mvb" := by decide
  rw [Package.bundlePath, outputDirectory_of_makeDirectories h, ← houtput]
  rfl

lemma outputDirectory_builtPackage (code : Bytes) :
    builtPackage.outputDirectory Package.bundlesDirectoryName (builtFiles code) =
      (.ok "./build/p/bundles", builtFiles code) := by
  have hmade : (builtFiles code).makeDirectoryAt "./build/p/bundles" = .error .alreadyExists := by
    cbv
  have hthere : (builtFiles code).isDirectory "./build/p/bundles" = true := by cbv
  have haround : (builtFiles code).pathExists
      (FileSystem.splitPath "./build/p/bundles").1 = true := by cbv
  exact outputDirectory_of_makeDirectories
    (FileSystem.makeDirectories_of_isDirectory (by decide) hmade hthere haround)

end MovePack
