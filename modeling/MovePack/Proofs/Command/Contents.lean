/-
# What bundles consist of

Which files go into a bundle is said by the files and by the excluded names: the compiled modules
in the directory of the package and below it, but for those with one of the names.  Without any such
file no bundle is made, nor with one that holds no module, nor when the modules depend on each other
in a cycle.  What is written consists of the modules, each in the last of its files and behind its
dependencies.
-/
import Mathlib
import MovePack.Proofs.Bundle.InputOrder
import MovePack.Proofs.Command.Bundle
import MovePack.Proofs.Package.Discovery
import MovePack.Proofs.Package.Exclusion

namespace MovePack

open ModuleDescriptor (DependsOn IsAt IsRefusedAt)

namespace Package

variable {fs : FileSystem} {p : Package} {directory : Text} {excluded paths paths' : List Text}

/-- The paths are those of the files that go into a bundle: the compiled modules in the directory
and below it, but for the excluded ones. -/
def IsSelection (fs : FileSystem) (directory : Text) (excluded paths : List Text) : Prop :=
  ∃ found, IsDiscovery fs directory found ∧
    paths = found.filter fun path => ¬ IsExcludedBy excluded path

lemma isSelection_selected (hsound : fs.IsSound) (excluded : List Text) :
    IsSelection fs p.root excluded (p.selected excluded fs) := by
  refine ⟨_, isDiscovery_compiledModules hsound p, ?_⟩
  refine List.filter_congr fun path _ => ?_
  rw [Bool.eq_iff_iff, Bool.not_eq_true', ← Bool.not_eq_true, isExcluded_iff_isExcludedBy,
    decide_eq_true_eq]

/-- The files determine what goes into a bundle. -/
lemma IsSelection.eq (h : IsSelection fs directory excluded paths)
    (h' : IsSelection fs directory excluded paths') : paths = paths' := by
  obtain ⟨found, hfound, rfl⟩ := h
  obtain ⟨found', hfound', rfl⟩ := h'
  rw [hfound.eq hfound']

lemma root_of_ofDirectory (h : ofDirectory fs directory = .ok p) : p.root = directory := by
  obtain ⟨_, -, rfl⟩ := Except.map_eq_ok_iff.mp h
  rfl

end Package

/-- **Bundles are what the files say.**  Without any file that goes into it, no bundle is made; nor
with one that holds no module; nor when modules depend on each other in a cycle.  A bundle that is
made consists of the modules in an order in which they can be published, and this is what is read
from its file. -/
theorem Command.perform_bundle_sound {w after : Workspace} {directory : Text} {p : Package}
    {name? : Option Text} {excluded : List Text} {outcome : Except Failure Unit}
    (hsound : w.files.IsSound) (hp : Package.ofDirectory w.files directory = .ok p)
    (h : (Command.perform (.bundle (some directory) name? excluded false)).runOn w =
      (outcome, after)) :
    ∃ paths, Package.IsSelection w.files directory excluded paths ∧
      (outcome = .error (.noModules (Path.absolute w.files.workingDirectory directory)) ↔
        paths = []) ∧
      ((∃ fault, outcome = .error (.integrity fault)) ↔
        ∃ path ∈ paths, IsRefusedAt w.files path) ∧
      ((∃ fault, outcome = .error (.cycle fault)) ↔
        ∃ modules, List.Forall₂ (IsAt w.files) paths modules ∧
          ∃ a, Relation.TransGen (DependsOn modules) a a) ∧
      (outcome = .ok () → ∃ modules ordered name output bytes,
        List.Forall₂ (IsAt w.files) paths modules ∧ Bundle.IsPublishOrder modules ordered ∧
        p.nameForBundle name? = .ok name ∧ (p.bundlePath name w.files).1 = .ok output ∧
        after.files.read output = .ok bytes ∧
        ModuleBundle.ofBytes bytes = .ok ⟨ordered.map ModuleDescriptor.code⟩) := by
  have hfailure := @Work.makeBundle_eq_error_iff w p directory excluded name? outcome after hp h
  have hselection := Package.isSelection_selected (p := p) hsound excluded
  rw [Package.root_of_ofDirectory hp] at hselection
  refine ⟨_, hselection, ?_, ?_, ?_, ?_⟩
  · rw [hfailure id, Work.gathered_eq_noModules_iff]
  · rw [← Work.exists_gathered_eq_integrity_iff]
    exact exists_congr fun fault => hfailure id
  · rw [← Work.exists_gathered_eq_cycle_iff]
    exact exists_congr fun fault => hfailure id
  · rintro rfl
    obtain ⟨ordered, name, output, bytes, hgather, hname, houtput, hencode, hwrite, -⟩ :=
      (Work.makeBundle_eq_ok_iff hp).mp ⟨after, h, rfl⟩
    obtain ⟨modules, hmodules, hordered⟩ := Work.exists_of_gathered_eq_ok hgather
    exact ⟨modules, ordered, name, output, bytes, hmodules, hordered, hname, houtput,
      FileSystem.read_of_write hwrite, ModuleBundle.ofBytes_of_encode hencode⟩

/-! ## A package with two copies of a module -/

/-- The binary of a module at the origin that depends on another one there, where both have a name
of one byte. -/
def dependentCode (name other : UInt8) : Bytes :=
  [161, 28, 235, 11, 6, 0, 0, 0, 3, 1, 0, 4, 7, 4, 4, 8, 8, 32, 0, 0, 0, 1, 1, other, 1, name] ++
    List.replicate 32 0 ++ [1]

/-- The binary of a module at the origin with a name of one byte that does not depend on others. -/
def independentCode (name : UInt8) : Bytes :=
  [161, 28, 235, 11, 6, 0, 0, 0, 3, 1, 0, 2, 7, 2, 2, 8, 4, 32, 0, 0, 1, name] ++
    List.replicate 32 0 ++ [0]

open Bytecode.Assembler in
lemma isModule_dependentCode :
    CompiledModule.IsModule (dependentCode 97 98) (Bundle.atOrigin "a") [Bundle.atOrigin "b"] ∧
    CompiledModule.IsModule (dependentCode 98 97) (Bundle.atOrigin "b") [Bundle.atOrigin "a"] := by
  have hwritable : ∀ {ids : List ModuleId}, (∀ id ∈ ids, ∀ c ∈ id.name, c.isSurrogate = false) →
      entries 0 (linkage ids) =
        [⟨.moduleHandles, 0, 4⟩, ⟨.identifiers, 4, 4⟩, ⟨.addresses, 8, 32⟩] → IsWritable ids := by
    intro ids hunicode hentries
    exact ⟨hunicode, by rw [hentries]; simp [Bytecode.Table.Fits, Codec.maxCount]⟩
  have ha : IsWritable [Bundle.atOrigin "b", Bundle.atOrigin "a"] := hwritable (by decide) (by cbv)
  have hb : IsWritable [Bundle.atOrigin "a", Bundle.atOrigin "b"] := hwritable (by decide) (by cbv)
  constructor
  · exact CompiledModule.isModule_of_moduleBinary
      ((moduleBinary_of_isWritable rfl ha).trans (by cbv))
  · exact CompiledModule.isModule_of_moduleBinary
      ((moduleBinary_of_isWritable rfl hb).trans (by cbv))

lemma isModule_independentCode :
    CompiledModule.IsModule (independentCode 97) (Bundle.atOrigin "a") [] :=
  CompiledModule.isModule_of_moduleBinary moduleBinary_atOrigin

/-- The files of a built package in the working directory: two modules that depend on each other, a
file without a module, and a copy of the first module without the dependency. -/
def copiedFiles : FileSystem where
  entries := [(["Move.toml"], .file "[package]\nname = \"p\"".toUTF8.toList),
    (["build"], .directory), (["build", "p"], .directory), (["build", "p", "bundles"], .directory),
    (["build", "p", "bytecode_modules"], .directory),
    (["build", "p", "bytecode_modules", "a.mv"], .file (dependentCode 97 98)),
    (["build", "p", "bytecode_modules", "b.mv"], .file (dependentCode 98 97)),
    (["build", "p", "bytecode_modules", "c.mv"], .file []),
    (["bytecode_modules"], .directory),
    (["bytecode_modules", "a.mv"], .file (independentCode 97))]
  workingDirectory := []

/-- The descriptors of these modules, in the order in which they are found. -/
def copiedModules : List ModuleDescriptor :=
  [⟨Bundle.atOrigin "a", [Bundle.atOrigin "b"], dependentCode 97 98⟩,
    ⟨Bundle.atOrigin "b", [Bundle.atOrigin "a"], dependentCode 98 97⟩,
    ⟨Bundle.atOrigin "a", [], independentCode 97⟩]

lemma compiledModules_copiedFiles : builtPackage.compiledModules copiedFiles =
    [("./build/p/bytecode_modules/a.mv" : Text), "./build/p/bytecode_modules/b.mv",
      "./build/p/bytecode_modules/c.mv", "./bytecode_modules/a.mv"] := by
  have hlocate : copiedFiles.locate "." = .ok [] := by cbv
  have hheight : copiedFiles.height = 4 := by cbv
  have hroot : Package.directoriesIn (copiedFiles.children []) =
      [("build" : Text), "bytecode_modules"] := by cbv
  have hbuild : Package.directoriesIn (copiedFiles.children ["build"]) = [("p" : Text)] := by cbv
  have hp : Package.directoriesIn (copiedFiles.children ["build", "p"]) =
      [("bundles" : Text), "bytecode_modules"] := by cbv
  have hinner : Package.directoriesIn (copiedFiles.children ["build", "p", "bundles"]) = [] ∧
      Package.directoriesIn (copiedFiles.children ["build", "p", "bytecode_modules"]) = [] ∧
      Package.directoriesIn (copiedFiles.children ["bytecode_modules"]) = [] :=
    ⟨by cbv, by cbv, by cbv⟩
  have hpaths : Path.join "." "build" = "./build" ∧
      Path.join "." "bytecode_modules" = "./bytecode_modules" ∧
      Path.join "./build" "p" = "./build/p" ∧
      Path.join "./build/p" "bundles" = "./build/p/bundles" ∧
      Path.join "./build/p" "bytecode_modules" = "./build/p/bytecode_modules" := by decide
  have hmodules : Package.modulesIn copiedFiles "./build/p/bytecode_modules"
      (copiedFiles.children ["build", "p", "bytecode_modules"]) =
      [("./build/p/bytecode_modules/a.mv" : Text), "./build/p/bytecode_modules/b.mv",
        "./build/p/bytecode_modules/c.mv"] := by cbv
  have hcopies : Package.modulesIn copiedFiles "./bytecode_modules"
      (copiedFiles.children ["bytecode_modules"]) = [("./bytecode_modules/a.mv" : Text)] := by cbv
  have hother : ∀ path ∈ [("." : Text), "./build", "./build/p", "./build/p/bundles"],
      ∀ children, Package.modulesIn copiedFiles path children = [] := by
    have hnames : ∀ path ∈ [("." : Text), "./build", "./build/p", "./build/p/bundles"],
        Path.baseName path ≠ Package.modulesDirectoryName := by decide
    intro path hpath children
    rw [Package.modulesIn, if_neg (hnames path hpath)]
  simp [builtPackage, Package.compiledModules, hlocate, hheight, Package.modulesBelow,
    FileSystem.isDirectoryAt, hroot, hbuild, hp, hinner, hpaths, hmodules, hcopies, hother]

/-- The file without a module is excluded. -/
lemma selected_copiedFiles : builtPackage.selected ["C"] copiedFiles =
    [("./build/p/bytecode_modules/a.mv" : Text), "./build/p/bytecode_modules/b.mv",
      "./bytecode_modules/a.mv"] := by
  rw [Package.selected, compiledModules_copiedFiles]
  decide +kernel

lemma forall₂_isAt_copiedFiles :
    List.Forall₂ (IsAt copiedFiles) (builtPackage.selected ["C"] copiedFiles) copiedModules := by
  rw [selected_copiedFiles]
  exact .cons ⟨by cbv, isModule_dependentCode.1⟩ (.cons ⟨by cbv, isModule_dependentCode.2⟩
    (.cons ⟨by cbv, isModule_independentCode⟩ .nil))

/-- The last copy is put in front of the module that depends on it. -/
lemma order_copiedModules : Bundle.order copiedModules =
    .ok [⟨Bundle.atOrigin "a", [], independentCode 97⟩,
      ⟨Bundle.atOrigin "b", [Bundle.atOrigin "a"], dependentCode 98 97⟩] := by
  cbv

lemma gathered_copiedFiles : Work.gathered builtPackage "." ["C"] copiedFiles =
    .ok [⟨Bundle.atOrigin "a", [], independentCode 97⟩,
      ⟨Bundle.atOrigin "b", [Bundle.atOrigin "a"], dependentCode 98 97⟩] := by
  rw [Work.gathered, ModuleDescriptor.mapM_at?_eq_ok_iff.mpr forall₂_isAt_copiedFiles,
    Except.ok_bind, order_copiedModules, selected_copiedFiles]
  rfl

/-- There is no other order in which the modules can be published. -/
lemma eq_of_isPublishOrder_copiedModules {ordered : List ModuleDescriptor}
    (h : Bundle.IsPublishOrder copiedModules ordered) :
    ordered = [⟨Bundle.atOrigin "a", [], independentCode 97⟩,
      ⟨Bundle.atOrigin "b", [Bundle.atOrigin "a"], dependentCode 98 97⟩] := by
  have horder := Bundle.isPublishOrder_of_order_eq_ok order_copiedModules
  have hperm := (List.perm_ext_iff_of_nodup (.of_map _ h.nodup) (.of_map _ horder.nodup)).mpr
    fun d => (h.mem_iff d).trans (horder.mem_iff d).symm
  obtain ⟨first, second, rfl⟩ := List.length_eq_two.mp hperm.length_eq
  obtain rfl | rfl : first = ⟨Bundle.atOrigin "a", [], independentCode 97⟩ ∨
      first = ⟨Bundle.atOrigin "b", [Bundle.atOrigin "a"], dependentCode 98 97⟩ := by
    simpa using hperm.subset List.mem_cons_self
  · simpa using hperm
  · -- what the second module depends on is not behind it
    have hfront := h.before [] _ [second] rfl (Bundle.atOrigin "a") (by simp) (by decide +kernel)
    cases hfront

/-- The directory for bundles is there already. -/
lemma bundlePath_copiedFiles : builtPackage.bundlePath "p" copiedFiles =
    (.ok "./build/p/bundles/p.mvb", copiedFiles) := by
  have hmade : copiedFiles.makeDirectoryAt "./build/p/bundles" = .error .alreadyExists := by cbv
  have hthere : copiedFiles.isDirectory "./build/p/bundles" = true := by cbv
  have haround : copiedFiles.pathExists (FileSystem.splitPath "./build/p/bundles").1 = true := by
    cbv
  exact bundlePath_of_makeDirectories
    (FileSystem.makeDirectories_of_isDirectory (by decide) hmade hthere haround)

/-- Of two modules that depend on each other a copy of one that does not is the last.  With the file
without a module excluded, a bundle is made, and holds this copy and then the other module. -/
theorem Command.perform_bundle_sound_copies : ∃ after bytes,
    copiedFiles.IsSound ∧ Package.ofDirectory copiedFiles "." = .ok builtPackage ∧
    (Command.perform (.bundle (some ".") none ["C"] false)).runOn { files := copiedFiles } =
      (.ok (), after) ∧
    after.files.read "./build/p/bundles/p.mvb" = .ok bytes ∧
    ModuleBundle.ofBytes bytes = .ok ⟨[independentCode 97, dependentCode 98 97]⟩ := by
  have hsound : copiedFiles.IsSound := by decide +kernel
  have hp : Package.ofDirectory copiedFiles "." = .ok builtPackage := by cbv
  obtain ⟨written, hencode⟩ : ∃ written, (ModuleBundle.ofDescriptors
      [⟨Bundle.atOrigin "a", [], independentCode 97⟩,
        ⟨Bundle.atOrigin "b", [Bundle.atOrigin "a"], dependentCode 98 97⟩]).encode = .ok written :=
    ⟨_, ModuleBundle.isFormat.toExcept_write ⟨show 2 ≤ Codec.maxCount by decide, by
      simp [ModuleBundle.ofDescriptors, independentCode, dependentCode, Codec.maxCount]⟩⟩
  have hname : builtPackage.nameForBundle none = .ok "p" := by cbv
  have hpath : (builtPackage.bundlePath "p" copiedFiles).1 = .ok "./build/p/bundles/p.mvb" :=
    congrArg Prod.fst bundlePath_copiedFiles
  obtain ⟨files, hwrite⟩ : ∃ files, (builtPackage.bundlePath "p" copiedFiles).2.write
      "./build/p/bundles/p.mvb" written = .ok files := by
    rw [bundlePath_copiedFiles]
    apply Exists.intro
    cbv
  have hlocation : ∀ c ∈ Path.real files.workingDirectory "./build/p/bundles/p.mvb",
      c.isSurrogate = false := by
    rw [bundlePath_copiedFiles] at hwrite
    rw [FileSystem.workingDirectory_of_write hwrite]
    exact (by decide : ∀ c ∈ Path.real [] "./build/p/bundles/p.mvb", c.isSurrogate = false)
  obtain ⟨after, hrun, -⟩ := (Work.makeBundle_eq_ok_iff (w := { files := copiedFiles }) hp).mpr
    ⟨_, _, _, _, gathered_copiedFiles, hname, hpath, hencode, hwrite, hlocation⟩
  obtain ⟨paths, hpaths, -, -, -, hsuccess⟩ := Command.perform_bundle_sound hsound hp hrun
  obtain rfl := hpaths.eq (Package.isSelection_selected (p := builtPackage) hsound ["C"])
  obtain ⟨modules, ordered, name, output, bytes, hmodules, hordered, hname', houtput', hbytes,
    hbundle⟩ := hsuccess rfl
  obtain rfl := ModuleDescriptor.forall₂_isAt_unique forall₂_isAt_copiedFiles hmodules
  obtain rfl := eq_of_isPublishOrder_copiedModules hordered
  obtain rfl := Except.ok.inj (hname.symm.trans hname')
  obtain rfl := Except.ok.inj (hpath.symm.trans houtput')
  exact ⟨after, bytes, hsound, hp, hrun, hbytes, hbundle⟩

end MovePack
