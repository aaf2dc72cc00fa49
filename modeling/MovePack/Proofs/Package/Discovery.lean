/-
# Finding compiled modules

The search for compiled modules goes through a directory and everything below it.  It finds each
regular file of a module that stands in a directory for modules, unless the path to it is too long
to lead there, and nothing else.  What is found is in the order of a reader who goes through the
directories: the files of a directory first, by name, and then those of the directories in it, by
name.  So what is found depends on the files alone, and not on the order in which they are listed.
-/
import MovePack.Package.Layout
import MovePack.Proofs.Files.Tree

namespace MovePack

/-! ## The order of files -/

namespace Location

/-- A file comes before another one when the directories are gone through by name, and the files of
a directory before the directories in it.  Both are given by the names that lead to them. -/
inductive Precedes : Location → Location → Prop
  /-- Both files are in the same directory. -/
  | files {name name' : Text} (h : name.Before name') : Precedes [name] [name']
  /-- The second file is in a directory beside the first one. -/
  | deeper {name directory : Text} {rest : Location} (h : rest ≠ []) :
    Precedes [name] (directory :: rest)
  /-- The files are in different directories. -/
  | directories {directory directory' : Text} {rest rest' : Location}
    (h : directory.Before directory') (hrest : rest ≠ []) (hrest' : rest' ≠ []) :
    Precedes (directory :: rest) (directory' :: rest')
  /-- The files are in the same one of the directories. -/
  | within {directory : Text} {rest rest' : Location} (h : Precedes rest rest') :
    Precedes (directory :: rest) (directory :: rest')

variable {r s : Location}

lemma Precedes.ne_nil (h : Precedes r s) : r ≠ [] ∧ s ≠ [] := by
  cases h <;> simp

lemma Precedes.asymm (h : Precedes r s) : ¬ Precedes s r := by
  induction h with
  | files hname =>
    intro h
    cases h with
    | files hname' => exact hname.asymm hname'
    | deeper hrest => exact hrest rfl
    | directories _ hrest => exact hrest rfl
    | within hrest => exact hrest.ne_nil.1 rfl
  | deeper hrest =>
    intro h
    cases h with
    | files => exact hrest rfl
    | deeper hrest' => exact hrest' rfl
    | directories _ _ hrest' => exact hrest' rfl
    | within hrest' => exact hrest'.ne_nil.2 rfl
  | directories hname hrest hrest' =>
    intro h
    cases h with
    | files => exact hrest rfl
    | deeper => exact hrest' rfl
    | directories hname' => exact hname.asymm hname'
    | within => exact hname.asymm hname
  | within hwithin ih =>
    intro h
    cases h with
    | files => exact hwithin.ne_nil.1 rfl
    | deeper => exact hwithin.ne_nil.2 rfl
    | directories hname => exact hname.asymm hname
    | within hwithin' => exact ih hwithin'

/-- What is gone through in order is determined by its members. -/
lemma eq_of_pairwise_precedes {found found' : List Location} (h : found.Pairwise Precedes)
    (h' : found'.Pairwise Precedes) (hmem : ∀ r, r ∈ found ↔ r ∈ found') : found = found' := by
  have hnodup : ∀ {l : List Location}, l.Pairwise Precedes → l.Nodup := by
    intro l hl
    refine hl.imp ?_
    rintro r _ hr rfl
    exact hr.asymm hr
  have hperm := (List.perm_ext_iff_of_nodup (hnodup h) (hnodup h')).mpr hmem
  exact hperm.eq_of_pairwise (fun _ _ _ _ hr hs => absurd hs hr.asymm) h h'

end Location

namespace Package

open FileSystem (IsSound byteCount maxPathBytes)
open Location (Precedes)

variable {fs fs' : FileSystem} {p : Package} {location : Location} {path : Text} {fuel : Nat}

/-! ## The files that are found -/

/-- The names of the compiled modules that lie in the directory at a path itself. -/
def locationsIn (fs : FileSystem) (path : Text) (children : List (Text × Entry)) :
    List Location :=
  if Path.baseName path = modulesDirectoryName then
    children.filterMap fun (name, entry) =>
      match entry with
      | .file _ =>
        if name.endsWith moduleExtension && fs.isFile (Path.join path name) then some [name]
        else none
      | .directory => none
  else []

/-- The compiled modules in the directory at a location and below it, by the names that lead to them
from there. -/
def locationsBelow (fs : FileSystem) : (fuel : Nat) → Location → (path : Text) → List Location
  | 0, _, _ => []
  | fuel + 1, location, path =>
    let children := fs.children location
    locationsIn fs path children ++ (directoriesIn children).flatMap fun name =>
      (locationsBelow fs fuel (location ++ [name]) (Path.join path name)).map (name :: ·)

lemma map_locationsIn (fs : FileSystem) (path : Text) (children : List (Text × Entry)) :
    (locationsIn fs path children).map (Path.below path) = modulesIn fs path children := by
  rw [locationsIn, modulesIn]
  split_ifs
  · rw [List.map_filterMap]
    refine List.filterMap_congr fun child _ => ?_
    obtain ⟨name, entry⟩ := child
    cases entry with
    | directory => rfl
    | file content =>
      dsimp only
      split_ifs <;> rfl
  · rfl

/-- The paths of what is found are the names that lead there, below the path of the directory. -/
lemma map_locationsBelow (fs : FileSystem) (fuel : Nat) (location : Location) (path : Text) :
    (locationsBelow fs fuel location path).map (Path.below path) =
      modulesBelow fs fuel location path := by
  induction fuel generalizing location path with
  | zero => rfl
  | succ fuel ih =>
    rw [locationsBelow, modulesBelow]
    simp only [List.map_append, List.map_flatMap, List.map_map, map_locationsIn, ← ih]
    rfl

/-- The file under the names is found from the directory at the location: it is that of a module and
stands in a directory for modules. -/
structure IsFound (fs : FileSystem) (location : Location) (path : Text) (directories : Location)
    (name : Text) : Prop where
  /-- The file stands in a directory for modules. -/
  directory_eq : directories.getLastD (Path.baseName path) = modulesDirectoryName
  /-- The name of the file is that of a module. -/
  endsWith_eq : name.endsWith moduleExtension = true
  /-- The file is regular. -/
  find?_eq : ∃ content, fs.find? (location ++ (directories ++ [name])) = some (.file content)
  /-- The path leads to the file. -/
  isFile_eq : fs.isFile (Path.below path (directories ++ [name])) = true

/-! ## Exactly the modules -/

lemma mem_locationsIn_iff (hsound : fs.IsSound) {r : Location} :
    r ∈ locationsIn fs path (fs.children location) ↔
      ∃ name, r = [name] ∧ IsFound fs location path [] name := by
  rw [locationsIn]
  split_ifs with hpath
  · rw [List.mem_filterMap]
    constructor
    · rintro ⟨⟨name, entry⟩, hchild, h⟩
      rw [hsound.mem_children_iff] at hchild
      cases entry with
      | directory => cases h
      | file content =>
        simp only [Option.ite_none_right_eq_some, Bool.and_eq_true, Option.some.injEq] at h
        obtain ⟨⟨hname, hfile⟩, rfl⟩ := h
        exact ⟨name, rfl, hpath, hname, ⟨content, hchild⟩, hfile⟩
    · rintro ⟨name, rfl, -, hname, ⟨content, hfind⟩, hfile⟩
      refine ⟨(name, .file content), hsound.mem_children_iff.mpr hfind, ?_⟩
      have hfile' : fs.isFile (Path.join path name) = true := hfile
      simp [hname, hfile']
  · refine iff_of_false List.not_mem_nil ?_
    rintro ⟨name, -, h⟩
    exact hpath h.directory_eq

/-- What is found in a directory below another one is found from there. -/
lemma isFound_cons_iff {directory name : Text} {directories : Location}
    (h : Path.slash ∉ directory) :
    IsFound fs location path (directory :: directories) name ↔
      IsFound fs (location ++ [directory]) (Path.join path directory) directories name := by
  have hlocation : location ++ (directory :: directories ++ [name]) =
      location ++ [directory] ++ (directories ++ [name]) := by simp
  constructor
  · rintro ⟨hparent, hname, hfile, hpath⟩
    refine ⟨?_, hname, hlocation ▸ hfile, hpath⟩
    rw [Path.baseName_join path h, ← List.getLastD_cons]
    exact hparent
  · rintro ⟨hparent, hname, hfile, hpath⟩
    refine ⟨?_, hname, hlocation ▸ hfile, hpath⟩
    rw [Path.baseName_join path h] at hparent
    rw [List.getLastD_cons]
    exact hparent

lemma mem_directoriesIn_iff (hsound : fs.IsSound) {directory : Text} :
    directory ∈ directoriesIn (fs.children location) ↔
      fs.isDirectoryAt (location ++ [directory]) = true := by
  rw [directoriesIn, List.mem_filterMap, FileSystem.isDirectoryAt, decide_eq_true_eq]
  constructor
  · rintro ⟨⟨name, entry⟩, hchild, h⟩
    simp only [Option.ite_none_right_eq_some, Option.some.injEq] at h
    obtain ⟨rfl, rfl⟩ := h
    exact hsound.mem_children_iff.mp hchild
  · intro h
    exact ⟨(directory, .directory), hsound.mem_children_iff.mpr h, by simp⟩

/-- With enough fuel for its directories every file is found that is to be found, and no other. -/
lemma mem_locationsBelow_iff (hsound : fs.IsSound) {r : Location} :
    r ∈ locationsBelow fs fuel location path ↔
      ∃ directories name, r = directories ++ [name] ∧ directories.length < fuel ∧
        IsFound fs location path directories name := by
  induction fuel generalizing location path r with
  | zero => simp [locationsBelow]
  | succ fuel ih =>
    simp only [locationsBelow, List.mem_append, mem_locationsIn_iff hsound, List.mem_flatMap,
      mem_directoriesIn_iff hsound, List.mem_map, ih]
    constructor
    · rintro (⟨name, rfl, h⟩ | ⟨directory, hdirectory, _, ⟨directories, name, rfl, hfuel, h⟩, rfl⟩)
      · exact ⟨[], name, rfl, Nat.succ_pos fuel, h⟩
      · have hfound := FileSystem.isSome_find?_of_isDirectoryAt hdirectory
        have hname : Path.slash ∉ directory :=
          (hsound.isName_of_find? hfound (by simp)).slash_notMem
        exact ⟨directory :: directories, name, rfl, Nat.succ_lt_succ hfuel,
          (isFound_cons_iff hname).mpr h⟩
    · rintro ⟨_ | ⟨directory, directories⟩, name, rfl, hfuel, h⟩
      · exact .inl ⟨name, rfl, h⟩
      · -- the directory is above the file
        obtain ⟨content, hcontent⟩ := h.find?_eq
        have hfound : (fs.find? (location ++ [directory] ++ (directories ++ [name]))).isSome =
            true := by
          rw [List.append_assoc, List.singleton_append, ← List.cons_append, hcontent]
          rfl
        have hname : Path.slash ∉ directory :=
          (hsound.isName_of_find? hfound (by simp)).slash_notMem
        have hbelow := (isFound_cons_iff hname).mp h
        exact .inr ⟨directory, hsound.isDirectoryAt_of_find? (by simp) hfound, _,
          ⟨directories, name, rfl, Nat.lt_of_succ_lt_succ hfuel, hbelow⟩, rfl⟩

/-! ## In order -/

lemma pairwise_locationsIn (hsound : fs.IsSound) (location : Location) (path : Text) :
    (locationsIn fs path (fs.children location)).Pairwise Precedes := by
  rw [locationsIn]
  split_ifs
  · refine (hsound.pairwise_children location).filterMap _ ?_
    rintro ⟨name, entry⟩ ⟨name', entry'⟩ hname r hr r' hr'
    cases entry with
    | directory => cases hr
    | file =>
      cases entry' with
      | directory => cases hr'
      | file =>
        simp only [Option.ite_none_right_eq_some, Option.some.injEq] at hr hr'
        obtain ⟨-, rfl⟩ := hr
        obtain ⟨-, rfl⟩ := hr'
        exact .files hname
  · exact .nil

lemma pairwise_directoriesIn (hsound : fs.IsSound) (location : Location) :
    (directoriesIn (fs.children location)).Pairwise Text.Before := by
  refine (hsound.pairwise_children location).filterMap _ ?_
  rintro ⟨name, entry⟩ ⟨name', entry'⟩ hname d hd d' hd'
  simp only [Option.ite_none_right_eq_some, Option.some.injEq] at hd hd'
  obtain ⟨-, rfl⟩ := hd
  obtain ⟨-, rfl⟩ := hd'
  exact hname

/-- Files are found in the order in which the directories are gone through. -/
lemma pairwise_locationsBelow (hsound : fs.IsSound) (fuel : Nat) (location : Location)
    (path : Text) : (locationsBelow fs fuel location path).Pairwise Precedes := by
  induction fuel generalizing location path with
  | zero => exact .nil
  | succ fuel ih =>
    have hne : ∀ {fuel location path r}, r ∈ locationsBelow fs fuel location path → r ≠ [] := by
      rintro fuel location path r hr rfl
      obtain ⟨directories, name, hr, -⟩ := (mem_locationsBelow_iff hsound).mp hr
      simp at hr
    rw [locationsBelow, List.pairwise_append]
    refine ⟨pairwise_locationsIn hsound location path, ?_, ?_⟩
    · rw [List.pairwise_flatMap]
      refine ⟨fun directory _ => ?_, (pairwise_directoriesIn hsound location).imp ?_⟩
      · exact (ih _ _).map _ fun r s h => .within h
      · intro directory directory' hbefore r hr s hs
        obtain ⟨rest, hrest, rfl⟩ := List.mem_map.mp hr
        obtain ⟨rest', hrest', rfl⟩ := List.mem_map.mp hs
        exact .directories hbefore (hne hrest) (hne hrest')
    · -- the files of the directory come before those in its directories
      intro r hr s hs
      obtain ⟨name, rfl, -⟩ := (mem_locationsIn_iff hsound).mp hr
      obtain ⟨directory, -, hs⟩ := List.mem_flatMap.mp hs
      obtain ⟨rest, hrest, rfl⟩ := List.mem_map.mp hs
      exact .deeper (hne hrest)

/-! ## The search as a whole -/

/-- The names lead from the directory at the location, to which the path leads, to a compiled
module: a regular file with the ending of one that stands in a directory for modules. -/
def IsModuleFile (fs : FileSystem) (location : Location) (path : Text) (r : Location) : Prop :=
  ∃ directories name content, r = directories ++ [name] ∧
    directories.getLastD (Path.baseName path) = modulesDirectoryName ∧
    name.endsWith moduleExtension = true ∧ fs.find? (location ++ r) = some (.file content)

/-- The paths are those of the compiled modules in the directory at a path and below it, in the
order in which the directories are gone through.  Modules with too long a path are passed over, and
without a directory at the path there are none. -/
def IsDiscovery (fs : FileSystem) (path : Text) (paths : List Text) : Prop :=
  ∃ found : List Location, paths = found.map (Path.below path) ∧ found.Pairwise Precedes ∧
    ∀ r, r ∈ found ↔
      (∃ location, fs.locate path = .ok location ∧ fs.isDirectoryAt location = true ∧
        IsModuleFile fs location path r) ∧ byteCount (Path.below path r) < maxPathBytes

/-- Modules are found in one way only. -/
lemma IsDiscovery.eq {paths paths' : List Text} (h : IsDiscovery fs path paths)
    (h' : IsDiscovery fs path paths') : paths = paths' := by
  obtain ⟨found, rfl, hfound, hmem⟩ := h
  obtain ⟨found', rfl, hfound', hmem'⟩ := h'
  rw [Location.eq_of_pairwise_precedes hfound hfound' fun r => (hmem r).trans (hmem' r).symm]

/-- The fuel of the search is enough for all directories. -/
lemma mem_locationsBelow_height_iff (hsound : fs.IsSound) (hroot : fs.locate path = .ok location)
    {r : Location} :
    r ∈ locationsBelow fs (fs.height + 1) location path ↔
      IsModuleFile fs location path r ∧ byteCount (Path.below path r) < maxPathBytes := by
  rw [mem_locationsBelow_iff hsound]
  constructor
  · rintro ⟨directories, name, rfl, -, hparent, hextension, ⟨content, hcontent⟩, hfile⟩
    have hsome := Option.isSome_of_mem hcontent
    exact ⟨⟨directories, name, content, rfl, hparent, hextension, hcontent⟩,
      (hsound.isFile_below_iff hroot hsome hcontent).mp hfile⟩
  · rintro ⟨⟨directories, name, content, rfl, hparent, hextension, hcontent⟩, hlength⟩
    have hsome := Option.isSome_of_mem hcontent
    have hheight := hsound.length_le_height hsome
    rw [List.length_append, List.length_append, List.length_singleton] at hheight
    exact ⟨directories, name, rfl, by omega, hparent, hextension, ⟨content, hcontent⟩,
      (hsound.isFile_below_iff hroot hsome hcontent).mpr hlength⟩

/-- The names lead from the directory at the location to a compiled module: a regular file with the
ending of one that stands in a directory for modules. -/
def IsModuleBelow (fs : FileSystem) (location r : Location) : Prop :=
  ∃ directories name content, r = directories ++ [modulesDirectoryName, name] ∧
    name.endsWith moduleExtension = true ∧ fs.find? (location ++ r) = some (.file content)

/-- The path to a directory ends with the name of the directory or with dots. -/
lemma baseName_ne_of_locate (hroot : fs.locate path = .ok location)
    (hname : location.getLast? ≠ some modulesDirectoryName) :
    Path.baseName path ≠ modulesDirectoryName := by
  intro hbase
  obtain ⟨names, hnames⟩ := Path.exists_names_eq path
  obtain ⟨_, hlength, -⟩ := Except.bind_eq_ok_iff.mp hroot
  obtain ⟨parent, -, hlast⟩ := (FileSystem.locate_eq_ok_iff hlength hnames).mp hroot
  rw [hbase, FileSystem.follow_singleton (by decide) (by decide)] at hlast
  obtain ⟨-, -, -, rfl⟩ := hlast
  exact hname List.getLast?_concat

lemma compiledModules_eq (hroot : fs.locate p.root = .ok location)
    (hdirectory : fs.isDirectoryAt location = true) :
    p.compiledModules fs =
      (locationsBelow fs (fs.height + 1) location p.root).map (Path.below p.root) := by
  simp only [compiledModules, hroot, hdirectory, if_true, map_locationsBelow]

/-- What is found are the compiled modules of the directory of a package. -/
lemma isDiscovery_compiledModules (hsound : fs.IsSound) (p : Package) :
    IsDiscovery fs p.root (p.compiledModules fs) := by
  by_cases h : ∃ location, fs.locate p.root = .ok location ∧ fs.isDirectoryAt location = true
  · obtain ⟨location, hroot, hdirectory⟩ := h
    refine ⟨_, compiledModules_eq hroot hdirectory, pairwise_locationsBelow hsound _ _ _, fun r => ?_⟩
    rw [mem_locationsBelow_height_iff hsound hroot]
    refine and_congr_left fun _ => ?_
    constructor
    · exact fun hr => ⟨location, hroot, hdirectory, hr⟩
    · rintro ⟨location', hroot', -, hr⟩
      obtain rfl := Except.ok.inj (hroot.symm.trans hroot')
      exact hr
  · have hnone : p.compiledModules fs = [] := by
      rw [compiledModules]
      split
      next => rfl
      next location hroot => exact if_neg fun hdirectory => h ⟨location, hroot, hdirectory⟩
    refine ⟨[], hnone, .nil, fun r => ?_⟩
    simp only [List.not_mem_nil, false_iff]
    rintro ⟨⟨location, hroot, hdirectory, -⟩, -⟩
    exact h ⟨location, hroot, hdirectory⟩

lemma mem_locationsBelow_root_iff (hsound : fs.IsSound) (hroot : fs.locate path = .ok location)
    (hname : location.getLast? ≠ some modulesDirectoryName) {r : Location} :
    r ∈ locationsBelow fs (fs.height + 1) location path ↔
      IsModuleBelow fs location r ∧ byteCount (Path.below path r) < maxPathBytes := by
  have hbase := baseName_ne_of_locate hroot hname
  rw [mem_locationsBelow_height_iff hsound hroot]
  refine and_congr_left fun _ => ?_
  constructor
  · rintro ⟨directories, name, content, rfl, hparent, hextension, hcontent⟩
    -- the directory at the path itself is none for modules
    cases directories using List.reverseRecOn with
    | nil => exact absurd hparent hbase
    | append_singleton directories directory =>
      rw [List.getLastD_concat] at hparent
      subst hparent
      exact ⟨directories, name, content, by simp, hextension, hcontent⟩
  · rintro ⟨directories, name, content, rfl, hextension, hcontent⟩
    exact ⟨directories ++ [modulesDirectoryName], name, content, by simp,
      List.getLastD_concat, hextension, hcontent⟩

/-- **The search finds exactly the compiled modules, in order.**  In a directory that is none for
modules itself, every regular file of a module in a directory for modules is found exactly once, as
deep as it may stand, and nothing else, but for the files whose path is too long.  Files are found
in the order in which the directories are gone through, each under a path that leads to it; and the
same is found whatever the order in which the file system lists its entries. -/
theorem compiledModules_exact (hsound : fs.IsSound) (hroot : fs.locate p.root = .ok location)
    (hdirectory : fs.isDirectoryAt location = true)
    (hname : location.getLast? ≠ some modulesDirectoryName) :
    ∃ found : List Location, p.compiledModules fs = found.map (Path.below p.root) ∧
      found.Pairwise Precedes ∧
      (∀ r, r ∈ found ↔
        IsModuleBelow fs location r ∧ byteCount (Path.below p.root r) < maxPathBytes) ∧
      (∀ r ∈ found, fs.locate (Path.below p.root r) = .ok (location ++ r)) ∧
      ∀ fs' : FileSystem, fs'.IsSound → fs'.workingDirectory = fs.workingDirectory →
        (∀ l, fs'.find? l = fs.find? l) → p.compiledModules fs' = p.compiledModules fs := by
  have hmem := fun r => mem_locationsBelow_root_iff hsound hroot hname (r := r)
  refine ⟨_, compiledModules_eq hroot hdirectory, pairwise_locationsBelow hsound _ _ _, hmem,
    fun r hr => ?_, fun fs' hsound' hworking hfind => ?_⟩
  · obtain ⟨⟨_, _, content, -, -, hcontent⟩, hlength⟩ := (hmem r).mp hr
    have hsome : (fs.find? (location ++ r)).isSome = true := by
      rw [hcontent]
      rfl
    exact (hsound.locate_below_iff hroot hsome).mpr hlength
  · have hlocate := FileSystem.locate_congr hworking hfind p.root
    have hroot' := hlocate.trans hroot
    have hdirectory' : fs'.isDirectoryAt location = true := by
      rwa [FileSystem.isDirectoryAt, hfind]
    rw [compiledModules_eq hroot hdirectory, compiledModules_eq hroot' hdirectory']
    -- the order of the files and their number do not depend on how they are listed
    congr 1
    refine Location.eq_of_pairwise_precedes (pairwise_locationsBelow hsound' _ _ _)
      (pairwise_locationsBelow hsound _ _ _) fun r => ?_
    rw [mem_locationsBelow_root_iff hsound' hroot' hname, hmem]
    simp only [IsModuleBelow, hfind]

/-- The files of a package in the working directory, with compiled modules and a dependency. -/
def compiledFiles : FileSystem where
  entries := [(["build"], .directory), (["build", "bytecode_modules"], .directory),
    (["build", "bytecode_modules", "b.mv"], .file []),
    (["build", "bytecode_modules", "a.mv"], .file []),
    (["build", "bytecode_modules", "dependencies"], .directory),
    (["build", "bytecode_modules", "dependencies", "c.mv"], .file [])]
  workingDirectory := []

/-- The modules of a package are found, but not that of a dependency among them. -/
theorem compiledModules_exact_dependency :
    compiledFiles.IsSound ∧ compiledFiles.locate "." = .ok [] ∧
    compiledFiles.isDirectoryAt [] = true ∧
    ∃ found : List Location, (⟨".", .ok (.table [])⟩ : Package).compiledModules compiledFiles =
        found.map (Path.below ".") ∧
      (["build", "bytecode_modules", "a.mv"] : Location) ∈ found ∧
      (["build", "bytecode_modules", "b.mv"] : Location) ∈ found ∧
      (["build", "bytecode_modules", "dependencies", "c.mv"] : Location) ∉ found := by
  have hsound : compiledFiles.IsSound := by decide +kernel
  have hroot : compiledFiles.locate "." = .ok [] := by cbv
  obtain ⟨found, hfound, -, hmem, -⟩ := compiledModules_exact
    (p := ⟨".", .ok (.table [])⟩) hsound hroot rfl (by simp)
  refine ⟨hsound, hroot, rfl, found, hfound, ?_, ?_, ?_⟩
  · exact (hmem _).mpr ⟨⟨["build"], "a.mv", [], rfl, by decide, by decide⟩, by decide +kernel⟩
  · exact (hmem _).mpr ⟨⟨["build"], "b.mv", [], rfl, by decide, by decide⟩, by decide +kernel⟩
  · rw [hmem]
    rintro ⟨⟨directories, name, content, hr, -⟩, -⟩
    -- the directory of the file is none for modules
    have hparent : some ("dependencies" : Text) = some modulesDirectoryName := by
      simpa using congrArg (fun r : Location => r.dropLast.getLast?) hr
    exact absurd hparent (by decide)

/-! ## Paths that are too long -/

lemma byteCount_append (s t : Text) : byteCount (s ++ t) = byteCount s + byteCount t := by
  simp only [byteCount, ← List.sum_eq_foldl, List.map_append, List.sum_append]

/-- A name below a directory makes the path longer. -/
lemma byteCount_add_le_join {base name : Text} (h : Path.slash ∉ name) :
    byteCount base + byteCount name ≤ byteCount (Path.join base name) := by
  rw [Path.join, Path.isAbsolute_eq_false_of_notMem h, if_neg Bool.false_ne_true]
  split_ifs
  · rw [byteCount_append]
  · rw [List.append_cons, byteCount_append, byteCount_append]
    omega

lemma byteCount_add_le_below {base name : Text} {names : List Text}
    (h : ∀ name ∈ names, Path.slash ∉ name) (hname : name ∈ names) :
    byteCount base + byteCount name ≤ byteCount (Path.below base names) := by
  have hbase : ∀ (names : List Text) (base : Text), (∀ name ∈ names, Path.slash ∉ name) →
      byteCount base ≤ byteCount (Path.below base names) := by
    intro names
    induction names with
    | nil => exact fun base _ => le_refl _
    | cons first names ih =>
      intro base h
      obtain ⟨hfirst, hrest⟩ := List.forall_mem_cons.mp h
      have hjoin : byteCount base + byteCount first ≤ byteCount (Path.join base first) :=
        byteCount_add_le_join hfirst
      have hbelow := ih (Path.join base first) hrest
      rw [Path.below_cons]
      omega
  obtain ⟨before, after, rfl⟩ := List.append_of_mem hname
  have hbefore := hbase before base fun n hn => h n (List.mem_append_left _ hn)
  have hjoin : byteCount (Path.below base before) + byteCount name ≤
      byteCount (Path.join (Path.below base before) name) :=
    byteCount_add_le_join (h name (List.mem_append_right _ List.mem_cons_self))
  have hafter := hbase after (Path.join (Path.below base before) name) fun n hn =>
    h n (List.mem_append_right _ (List.mem_cons_of_mem _ hn))
  have hsplit : Path.below base (before ++ name :: after) =
      Path.below (Path.join (Path.below base before) name) after := by
    simp [Path.below]
  rw [hsplit]
  omega

/-- Below a root with a long path no module is found. -/
lemma compiledModules_eq_nil (hsound : fs.IsSound) (hroot : fs.locate p.root = .ok location)
    (hdirectory : fs.isDirectoryAt location = true)
    (hname : location.getLast? ≠ some modulesDirectoryName)
    (hlong : maxPathBytes ≤ byteCount p.root + byteCount modulesDirectoryName) :
    p.compiledModules fs = [] := by
  rw [compiledModules_eq hroot hdirectory, List.map_eq_nil_iff, List.eq_nil_iff_forall_not_mem]
  intro r hr
  obtain ⟨⟨directories, name, content, rfl, -, hcontent⟩, hlength⟩ :=
    (mem_locationsBelow_root_iff hsound hroot hname).mp hr
  have hslash : ∀ n ∈ directories ++ [modulesDirectoryName, name], Path.slash ∉ n := by
    intro n hn
    have hsome := Option.isSome_iff_exists.mpr ⟨_, hcontent⟩
    exact (hsound.isName_of_find? hsome (List.mem_append_right _ hn)).slash_notMem
  have hbelow : byteCount p.root + byteCount modulesDirectoryName ≤
      byteCount (Path.below p.root (directories ++ [modulesDirectoryName, name])) :=
    byteCount_add_le_below hslash (by simp)
  omega

section Slashes

variable (n : Nat)

lemma byteCount_slashes : byteCount (List.replicate n Path.slash) = n := by
  induction n with
  | zero => rfl
  | succ n ih =>
    rw [List.replicate_succ, ← List.singleton_append, byteCount_append, ih]
    exact Nat.add_comm _ _

lemma follow_root_empty : fs.follow [] (List.replicate n []) = .ok [] := by
  induction n with
  | zero => rfl
  | succ n ih => exact ih

end Slashes

/-- The working directory stays what it is with slashes behind it. -/
lemma locate_dot_slashes (hworking : fs.workingDirectory = []) {n : Nat}
    (hn : n + 1 < maxPathBytes) :
    fs.locate ([.scalar '.'] ++ List.replicate n Path.slash) = .ok [] := by
  have hcount : byteCount ([.scalar '.'] ++ List.replicate n Path.slash) < maxPathBytes := by
    rw [byteCount_append, byteCount_slashes]
    exact (Nat.add_comm _ _).trans_lt hn
  have hnames : Path.names ([.scalar '.'] ++ List.replicate n Path.slash) =
      Text.ofString "." :: List.replicate n [] := by
    cases n with
    | zero => rfl
    | succ n =>
      rw [List.replicate_succ, Path.names_append_slash, Path.names_slashes]
      rfl
  have hstart : fs.startOf ([.scalar '.'] ++ List.replicate n Path.slash) = [] := hworking
  refine Except.bind_eq_ok_iff.mpr
    ⟨(), FileSystem.checkLength_eq_ok_iff.mpr ⟨by simp, hcount⟩, ?_⟩
  rw [hstart, hnames]
  exact follow_root_empty n

/-- A module is passed over when the path to it is too long. -/
theorem compiledModules_tooLong :
    compiledFiles.IsSound ∧
    compiledFiles.locate ([.scalar '.'] ++ List.replicate 4080 Path.slash) = .ok [] ∧
    IsModuleBelow compiledFiles [] ["build", "bytecode_modules", "a.mv"] ∧
    (⟨[.scalar '.'] ++ List.replicate 4080 Path.slash, .ok (.table [])⟩ : Package).compiledModules
      compiledFiles = [] := by
  obtain ⟨root, hslashes⟩ : ∃ root : Text,
      root = [.scalar '.'] ++ List.replicate 4080 Path.slash := ⟨_, rfl⟩
  have hsound : compiledFiles.IsSound := by decide +kernel
  have hroot : compiledFiles.locate root = .ok [] :=
    hslashes ▸ locate_dot_slashes rfl (by simp [maxPathBytes])
  have hmodule : IsModuleBelow compiledFiles [] ["build", "bytecode_modules", "a.mv"] :=
    ⟨["build"], "a.mv", [], rfl, by decide, by decide⟩
  have hlong : maxPathBytes ≤ byteCount root + byteCount modulesDirectoryName := by
    rw [hslashes, byteCount_append, byteCount_slashes]
    decide +kernel
  rw [← hslashes]
  exact ⟨hsound, hroot, hmodule, compiledModules_eq_nil hsound hroot rfl (by simp) hlong⟩

end Package

end MovePack
