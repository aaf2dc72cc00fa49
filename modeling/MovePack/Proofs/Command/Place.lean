/-
# Where bundles are written

The bundles of a package are written in the directory `bundles` below the directory `build` of the
package.  The name of the package and the name of the bundle become parts of the path, whatever they
are; so the place of a bundle is inside these directories as long as neither of them leads out of
the directory where it is put.
-/
import MovePack.Proofs.Command.Output
import MovePack.Proofs.Files.Inside

namespace MovePack

open FileSystem (isDot isDotDot)

lemma Path.follow_singleton {before : List Text} {name : Text} (hdot : isDot name = false)
    (hdotdot : isDotDot name = false) : follow before [name] = before ++ [name] := by
  rw [FileSystem.path_follow_cons, hdot, hdotdot]
  rfl

/-- A path that is one name leads nowhere before it. -/
lemma Path.eq_nil_or_eq_singleton {before : List Text} {name : Text} (hname : slash ∉ name)
    (h : before <+: names name) : before = [] ∨ before = [name] := by
  rw [names_of_notMem hname] at h
  obtain rfl | ⟨_, rfl, hrest⟩ := List.prefix_cons_iff.mp h
  · exact .inl rfl
  · rw [List.prefix_nil.mp hrest]
    exact .inr rfl

/-! ## The directory of bundles -/

namespace Package

variable {p : Package} {fs : FileSystem} {root : Location} {package name output : Text}

/-- The location of the bundles of a package with the given name in a directory at a location. -/
def bundlesLocation (root : Location) (package : Text) : Location :=
  Path.follow (root ++ [buildDirectoryName]) (Path.names package) ++ [bundlesDirectoryName]

lemma build_prefix_bundlesLocation (hpackage : Path.IsInner package) :
    root ++ [buildDirectoryName] <+: bundlesLocation root package :=
  (hpackage.prefix_follow _ (List.prefix_refl _)).trans (List.prefix_append _ _)

section Root

variable (hroot : fs.locate p.root = .ok root)

include hroot

lemma root_ne_nil : p.root ≠ [] := by
  obtain ⟨_, hlength, -⟩ := Except.bind_eq_ok_iff.mp hroot
  rintro hempty
  rw [hempty] at hlength
  cases hlength

lemma location_buildDirectory :
    Path.location fs.workingDirectory (Path.join p.root buildDirectoryName) =
      root ++ [buildDirectoryName] := by
  rw [Path.location_join _ (root_ne_nil hroot) (by decide), ← FileSystem.eq_of_locate_eq_ok hroot,
    Path.names_of_notMem (by decide), Path.follow_singleton (by decide) (by decide)]

lemma location_outputPath (hpackage : Path.isAbsolute package = false) :
    Path.location fs.workingDirectory (p.outputPath package bundlesDirectoryName) =
      bundlesLocation root package := by
  have hbuild : Path.join p.root buildDirectoryName ≠ [] :=
    Path.join_ne_nil (root_ne_nil hroot) (by decide)
  rw [outputPath, Path.location_join _ (Path.join_ne_nil hbuild hpackage) (by decide),
    Path.location_join _ hbuild hpackage, location_buildDirectory hroot,
    show Path.names bundlesDirectoryName = [bundlesDirectoryName] by decide,
    Path.follow_singleton (by decide) (by decide)]
  rfl

/-- The path of the directory of bundles leads through the directory of the package and below its
directory `build`. -/
lemma leadsInto_outputPath (hdirectory : fs.isDirectoryAt root = true)
    (hpackage : Path.IsInner package) :
    fs.LeadsInto (root ++ [buildDirectoryName]) (p.outputPath package bundlesDirectoryName) := by
  have hne := root_ne_nil hroot
  have hbuild : Path.join p.root buildDirectoryName ≠ [] := Path.join_ne_nil hne (by decide)
  have hbuildInto : fs.LeadsInto (root ++ [buildDirectoryName])
      (Path.join p.root buildDirectoryName) := by
    refine (FileSystem.LeadsInto.of_locate hroot hdirectory).join hne (by decide) ?_
    rw [← FileSystem.eq_of_locate_eq_ok hroot]
    intro before hbefore
    obtain rfl | rfl := Path.eq_nil_or_eq_singleton (by decide) hbefore
    · exact .inl hdirectory
    · right
      rw [Path.follow_singleton (by decide) (by decide)]
  have hpackageInto : fs.LeadsInto (root ++ [buildDirectoryName])
      (Path.join (Path.join p.root buildDirectoryName) package) := by
    refine hbuildInto.join hbuild hpackage.1 ?_
    rw [location_buildDirectory hroot]
    exact fun before hbefore => .inr (hpackage.prefix_follow _ hbefore)
  refine hpackageInto.join (Path.join_ne_nil hbuild hpackage.1) (by decide) ?_
  rw [Path.location_join _ hbuild hpackage.1, location_buildDirectory hroot]
  have hinside := hpackage.prefix_follow (root ++ [buildDirectoryName]) (List.prefix_refl _)
  intro before hbefore
  obtain rfl | rfl := Path.eq_nil_or_eq_singleton (by decide) hbefore
  · exact .inr hinside
  · right
    rw [Path.follow_singleton (by decide) (by decide)]
    exact hinside.trans (List.prefix_append _ _)

end Root

/-- The path of a bundle is below the directory of bundles, which is made. -/
lemma bundlePath_eq (hname : p.name = .ok package) (h : (p.bundlePath name fs).1 = .ok output) :
    output = Path.join (p.outputPath package bundlesDirectoryName) (name ++ bundleExtension) ∧
      (p.bundlePath name fs).2 =
        (fs.makeDirectories (p.outputPath package bundlesDirectoryName)).2 := by
  obtain ⟨fault, hfault, -⟩ | ⟨package', outcome, after, hname', hmade, hdirectory⟩ :=
    p.outputDirectory_cases bundlesDirectoryName fs
  · rw [hname] at hfault
    cases hfault
  · obtain rfl := Except.ok.inj (hname.symm.trans hname')
    simp only [bundlePath, hdirectory] at h ⊢
    obtain ⟨directory, hdirectory, rfl⟩ := Except.map_eq_ok_iff.mp h
    obtain ⟨_, -, rfl⟩ := Except.map_eq_ok_iff.mp hdirectory
    exact ⟨rfl, by rw [hmade]⟩

end Package

/-! ## The command -/

/-- The bundle of the modules that are gathered from the files has been written and shown. -/
structure Work.Bundles (p : Package) (name? : Option Text) (directory : Text) (excluded : List Text)
    (built : FileSystem) (w after : Workspace) : Prop where
  /-- There are modules. -/
  gathers : ∃ ordered, gathered p directory excluded built = .ok ordered
  /-- The bundle is written and shown under its name. -/
  writes : ∃ name output bytes, p.nameForBundle name? = .ok name ∧
    (p.bundlePath name built).1 = .ok output ∧
    (p.bundlePath name built).2.writeAt output bytes = .ok after.files ∧
    after.shown = ("Modules are bundled under: " ++
      Path.real after.files.workingDirectory output) :: w.shown

namespace Work

variable {w mid after : Workspace} {p : Package} {directory : Text} {name? : Option Text}
  {excluded : List Text} {builds : Bool}

lemma bundles_of_runOn_writeBundle
    (h : (gatherModules p directory excluded >>= writeBundle p name?).runOn mid = (.ok (), after)) :
    Bundles p name? directory excluded mid.files mid after := by
  obtain ⟨log, hgather⟩ := runOn_gatherModules p directory excluded mid
  rw [runOn_bind, hgather] at h
  cases hordered : gathered p directory excluded mid.files with
  | error failure =>
    rw [hordered] at h
    cases h
  | ok ordered =>
    refine ⟨⟨ordered, hordered⟩, ?_⟩
    rw [hordered] at h
    simp only [writeBundle, runOn_bind_eq_ok_iff, runOn_bundleName, Prod.mk.injEq,
      Except.mapError_eq_ok_iff] at h
    obtain ⟨name, _, ⟨hname, rfl⟩, h⟩ := h
    obtain ⟨_, -, hfailure, -⟩ | ⟨output, houtput, ⟨_, -, hfailure, -⟩ |
      ⟨bytes, -, ⟨_, _, -, hfailure, -⟩ | ⟨files, hfiles, hdisplay⟩⟩⟩ := runOn_writeOutput_cases h
    · cases hfailure
    · cases hfailure
    · cases hfailure
    · obtain ⟨-, -, rfl⟩ | ⟨_, -, hfailure, -⟩ := runOn_display_cases hdisplay
      · exact ⟨name, output, bytes, hname, houtput, (FileSystem.onPath_eq_ok_iff.mp hfiles).2, rfl⟩
      · cases hfailure

/-- A bundle that is made is that of the files after the build. -/
lemma bundles_of_runOn_makeBundle (hp : Package.ofDirectory w.files directory = .ok p)
    (h : (makeBundle (some directory) name? excluded builds).runOn w = (.ok (), after)) :
    Bundles p name? directory excluded
      ((Command.bundle (some directory) name? excluded builds).filesAfterBuild w) w after := by
  obtain ⟨_, _, hdirectory, h⟩ := runOn_bind_eq_ok_iff.mp h
  cases hdirectory
  obtain ⟨_, _, hopen, h⟩ := runOn_bind_eq_ok_iff.mp h
  rw [runOn_openPackage, hp] at hopen
  cases hopen
  cases builds with
  | false =>
    obtain ⟨_, _, hskip, h⟩ := runOn_bind_eq_ok_iff.mp h
    cases hskip
    obtain ⟨hgathers, hwrites⟩ := bundles_of_runOn_writeBundle h
    exact ⟨hgathers, hwrites⟩
  | true =>
    obtain ⟨_, mid, hbuilt, h⟩ := runOn_bind_eq_ok_iff.mp h
    obtain ⟨toolCommands, log, hbuild⟩ := runOn_build directory w
    obtain ⟨-, rfl⟩ := Prod.mk.inj (hbuild.symm.trans hbuilt)
    obtain ⟨hgathers, hwrites⟩ := bundles_of_runOn_writeBundle h
    exact ⟨hgathers, hwrites⟩

/-- Modules are gathered in a directory only. -/
lemma exists_locate_of_gathered {fs : FileSystem} {ordered : List ModuleDescriptor}
    (h : gathered p directory excluded fs = .ok ordered) :
    ∃ root, fs.locate p.root = .ok root ∧ fs.isDirectoryAt root = true := by
  have hsome : p.compiledModules fs ≠ [] := by
    intro hnone
    simp [gathered, Package.selected, hnone] at h
  rw [Package.compiledModules] at hsome
  split at hsome
  · exact absurd rfl hsome
  next root hroot =>
    split_ifs at hsome with hdirectory
    · exact ⟨root, hroot, hdirectory⟩
    · exact absurd rfl hsome

end Work

namespace Package

/-- The name of a bundle with its extension is no dots. -/
lemma isDot_append_bundleExtension (name : Text) :
    isDot (name ++ (bundleExtension : Text)) = false ∧
      isDotDot (name ++ (bundleExtension : Text)) = false := by
  have hlength : ∀ dots : Text, dots.length < 4 → name ++ (bundleExtension : Text) ≠ dots := by
    rintro dots hdots rfl
    rw [List.length_append] at hdots
    exact absurd (show 4 ≤ (Text.ofString bundleExtension).length by decide) (by omega)
  constructor
  · simp [isDot, hlength [] (by decide), hlength (Text.ofString ".") (by decide)]
  · simp [isDotDot, hlength (Text.ofString "..") (by decide)]

/-- The last name on the way to a bundle is that of its file, and those before it stay below the
place where the bundle is put. -/
lemma prefix_dropLast_follow_bundleName {name : Text} (place : Location)
    (h : Path.IsInner (name ++ (bundleExtension : Text))) :
    place <+: (Path.follow place (Path.names (name ++ (bundleExtension : Text)))).dropLast := by
  obtain ⟨before, hbefore⟩ := Path.exists_names_eq (name ++ (bundleExtension : Text))
  obtain ⟨hdot, hdotdot⟩ := isDot_append_bundleExtension (Path.baseName name)
  have hinside := h.prefix_follow place (hbefore ▸ List.prefix_append before _)
  rw [Path.baseName_append name (by decide)] at hbefore
  rw [hbefore, Path.follow_append, Path.follow_singleton hdot hdotdot, List.dropLast_concat]
  exact hinside

/-- With plain names a bundle lies where the layout has it. -/
lemma follow_bundlesLocation_of_notMem {root : Location} {package name : Text}
    (hinner : Path.IsInner package) (hpackage : Path.slash ∉ package)
    (hdot : isDot package = false) (hname : Path.slash ∉ name) :
    Path.follow (bundlesLocation root package) (Path.names (name ++ (bundleExtension : Text))) =
      root ++ [buildDirectoryName, package, bundlesDirectoryName,
        name ++ (bundleExtension : Text)] := by
  have hdotdot : isDotDot package = false := by
    rw [Bool.eq_false_iff]
    intro hdots
    obtain rfl : package = Text.ofString ".." := by simpa [isDotDot] using hdots
    exact absurd hinner (by decide)
  have hplain : Path.slash ∉ name ++ (bundleExtension : Text) := by
    rw [List.mem_append, not_or]
    exact ⟨hname, by decide⟩
  obtain ⟨hdot', hdotdot'⟩ := isDot_append_bundleExtension name
  rw [bundlesLocation, Path.names_of_notMem hpackage, Path.names_of_notMem hplain,
    Path.follow_singleton hdot hdotdot, Path.follow_singleton hdot' hdotdot']
  simp

end Package

open Package

/-- **Bundles stay in their package.**  Unless the name of the package or that of the bundle leads
out of the directory where it is put, a bundle that is made lies in the directory for bundles of the
package, which lies below the directory `build` of the package.  Nothing else is changed, but for
directories that are made below the directory `build`; and with plain names the bundle lies where
the layout of packages has it. -/
theorem Command.perform_bundle_inside {w after : Workspace} {directory package name : Text}
    {p : Package} {name? : Option Text} {excluded : List Text} {builds : Bool}
    (hp : Package.ofDirectory w.files directory = .ok p) (hpackage : p.name = .ok package)
    (hname : p.nameForBundle name? = .ok name) (hinner : Path.IsInner package)
    (hinner' : Path.IsInner (name ++ (bundleExtension : Text)))
    (h : (Command.perform (.bundle (some directory) name? excluded builds)).runOn w =
      (.ok (), after)) :
    ∃ built root location content,
      built = (Command.bundle (some directory) name? excluded builds).filesAfterBuild w ∧
      built.locate directory = .ok root ∧
      after.shown = ("Modules are bundled under: " ++ Path.ofNames location) :: w.shown ∧
      after.files.find? location = some (.file content) ∧
      root ++ [buildDirectoryName] <+: bundlesLocation root package ∧
      bundlesLocation root package <+: location.dropLast ∧
      (∀ l, l ≠ location → after.files.find? l = built.find? l ∨
        built.find? l = none ∧ after.files.find? l = some .directory ∧
          root ++ [buildDirectoryName] <+: l) ∧
      (Path.slash ∉ package → isDot package = false → Path.slash ∉ name →
        location = root ++ [buildDirectoryName, package, bundlesDirectoryName,
          name ++ (bundleExtension : Text)]) := by
  obtain ⟨⟨ordered, hordered⟩, ⟨name', output, bytes, hname', houtput, hwrite, hshown⟩⟩ :=
    Work.bundles_of_runOn_makeBundle hp h
  obtain rfl := Except.ok.inj (hname.symm.trans hname')
  obtain rfl : p.root = directory := by
    obtain ⟨manifest, -, rfl⟩ := Except.map_eq_ok_iff.mp hp
    rfl
  generalize hbuilt : (Command.bundle (some p.root) name? excluded builds).filesAfterBuild w =
    built at *
  obtain ⟨root, hroot, hdirectory⟩ := Work.exists_locate_of_gathered hordered
  obtain ⟨rfl, hmade⟩ := bundlePath_eq hpackage houtput
  rw [hmade] at hwrite
  have hgrows := built.growsTo_makeDirectories (p.outputPath package bundlesDirectoryName)
  have hadds := FileSystem.addsBelow_makeDirectories
    (leadsInto_outputPath hroot hdirectory hinner)
  obtain ⟨location, hwrites⟩ := FileSystem.exists_writesAt_of_writeAt hwrite
  -- the bundle is where its path leads to
  have hworking : after.files.workingDirectory = built.workingDirectory :=
    hwrites.workingDirectory_eq.trans hgrows.workingDirectory_eq
  have hne : p.outputPath package bundlesDirectoryName ≠ [] :=
    Path.join_ne_nil (Path.join_ne_nil (Path.join_ne_nil (root_ne_nil hroot) (by decide)) hinner.1)
      (by decide)
  have hlocation : location = Path.follow (bundlesLocation root package)
      (Path.names (name ++ (bundleExtension : Text))) := by
    rw [FileSystem.eq_of_locate_eq_ok hwrites.locate, hworking,
      Path.location_join _ hne hinner'.1, location_outputPath hroot hinner.1]
  refine ⟨built, root, location, bytes, rfl, hroot, ?_, ?_, build_prefix_bundlesLocation hinner, ?_,
    fun l hl => ?_, fun hpackage hdot hname => ?_⟩
  · rw [hshown, Path.real, ← FileSystem.eq_of_locate_eq_ok hwrites.locate]
  · rw [hwrites.find?_eq, if_pos rfl]
  · rw [hlocation]
    exact prefix_dropLast_follow_bundleName _ hinner'
  · rw [hwrites.find?_eq, if_neg hl]
    rcases hgrows.find?_eq l with hsame | ⟨hnone, hsome⟩
    · exact .inl hsame
    · exact .inr ⟨hnone, hsome, hadds l hnone (by rw [hsome]; rfl)⟩
  · rw [hlocation]
    exact follow_bundlesLocation_of_notMem hinner hpackage hdot hname

/-! ## A bundle inside and one outside -/

/-- The files of a built package can be bundled under any name under which the bundle can be
written. -/
lemma exists_perform_bundle_built : ∃ code bytes, ∀ name? name files,
    builtPackage.nameForBundle name? = .ok name →
    (builtFiles code).write (Path.join "./build/p/bundles" (name ++ (bundleExtension : Text)))
      bytes = .ok files →
    (∀ c ∈ Path.real [] (Path.join "./build/p/bundles" (name ++ (bundleExtension : Text))),
      c.isSurrogate = false) →
    ∃ after, (Command.perform (.bundle (some ".") name? [] false)).runOn
      { files := builtFiles code } = (.ok (), after) ∧ after.files = files := by
  obtain ⟨code, hcode⟩ : ∃ code, code = [161, 28, 235, 11, 6, 0, 0, 0, 3, 1, 0, 2, 7, 2, 2, 8, 4,
    32, 0, 0, 1, 97] ++ List.replicate 32 (0 : UInt8) ++ [0] := ⟨_, rfl⟩
  have hmodule : CompiledModule.IsModule code (Bundle.atOrigin "a") [] :=
    CompiledModule.isModule_of_moduleBinary (hcode ▸ moduleBinary_atOrigin)
  have hgather : Work.gathered builtPackage "." [] (builtFiles code) =
      .ok [⟨Bundle.atOrigin "a", [], code⟩] := by
    have hselected : builtPackage.selected [] (builtFiles code) =
        [("./build/p/bytecode_modules/a.mv" : Text)] := by
      simp [selected, compiledModules_builtPackage, isExcluded]
    have hread : (builtFiles code).read "./build/p/bytecode_modules/a.mv" = .ok code := by cbv
    have hmodules : (builtPackage.selected [] (builtFiles code)).mapM
        (ModuleDescriptor.at? (builtFiles code)) = .ok [⟨Bundle.atOrigin "a", [], code⟩] := by
      rw [ModuleDescriptor.mapM_at?_eq_ok_iff, hselected]
      exact .cons ⟨hread, hmodule⟩ .nil
    have horder : Bundle.order [⟨Bundle.atOrigin "a", [], code⟩] =
        .ok [⟨Bundle.atOrigin "a", [], code⟩] := by cbv
    rw [Work.gathered, hmodules, Except.ok_bind, horder, hselected]
    rfl
  obtain ⟨bytes, hencode⟩ : ∃ bytes, ModuleBundle.encode ⟨[code]⟩ = .ok bytes :=
    ⟨_, ModuleBundle.isFormat.toExcept_write ⟨show 1 ≤ Codec.maxCount by decide,
      by simp [hcode, Codec.maxCount]⟩⟩
  refine ⟨code, bytes, fun name? name files hname hwrite hlocation => ?_⟩
  have houtput : builtPackage.bundlePath name (builtFiles code) =
      (.ok (Path.join "./build/p/bundles" (name ++ (bundleExtension : Text))),
        builtFiles code) := by
    rw [bundlePath, outputDirectory_builtPackage]
    rfl
  refine (Work.makeBundle_eq_ok_iff (w := { files := builtFiles code })
    (ofDirectory_builtFiles code)).mpr ⟨_, name, Path.join "./build/p/bundles"
      (name ++ (bundleExtension : Text)), bytes, hgather, hname, ?_, hencode, ?_, ?_⟩
  · exact congrArg Prod.fst houtput
  · rw [houtput]
    exact hwrite
  · rw [FileSystem.workingDirectory_of_write hwrite]
    exact hlocation

/-- A bundle with the usual name lies where the layout has it. -/
theorem Command.perform_bundle_inside_built : ∃ code after content,
    Package.ofDirectory (builtFiles code) "." = .ok builtPackage ∧
    builtPackage.name = .ok "p" ∧ builtPackage.nameForBundle none = .ok "p" ∧
    Path.IsInner "p" ∧ Path.IsInner "p.mvb" ∧
    (Command.perform (.bundle (some ".") none [] false)).runOn { files := builtFiles code } =
      (.ok (), after) ∧
    after.files.find? ["build", "p", "bundles", "p.mvb"] = some (.file content) ∧
    after.shown = [("Modules are bundled under: /build/p/bundles/p.mvb" : Text)] := by
  obtain ⟨code, bytes, hbuilt⟩ := exists_perform_bundle_built
  obtain ⟨files, hwrite⟩ := exists_write_builtFiles code bytes
  have hpackage : builtPackage.name = .ok "p" := by cbv
  have hname : builtPackage.nameForBundle none = .ok "p" := by cbv
  have hinner : Path.IsInner "p" := by decide
  have hinner' : Path.IsInner "p.mvb" := by decide
  obtain ⟨after, hrun, -⟩ := hbuilt none "p" files hname hwrite (by decide)
  obtain ⟨_, root, location, content, rfl, hroot, hshown, hfile, -, -, -, hplain⟩ :=
    Command.perform_bundle_inside (ofDirectory_builtFiles code) hpackage hname hinner hinner' hrun
  obtain rfl : root = [] := by
    have hroot' : (builtFiles code).locate "." = .ok [] := by cbv
    exact Except.ok.inj (hroot.symm.trans hroot')
  obtain rfl := hplain (by decide) (by decide) (by decide)
  exact ⟨code, after, content, ofDirectory_builtFiles code, hpackage, hname, hinner, hinner', hrun,
    hfile, hshown⟩

/-- A bundle whose name leads out of the package lies outside of it. -/
theorem Command.perform_bundle_outside : ∃ code after content,
    Package.ofDirectory (builtFiles code) "." = .ok builtPackage ∧
    builtPackage.name = .ok "p" ∧
    (Command.perform (.bundle (some ".") (some "../../../evil") [] false)).runOn
      { files := builtFiles code } = (.ok (), after) ∧
    (builtFiles code).find? ["evil.mvb"] = none ∧
    after.files.find? ["evil.mvb"] = some (.file content) ∧
    after.shown = [("Modules are bundled under: /evil.mvb" : Text)] ∧
    ¬ bundlesLocation [] "p" <+: [("evil.mvb" : Text)] := by
  obtain ⟨code, bytes, hbuilt⟩ := exists_perform_bundle_built
  have hpath : Path.join "./build/p/bundles" ("../../../evil" ++ (bundleExtension : Text)) =
      "./build/p/bundles/../../../evil.mvb" := by decide
  have hlocate : (builtFiles code).locate "./build/p/bundles/../../../evil.mvb" =
      .error .notFound := by cbv
  have hplace : (builtFiles code).locateForWriting "./build/p/bundles/../../../evil.mvb" =
      .ok ["evil.mvb"] := by cbv
  have hwrite : (builtFiles code).write
      (Path.join "./build/p/bundles" ("../../../evil" ++ (bundleExtension : Text))) bytes =
        .ok ((builtFiles code).put ["evil.mvb"] (.file bytes)) := by
    rw [hpath, FileSystem.write, FileSystem.onPath_eq_ok_iff, FileSystem.writeAt_eq_ok_iff,
      FileSystem.placeAt, FileSystem.removeAt, hlocate]
    refine ⟨by decide, rfl, ?_⟩
    rw [Except.ok_bind, hplace]
    rfl
  have hgiven : builtPackage.nameForBundle (some "../../../evil") = .ok "../../../evil" := by cbv
  obtain ⟨after, hrun, hfiles⟩ := hbuilt _ _ _ hgiven hwrite (by decide)
  have hname : builtPackage.name = .ok "p" := by cbv
  refine ⟨code, after, bytes, ofDirectory_builtFiles code, hname, hrun, by cbv, ?_, ?_, by decide⟩
  · rw [hfiles, FileSystem.find?_put _ _ (by simp), if_pos rfl]
  · obtain ⟨-, name, output, _, hname', houtput, -, hshown⟩ :=
      Work.bundles_of_runOn_makeBundle (ofDirectory_builtFiles code) hrun
    obtain rfl := Except.ok.inj (hgiven.symm.trans hname')
    obtain ⟨rfl, -⟩ := bundlePath_eq hname houtput
    have hworking : ((builtFiles code).put ["evil.mvb"] (.file bytes)).workingDirectory = [] := rfl
    have hreal : ("Modules are bundled under: " : Text) ++
        Path.real [] (Path.join (builtPackage.outputPath "p" bundlesDirectoryName)
          ("../../../evil" ++ (bundleExtension : Text))) =
        "Modules are bundled under: /evil.mvb" := by decide
    rw [hshown, hfiles, hworking, hreal]

end MovePack
