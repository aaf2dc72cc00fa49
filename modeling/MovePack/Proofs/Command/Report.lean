/-
# Failures that are reported

A command that makes an artifact reports why it fails, with a few exceptions, which end the program
at once: a manifest that cannot be taken for a text, a name in it that cannot be shown, a directory
for outputs that cannot be made, a path that holds the null character, a tool that writes bytes that
are no text, and an artifact whose location is no text.  Where none of these stands in the way,
every run ends with a status of 0 or 1, and in the second case with the message of the failure.
-/
import MovePack.Proofs.Command.CommandLine
import MovePack.Proofs.Command.Output

namespace MovePack

open FileSystem (hasNull hasNull_eq_false_iff)

namespace Package

variable {p : Package} {fs : FileSystem} {directoryName : Text} {fault : ManifestFault}

/-- The directory of the given name for outputs of the package can be made. -/
def HasPlace (p : Package) (directoryName : Text) (fs : FileSystem) : Prop :=
  ∀ name, p.name = .ok name → (fs.makeDirectories (p.outputPath name directoryName)).1 = .ok ()

/-- What the manifest has in the place of a name can be shown. -/
def HasShownName (p : Package) : Prop := ∀ fault, p.name ≠ .error (.unshownName fault)

lemma HasShownName.isReported (h : p.HasShownName) (hname : p.name = .error fault) :
    (Failure.manifest fault).isReported = true ∧
      (Failure.output (.manifest fault)).isReported = true := by
  cases fault with
  | unshownName fault => exact absurd hname (h fault)
  | _ => exact ⟨rfl, rfl⟩

/-- A directory that can be made is there, once the package has a name. -/
lemma HasPlace.outputDirectory_cases (hplace : p.HasPlace directoryName fs) :
    (∃ fault, p.name = .error fault ∧
        (p.outputDirectory directoryName fs).1 = .error (.manifest fault)) ∨
      ∃ name, p.name = .ok name ∧
        (fs.makeDirectories (p.outputPath name directoryName)).1 = .ok () ∧
        (p.outputDirectory directoryName fs).1 = .ok (p.outputPath name directoryName) := by
  obtain ⟨fault, hfault, hdirectory⟩ | ⟨name, outcome, after, hname, hmade, hdirectory⟩ :=
    p.outputDirectory_cases directoryName fs
  · exact .inl ⟨fault, hfault, congrArg Prod.fst hdirectory⟩
  · have houtcome := hplace name hname
    rw [hmade] at houtcome
    obtain rfl : outcome = .ok () := houtcome
    exact .inr ⟨name, hname, congrArg Prod.fst hmade, congrArg Prod.fst hdirectory⟩

lemma HasPlace.isReported (hplace : p.HasPlace directoryName fs) (hname : p.HasShownName)
    {fault : OutputFault} (h : (p.outputDirectory directoryName fs).1 = .error fault) :
    (Failure.output fault).isReported = true := by
  obtain ⟨fault', hfault, hdirectory⟩ | ⟨name, -, -, hdirectory⟩ := hplace.outputDirectory_cases
  · rw [hdirectory] at h
    cases h
    exact (hname.isReported hfault).2
  · rw [hdirectory] at h
    cases h

/-- Directories for outputs lie below the build directory. -/
structure IsOutputName (directoryName : Text) : Prop where
  /-- There is a name. -/
  ne_nil : directoryName ≠ []
  /-- It is not the name of the directory itself. -/
  ne_dot : directoryName ≠ Text.ofString "."
  /-- It is a single name. -/
  slash_notMem : Path.slash ∉ directoryName

lemma isOutputName_bundles : IsOutputName bundlesDirectoryName :=
  ⟨by decide, by decide, by decide⟩

lemma isOutputName_transactions : IsOutputName transactionsDirectoryName :=
  ⟨by decide, by decide, by decide⟩

/-- The path of a directory that can be made does not hold the null character, and neither does the
name of the package, which is a part of it. -/
lemma HasPlace.hasNull_eq_false (hplace : p.HasPlace directoryName fs)
    (houtput : IsOutputName directoryName) {directory : Text}
    (h : (p.outputDirectory directoryName fs).1 = .ok directory) :
    hasNull directory = false ∧ ∃ name, p.name = .ok name ∧ hasNull name = false := by
  obtain ⟨fault, -, hdirectory⟩ | ⟨name, hname, hmade, hdirectory⟩ := hplace.outputDirectory_cases
  · rw [hdirectory] at h
    cases h
  · rw [hdirectory] at h
    cases h
    have hnull : hasNull (p.outputPath name directoryName) = false := by
      refine FileSystem.hasNull_of_makeDirectories ?_ hmade
      rw [outputPath, FileSystem.splitPath_join _ houtput.slash_notMem houtput.ne_nil]
      exact houtput.ne_dot
    have habsolute : Path.isAbsolute directoryName = false := by
      rw [Bool.eq_false_iff]
      intro habsolute
      obtain ⟨rest, rfl⟩ := List.isPrefixOf_iff_prefix.mp habsolute
      exact houtput.slash_notMem (List.mem_append_left _ List.mem_cons_self)
    have hbase : hasNull (Path.join (Path.join p.root buildDirectoryName) name) = false := by
      rw [hasNull_eq_false_iff] at hnull ⊢
      intro c hc hzero
      have hslash := FileSystem.ne_slash_of_toNat_eq_zero hzero
      exact hnull c ((Path.mem_join_iff hslash habsolute).mpr (.inl hc)) hzero
    exact ⟨hnull, name, hname, FileSystem.hasNull_of_hasNull_join hbase⟩

lemma name_eq_error_of_nameForBundle {name? : Option Text}
    (h : p.nameForBundle name? = .error fault) :
    p.name = .error fault := by
  rcases name? with _ | _ | ⟨c, name⟩
  · exact h
  · exact h
  · cases h

/-- A bundle has the given name or that of the package. -/
lemma name_eq_of_nameForBundle {name? : Option Text} {name : Text}
    (h : p.nameForBundle name? = .ok name) : name? = some name ∨ p.name = .ok name := by
  rcases name? with _ | _ | ⟨c, given⟩
  · exact .inr h
  · exact .inr h
  · cases h
    exact .inl rfl

end Package

namespace Command

variable {w after : Workspace} {command : Command} {failure : Failure}

/-- Whatever path the change of files leads to, its location can be shown. -/
def HasShownPlace (fs : FileSystem) (find : FileSystem → Except OutputFault Text × FileSystem) :
    Prop :=
  ∀ output, (find fs).1 = .ok output →
    ∀ c ∈ Path.real fs.workingDirectory output, c.isSurrogate = false

/-- Nothing stands in the way of a command that makes an artifact, but what commands report. -/
inductive IsUnhindered (w : Workspace) : Command → Prop
  | bundle {directory name? excluded builds p}
      (hp : Package.ofDirectory w.files directory = .ok p) (hname : p.HasShownName)
      (hplace : p.HasPlace Package.bundlesDirectoryName
        (filesAfterBuild w (.bundle (some directory) name? excluded builds)))
      (hgiven : ∀ name, name? = some name → hasNull name = false)
      (hshown : ∀ name, p.nameForBundle name? = .ok name → HasShownPlace
        (filesAfterBuild w (.bundle (some directory) name? excluded builds)) (p.bundlePath name))
      (htool : builds = true → w.tool.undecodable? = none) :
      IsUnhindered w (.bundle (some directory) name? excluded builds)
  | createTransaction {script directory types args p}
      (hp : Package.ofDirectory w.files directory = .ok p) (hname : p.HasShownName)
      (hplace : p.hasManifest = true → p.HasPlace Package.transactionsDirectoryName w.files)
      (hscript : hasNull script = false)
      (hshown : HasShownPlace w.files (p.transactionPath script)) :
      IsUnhindered w (.createTransaction (some script) (some directory) types args)

lemma IsUnhindered.makesArtifact (h : command.IsUnhindered w) : command.makesArtifact = true := by
  cases h <;> rfl

lemma isReported_of_build {tool : MoveTool} {directory : Text} {fault : ToolFault}
    (htool : tool.undecodable? = none) (h : (tool.build directory).outcome = .error fault) :
    (Failure.tool fault).isReported = true := by
  rw [MoveTool.build, MoveTool.run, htool] at h
  split_ifs at h
  · cases h
    rfl
  · cases h
    rfl

/-- An unhindered command that fails before it comes to its output reports it. -/
lemma FailsFor.isReported (h : command.FailsFor w failure) (hcommand : command.IsUnhindered w) :
    failure.isReported = true := by
  cases hcommand with
  | bundle hp hname hplace hgiven hshown htool =>
    cases h with
    | opening h =>
      rw [hp] at h
      cases h
    | building h => exact isReported_of_build (htool rfl) h
    | gathering h =>
      obtain ⟨-, hfailure⟩ | ⟨-, fault, hfailure⟩ | ⟨modules, -, -, hfailure⟩ :=
        Work.gathered_cases _ _ _ _ <;> rw [hfailure] at h
      · cases h
        rfl
      · cases h
        rfl
      · obtain ⟨fault, -, rfl⟩ := Except.mapError_eq_error_iff.mp h
        rfl
    | naming hp' h =>
      obtain rfl := Except.ok.inj (hp.symm.trans hp')
      exact (hname.isReported (Package.name_eq_error_of_nameForBundle h)).1
  | createTransaction hp hname hplace hscript hshown =>
    cases h with
    | openingForScript h =>
      rw [hp] at h
      cases h
    | @reading _ _ _ _ fault h =>
      cases fault with
      | nullCharacter =>
        rw [Artifact.hasNull_of_read_eq_error h] at hscript
        cases hscript
      | _ => rfl
    | argument h => rfl
    | transaction hread hargs h => rfl

/-- An unhindered command whose output has no place reports it. -/
lemma HasOutput.isReported {find : FileSystem → Except OutputFault Text × FileSystem}
    (h : command.HasOutput w.files find) (hcommand : command.IsUnhindered w) {fault : OutputFault}
    (hfind : (find (command.filesAfterBuild w)).1 = .error fault) :
    (Failure.output fault).isReported = true := by
  cases hcommand with
  | bundle hp hname hplace hgiven hshown htool =>
    cases h with
    | bundle hp' hname' =>
      obtain rfl := Except.ok.inj (hp.symm.trans hp')
      exact hplace.isReported hname (Except.map_eq_error_iff.mp hfind)
  | createTransaction hp hname hplace hscript hshown =>
    cases h with
    | transaction hp' hread =>
      obtain rfl := Except.ok.inj (hp.symm.trans hp')
      rw [Package.transactionPath] at hfind
      split_ifs at hfind with hmanifest
      · exact (hplace hmanifest).isReported hname (Except.map_eq_error_iff.mp hfind)
      · cases hfind

/-- The output of an unhindered command has a path without the null character. -/
lemma HasOutput.hasNull_eq_false {find : FileSystem → Except OutputFault Text × FileSystem}
    (h : command.HasOutput w.files find) (hcommand : command.IsUnhindered w) {output : Text}
    (hfind : (find (command.filesAfterBuild w)).1 = .ok output) : hasNull output = false := by
  have happend : ∀ {name extension : Text}, hasNull name = false → hasNull extension = false →
      hasNull (name ++ extension) = false := by
    intro name extension hname hextension
    rw [hasNull, List.any_append, Bool.or_eq_false_iff]
    exact ⟨hname, hextension⟩
  cases hcommand with
  | bundle hp hname hplace hgiven hshown htool =>
    cases h with
    | bundle hp' hname' =>
      obtain rfl := Except.ok.inj (hp.symm.trans hp')
      obtain ⟨directory, hdirectory, rfl⟩ := Except.map_eq_ok_iff.mp hfind
      obtain ⟨hnull, named, hnamed, hnullName⟩ :=
        hplace.hasNull_eq_false Package.isOutputName_bundles hdirectory
      refine FileSystem.hasNull_join hnull (happend ?_ (by decide))
      obtain hgivenName | hpackage := Package.name_eq_of_nameForBundle hname'
      · exact hgiven _ hgivenName
      · obtain rfl := Except.ok.inj (hnamed.symm.trans hpackage)
        exact hnullName
  | createTransaction hp hname hplace hscript hshown =>
    cases h with
    | transaction hp' hread =>
      obtain rfl := Except.ok.inj (hp.symm.trans hp')
      obtain ⟨directory, rfl, hdirectory⟩ := Package.exists_directory_of_transactionPath hfind
      rw [hasNull_eq_false_iff] at hscript
      refine FileSystem.hasNull_join ?_ (happend (hasNull_eq_false_iff.mpr fun c hc =>
        hscript c (Path.mem_of_mem_baseName (Path.mem_of_mem_stem hc))) (by decide))
      obtain ⟨hmanifest, hdirectory⟩ | rfl := hdirectory
      · exact ((hplace hmanifest).hasNull_eq_false Package.isOutputName_transactions hdirectory).1
      · exact hasNull_eq_false_iff.mpr fun c hc => hscript c (Path.mem_of_mem_directoryName hc)

/-- The location of the output of an unhindered command can be shown. -/
lemma HasOutput.hasShownPlace {find : FileSystem → Except OutputFault Text × FileSystem}
    (h : command.HasOutput w.files find) (hcommand : command.IsUnhindered w) :
    HasShownPlace (command.filesAfterBuild w) find := by
  cases hcommand with
  | bundle hp hname hplace hgiven hshown htool =>
    cases h with
    | bundle hp' hname' =>
      obtain rfl := Except.ok.inj (hp.symm.trans hp')
      exact hshown _ hname'
  | createTransaction hp hname hplace hscript hshown =>
    cases h with
    | transaction hp' hread =>
      obtain rfl := Except.ok.inj (hp.symm.trans hp')
      exact hshown

/-- An unhindered command reports why it fails. -/
lemma IsUnhindered.isReported (hcommand : command.IsUnhindered w)
    (h : command.perform.runOn w = (.error failure, after)) : failure.isReported = true := by
  have hends := ends_perform hcommand.makesArtifact w
  rw [h] at hends
  cases hends with
  | early hfails hfiles => exact hfails.isReported hcommand
  | atOutput hfind hrun hencoded hfiles hshown =>
    obtain ⟨fault, hfault, hfailure, -⟩ | ⟨output, houtput, ⟨fault, hfault, hfailure, -⟩ |
      ⟨bytes, -, ⟨fault, _, hreplace, hfailure, -⟩ | ⟨files, hwrite, hdisplay⟩⟩⟩ :=
      Work.runOn_writeOutput_cases hrun
    · cases hfailure
      rw [hfiles] at hfault
      exact hfind.isReported hcommand hfault
    · cases hfailure
      cases fault with
      | foreign cause => exact absurd rfl (hencoded _ hfault cause)
      | _ => rfl
    · cases hfailure
      rw [hfiles] at houtput
      cases fault with
      | nullCharacter =>
        have hnull := Artifact.hasNull_of_replace_eq_error hreplace
        rw [hfind.hasNull_eq_false hcommand houtput] at hnull
        cases hnull
      | _ => rfl
    · obtain ⟨-, hfailure, -⟩ | ⟨_, ⟨c, hc, hsurrogate⟩, -, -⟩ := Work.runOn_display_cases hdisplay
      · cases hfailure
      · -- the line is the caption and a location that can be shown
        rw [hfiles] at houtput hwrite
        have hplace := hfind.hasShownPlace hcommand output houtput
        rw [FileSystem.workingDirectory_of_write hwrite,
          (hfind.growsTo _).workingDirectory_eq] at hc
        obtain hc | hc := List.mem_append.mp hc
        · exact absurd hc (notMem_caption_of_isSurrogate _ hsurrogate)
        · rw [hplace c hc] at hsurrogate
          cases hsurrogate

end Command

/-- **A run with nothing in its way ends with a report.**  Either the command has ended well and the
status is 0, or it has failed, the status is 1 and the error output ends with the message of the
failure. -/
theorem Workspace.run_reports {w : Workspace} {words : List Text} {invocation : Invocation}
    (hwords : Invocation.ofWords words = .ok invocation)
    (hcommand : invocation.command.IsUnhindered w) :
    ∃ report after, w.run words = (.ok report, after) ∧
      ((∃ mid, invocation.command.perform.runOn w = (.ok (), mid) ∧ report.status = 0) ∨
        ∃ failure mid, invocation.command.perform.runOn w = (.error failure, mid) ∧
          report.status = 1 ∧
          report.errorOutput = Report.logLines invocation.verbosity after.log ++
            ("Error: " ++ failure.message ++ "\n")) := by
  rcases hrun : w.run words with ⟨outcome, after⟩
  obtain ⟨performed, mid, hperform, -, -, ⟨rfl, rfl⟩ | ⟨failure, rfl, ⟨-, rfl⟩ |
    ⟨hreported, -⟩⟩⟩ := Workspace.run_cases hwords hrun
  · exact ⟨_, after, rfl, .inl ⟨mid, hperform, rfl⟩⟩
  · refine ⟨_, after, rfl, .inr ⟨failure, mid, hperform, rfl, ?_⟩⟩
    rw [Report.ofFailure, Report.lines_singleton]
  · rw [hcommand.isReported hperform] at hreported
    cases hreported

/-- A missing script is reported. -/
theorem Workspace.run_reports_missing : ∃ report after log,
    (Command.createTransaction (some "t.mv") (some ".") [] []).IsUnhindered
      { files := scriptFiles } ∧
    Workspace.run { files := scriptFiles } ["create-transaction", "-c", "t.mv"] =
      (.ok report, after) ∧ report.status = 1 ∧
    report.errorOutput =
      log ++ "Error: Failure to read filename t.mv: No such file or directory\n" := by
  have hp : Package.ofDirectory scriptFiles "." = .ok ⟨".", .error (.missing "/")⟩ := by cbv
  have hread : Artifact.read scriptFiles "t.mv" = .error (.unreadable "t.mv" .notFound) := by cbv
  have hcommand : (Command.createTransaction (some "t.mv") (some ".") [] []).IsUnhindered
      { files := scriptFiles } := by
    refine .createTransaction hp (fun fault hname => ?_) (fun hmanifest => ?_) (by decide)
      fun output houtput => ?_
    · cases hname
    · cases hmanifest
    · obtain rfl : "t.mvt" = output := by
        have hplace : (Package.transactionPath ⟨".", .error (.missing "/")⟩ "t.mv" scriptFiles).1 =
            .ok "t.mvt" := by cbv
        exact Except.ok.inj (hplace.symm.trans houtput)
      exact (by decide : ∀ c ∈ Path.real [] "t.mvt", c.isSurrogate = false)
  obtain ⟨report, after, hrun, ⟨mid, hperform, -⟩ | ⟨failure, mid, hperform, hstatus, herror⟩⟩ :=
    Workspace.run_reports (Invocation.ofWords_createTransaction (by decide)) hcommand
  all_goals
    change (Work.makeTransaction (some "t.mv") (some ".") [] []).runOn _ = _ at hperform
    simp only [Work.makeTransaction, Work.createTransaction, Work.runOn_bind,
      Work.runOn_givenPath, Work.runOn_openPackage, hp, Except.mapError, Work.runOn_read, hread]
      at hperform
    cases hperform
  exact ⟨report, after, _, hcommand, hrun, hstatus, herror⟩

/-- A package with a regular file in the place of its build directory. -/
def obstructedFiles : FileSystem where
  entries := [(["Move.toml"], .file "[package]\nname = \"p\"".toUTF8.toList), (["build"], .file [0]),
    (["s.mv"], .file plainScript)]
  workingDirectory := []

/-- **A file in the place of a directory ends a run without a report.** -/
theorem Workspace.run_obstructed : ∃ after,
    obstructedFiles.IsTree ∧ Package.ofDirectory obstructedFiles "." = .ok builtPackage ∧
    Invocation.ofWords ["create-transaction", "-c", "s.mv"] =
      .ok ⟨.createTransaction (some "s.mv") (some ".") [] [], 0⟩ ∧
    Workspace.run { files := obstructedFiles } ["create-transaction", "-c", "s.mv"] =
      (.error (.output (.directory (.refused .notADirectory "./build/p"))), after) := by
  have hp : Package.ofDirectory obstructedFiles "." = .ok builtPackage := by cbv
  have houtput : (builtPackage.transactionPath "s.mv" obstructedFiles).1 =
      .error (.directory (.refused .notADirectory "./build/p")) := by cbv
  have hread : obstructedFiles.read "s.mv" = .ok plainScript := by cbv
  have hverify : Bytecode.Script.verify plainScript = .ok ⟨6, [], 9, 9⟩ := by decide +kernel
  have hwords : Invocation.ofWords ["create-transaction", "-c", "s.mv"] =
      .ok ⟨.createTransaction (some "s.mv") (some ".") [] [], 0⟩ :=
    Invocation.ofWords_createTransaction (by decide)
  rcases hrun : Workspace.run { files := obstructedFiles } ["create-transaction", "-c", "s.mv"]
    with ⟨outcome, after⟩
  refine ⟨after, by decide, hp, hwords, ?_⟩
  obtain ⟨performed, mid, hperform, -, -, hcases⟩ := Workspace.run_cases hwords hrun
  have htransaction : (Work.createTransaction "s.mv" [] []).runOn { files := obstructedFiles } =
      (.ok ⟨plainScript, [], []⟩, { files := obstructedFiles }) :=
    Work.runOn_createTransaction_eq_ok_iff.mpr
      ⟨rfl, plainScript, hread, ⟨_, hverify⟩, rfl, .nil, .nil⟩
  -- the transaction is there, but no place for it
  change (Work.makeTransaction (some "s.mv") (some ".") [] []).runOn _ = _ at hperform
  rw [Work.runOn_makeTransaction hp htransaction, Work.writeOutput, Work.runOn_bind,
    Work.runOn_outputPath, houtput] at hperform
  cases hperform
  obtain ⟨hsuccess, -⟩ | ⟨failure, hfailure, ⟨hreported, -⟩ | ⟨-, rfl⟩⟩ := hcases
  · cases hsuccess
  · cases hfailure
    cases hreported
  · cases hfailure
    rfl

end MovePack
