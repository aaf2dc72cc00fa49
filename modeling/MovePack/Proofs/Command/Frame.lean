/-
# What a run leaves of the files

A run that makes an artifact from the files that are there either fails, and then it has added
directories at most, or it succeeds, and then one file has changed: the one whose location it shows.
This file is none of those that have been read, unless it is made of a script that is named like a
transaction.

Two causes outside of the run end it when the artifact is being written or has been.  The system may
run out of room; then a part of the artifact is in its place.  And the location of the artifact may
be one that no output can show; then the artifact is there as a whole.
-/
import MovePack.Proofs.Command.CommandLine
import MovePack.Proofs.Command.Output

namespace MovePack

namespace Command

variable {w after : Workspace} {command : Command} {failure : Failure}

/-- The command makes an artifact from the files that are there. -/
structure MakesFromFiles (command : Command) : Prop where
  /-- An artifact is made. -/
  makes : command.makesArtifact = true
  /-- Nothing is built. -/
  builds_eq : command.builds = false

/-- The command reads the file at the path. -/
inductive Reads (fs : FileSystem) : Command → Text → Prop
  | manifest {directory name? excluded builds} :
      Reads fs (.bundle (some directory) name? excluded builds)
        (Path.join directory Package.manifestName)
  | module {directory name? excluded builds p path}
      (hp : Package.ofDirectory fs directory = .ok p) (hpath : path ∈ p.selected excluded fs) :
      Reads fs (.bundle (some directory) name? excluded builds) path
  | manifestForScript {script? directory types args} :
      Reads fs (.createTransaction script? (some directory) types args)
        (Path.join directory Package.manifestName)
  | script {script directory? types args} :
      Reads fs (.createTransaction (some script) directory? types args) script

/-- The path is that of a script which has the name that its own transaction gets. -/
inductive IsMisnamedScript : Command → Text → Prop
  | intro {script directory? types args}
      (h : Path.stem (Path.baseName script) ++ (Package.transactionExtension : Text) =
        Path.baseName script) :
      IsMisnamedScript (.createTransaction (some script) directory? types args) script

/-! ## Runs that fail -/

/-- A command that succeeds has written its output, after it has added directories at most, and has
shown where it is. -/
lemma exists_writesAt_of_perform_eq_ok (hcommand : command.MakesFromFiles)
    (h : command.perform.runOn w = (.ok (), after)) :
    ∃ find output bytes mid location, command.HasOutput w.files find ∧
      (find w.files).1 = .ok output ∧ w.files.GrowsTo mid ∧
      mid.WritesAt after.files output bytes location ∧
      after.shown = (command.caption ++ Path.ofNames location) :: w.shown := by
  have hends := ends_perform hcommand.makes w
  rw [h] at hends
  cases hends with
  | @atOutput find encoded mid _ hfind hrun _ hfiles hshown =>
    rw [filesAfterBuild_eq hcommand.builds_eq] at hfiles
    obtain ⟨_, -, hfailure, -⟩ | ⟨output, houtput, ⟨_, -, hfailure, -⟩ | ⟨bytes, -, ⟨_, _, -,
      hfailure, -⟩ | ⟨files, hwrite, hdisplay⟩⟩⟩ := Work.runOn_writeOutput_cases hrun
    · cases hfailure
    · cases hfailure
    · cases hfailure
    · obtain ⟨-, -, rfl⟩ | ⟨_, -, hfailure, -⟩ := Work.runOn_display_cases hdisplay
      · rw [hfiles] at houtput hwrite
        obtain ⟨-, hwrite⟩ := FileSystem.onPath_eq_ok_iff.mp hwrite
        obtain ⟨location, hlocation⟩ := FileSystem.exists_writesAt_of_writeAt hwrite
        refine ⟨find, output, bytes, _, location, hfind, houtput, hfind.growsTo w.files,
          hlocation, ?_⟩
        rw [FileSystem.eq_of_locate_eq_ok hlocation.locate, hshown]
        rfl
      · cases hfailure

/-! ## Names of what is read -/

/-- What is read besides a script is a manifest or a module. -/
lemma Reads.exists_baseName_eq {fs : FileSystem} {path : Text} (h : command.Reads fs path) :
    (∃ directory? types args, command = .createTransaction (some path) directory? types args) ∨
      ∃ before, Path.baseName path = before ++ (Package.manifestName : Text) ∨
        Path.baseName path = before ++ (Package.moduleExtension : Text) := by
  cases h with
  | manifest => exact .inr ⟨[], .inl (Path.baseName_join _ (by decide))⟩
  | module hp hpath =>
    obtain ⟨-, directory, name, rfl⟩ :=
      Package.isModulePath_of_mem_compiledModules (List.mem_of_mem_filter hpath)
    have hslash : Path.slash ∉ (Package.moduleExtension : Text) := by decide
    obtain ⟨before, hbefore⟩ := Path.exists_baseName_join_append directory name hslash
    exact .inr ⟨before, .inr hbefore⟩
  | manifestForScript => exact .inr ⟨[], .inl (Path.baseName_join _ (by decide))⟩
  | script => exact .inl ⟨_, _, _, rfl⟩

lemma getLast?_eq_of_append_eq {before before' ending ending' : Text} {c c' : CodePoint}
    (hc : ending.getLast? = some c) (hc' : ending'.getLast? = some c')
    (h : before ++ ending = before' ++ ending') : c = c' := by
  have hlast := congrArg List.getLast? h
  rw [List.getLast?_append, List.getLast?_append, hc, hc'] at hlast
  exact Option.some.inj hlast

/-- What has the name of an output is read as a script only. -/
lemma Reads.eq_createTransaction {fs : FileSystem} {path before : Text}
    (h : command.Reads fs path) (hname : Path.baseName path = before ++ command.outputExtension) :
    ∃ directory? types args, command = .createTransaction (some path) directory? types args := by
  have hextension : command.outputExtension.getLast? = some (.scalar 'b') ∨
      command.outputExtension.getLast? = some (.scalar 't') := by
    cases command
    · exact .inl rfl
    all_goals exact .inr rfl
  -- manifests and modules have names with other last letters
  have hmanifest : (Text.ofString Package.manifestName).getLast? = some (.scalar 'l') := rfl
  have hmodule : (Text.ofString Package.moduleExtension).getLast? = some (.scalar 'v') := rfl
  obtain hscript | ⟨before', hbefore' | hbefore'⟩ := h.exists_baseName_eq
  · exact hscript
  · rw [hbefore'] at hname
    obtain hextension | hextension := hextension
    · exact absurd (getLast?_eq_of_append_eq hmanifest hextension hname) (by decide)
    · exact absurd (getLast?_eq_of_append_eq hmanifest hextension hname) (by decide)
  · rw [hbefore'] at hname
    obtain hextension | hextension := hextension
    · exact absurd (getLast?_eq_of_append_eq hmodule hextension hname) (by decide)
    · exact absurd (getLast?_eq_of_append_eq hmodule hextension hname) (by decide)

/-- The output of a run is none of the files that it reads, unless it is the script and this has
the name of its own transaction. -/
lemma isMisnamedScript_of_reads_output {fs mid : FileSystem} {path output : Text} {bytes : Bytes}
    {location : Location} {after : FileSystem}
    {find : FileSystem → Except OutputFault Text × FileSystem} (htree : fs.IsTree)
    (hfind : command.HasOutput fs find) (houtput : (find fs).1 = .ok output)
    (hgrows : fs.GrowsTo mid) (hwrites : mid.WritesAt after output bytes location)
    (hreads : command.Reads fs path) (hlocate : fs.locate path = .ok location) :
    command.IsMisnamedScript path := by
  have hfile : fs.isDirectoryAt location = false := by
    rw [Bool.eq_false_iff]
    intro hdirectory
    have hgrown := hgrows.isDirectoryAt hdirectory
    rw [hwrites.isDirectoryAt_eq] at hgrown
    cases hgrown
  -- both paths lead to one file, so they have one last name
  have hname : Path.baseName path = Path.baseName output := by
    have hlast := htree.getLast?_of_locate hlocate hfile
    rw [hwrites.getLast?_eq] at hlast
    exact (Option.some.inj hlast).symm
  obtain ⟨before, hbefore⟩ := hfind.exists_baseName_eq houtput
  obtain ⟨directory?, types, args, rfl⟩ := hreads.eq_createTransaction (hname.trans hbefore)
  cases hfind with
  | transaction hp hread =>
    exact .intro (by rw [← Package.baseName_transactionPath houtput, ← hname])

end Command

/-! ## Runs of command lines -/

section Run

variable {w after : Workspace} {words : List Text} {invocation : Invocation}
  {outcome : Except Failure Report} {report : Report}

/-- **A run that succeeds changes the file that it shows, and no other one.**  This file is none of
those that the command reads, which keep their content, unless it is a script that has the name of
its own transaction. -/
theorem Workspace.changes_output_of_run_succeeds
    (hwords : Invocation.ofWords words = .ok invocation)
    (hcommand : invocation.command.MakesFromFiles) (htree : w.files.IsTree)
    (hrun : w.run words = (.ok report, after)) (hstatus : report.status = 0) :
    ∃ location content,
      report.output = Report.lines
        (w.shown.reverse ++ [invocation.command.caption ++ Path.ofNames location]) ∧
      after.files.find? location = some (.file content) ∧
      (∀ l content, l ≠ location → (after.files.find? l = some (.file content) ↔
        w.files.find? l = some (.file content))) ∧
      ∀ path, invocation.command.Reads w.files path →
        (w.files.locate path ≠ .ok location ∧ ∀ content, w.files.read path = .ok content →
          after.files.read path = .ok content) ∨ invocation.command.IsMisnamedScript path := by
  obtain ⟨performed, mid, hperform, hfiles, hshown, ⟨rfl, houtcome⟩ | ⟨failure, -, ⟨-, houtcome⟩ |
    ⟨-, houtcome⟩⟩⟩ := Workspace.run_cases hwords hrun
  · obtain ⟨find, output, bytes, grown, location, hfind, houtput, hgrows, hwrites, hline⟩ :=
      Command.exists_writesAt_of_perform_eq_ok hcommand hperform
    cases houtcome
    rw [hfiles]
    refine ⟨location, bytes, ?_, ?_, fun l content hl => ?_, fun path hreads => ?_⟩
    · rw [Report.ofSuccess, hshown, hline, List.reverse_cons]
    · rw [hwrites.find?_eq, if_pos rfl]
    · rw [hwrites.find?_eq, if_neg hl, hgrows.find?_eq_file_iff]
    · by_cases hlocate : w.files.locate path = .ok location
      · exact .inr (Command.isMisnamedScript_of_reads_output htree hfind houtput hgrows hwrites
          hreads hlocate)
      · refine .inl ⟨hlocate, fun content hcontent => ?_⟩
        obtain ⟨-, place, hplace, -⟩ := FileSystem.read_eq_ok_iff.mp hcontent
        have hother : grown.locate path ≠ .ok location := by
          rw [hgrows.locate hplace]
          rwa [hplace] at hlocate
        exact hwrites.read hother (hgrows.read hcontent)
  · cases houtcome
    cases hstatus
  · cases houtcome

/-- The transaction of a script is another file beside it. -/
theorem Workspace.changes_output_of_run_succeeds_plainScript : ∃ report after location content,
    Workspace.run { files := scriptFiles } ["create-transaction", "-c", "s.mv"] =
      (.ok report, after) ∧ report.status = 0 ∧ scriptFiles.IsTree ∧
    report.output = Report.lines
      ["Script transaction is created at:\n" ++ Path.ofNames location] ∧
    after.files.find? location = some (.file content) ∧
    (∀ l content, l ≠ location →
      (after.files.find? l = some (.file content) ↔
        scriptFiles.find? l = some (.file content))) ∧
    scriptFiles.locate "s.mv" ≠ .ok location ∧ after.files.read "s.mv" = .ok plainScript := by
  have hp : Package.ofDirectory scriptFiles "." = .ok ⟨".", .error (.missing "/")⟩ := by cbv
  have houtput : Package.transactionPath ⟨".", .error (.missing "/")⟩ "s.mv" scriptFiles =
      (.ok "s.mvt", scriptFiles) := by cbv
  obtain ⟨files, hwrite⟩ : ∃ files, scriptFiles.write "s.mvt" plainCall = .ok files := by
    apply Exists.intro
    cbv
  have hread : scriptFiles.read "s.mv" = .ok plainScript := by cbv
  have htree : scriptFiles.IsTree := by decide
  obtain ⟨report, after, hrun, hstatus, -⟩ := Workspace.exists_run_plainScript
    (w := { files := scriptFiles }) (by decide) hread hp (congrArg Prod.fst houtput)
    (by rwa [houtput]) (by rw [houtput]; decide)
  obtain ⟨location, content, hline, hfile, hothers, hinputs⟩ :=
    Workspace.changes_output_of_run_succeeds (Invocation.ofWords_createTransaction (by decide))
      ⟨rfl, rfl⟩ htree hrun hstatus
  obtain ⟨hlocate, hkept⟩ | hmisnamed := hinputs "s.mv" .script
  · exact ⟨report, after, location, content, hrun, hstatus, htree, hline, hfile, hothers, hlocate,
      hkept _ hread⟩
  · cases hmisnamed with
    | intro hname => exact absurd hname (by decide)

/-- A compiled script with the name of a transaction. -/
def renamedScriptFiles : FileSystem where
  entries := [(["s.mvt"], .file plainScript)]
  workingDirectory := []

/-- **A script with the name of its own transaction is overwritten with it.** -/
theorem Workspace.run_overwrites_renamedScript : ∃ report after,
    Workspace.run { files := renamedScriptFiles } ["create-transaction", "-c", "s.mvt"] =
      (.ok report, after) ∧ report.status = 0 ∧
    (Command.createTransaction (some "s.mvt") (some ".") [] []).Reads renamedScriptFiles "s.mvt" ∧
    renamedScriptFiles.read "s.mvt" = .ok plainScript ∧
    after.files.read "s.mvt" = .ok plainCall ∧ plainCall ≠ plainScript := by
  have hp : Package.ofDirectory renamedScriptFiles "." = .ok ⟨".", .error (.missing "/")⟩ := by cbv
  have houtput : Package.transactionPath ⟨".", .error (.missing "/")⟩ "s.mvt" renamedScriptFiles =
      (.ok "s.mvt", renamedScriptFiles) := by cbv
  obtain ⟨files, hwrite⟩ : ∃ files, renamedScriptFiles.write "s.mvt" plainCall = .ok files := by
    apply Exists.intro
    cbv
  have hread : renamedScriptFiles.read "s.mvt" = .ok plainScript := by cbv
  obtain ⟨report, after, hrun, hstatus, hfiles⟩ := Workspace.exists_run_plainScript
    (w := { files := renamedScriptFiles }) (by decide) hread hp (congrArg Prod.fst houtput)
    (by rwa [houtput]) (by rw [houtput]; decide)
  exact ⟨report, after, hrun, hstatus, .script, hread, hfiles ▸ FileSystem.read_of_write hwrite,
    by decide⟩

end Run

end MovePack
