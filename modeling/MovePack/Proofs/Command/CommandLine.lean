/-
# Runs of command lines

A command line that asks for a command does with the files what the command does.  What is seen of
the run depends on whether the command fails, and whether commands report this failure.
-/
import MovePack.Command.Report
import MovePack.Proofs.Command.Transaction
import MovePack.Proofs.Options.Reader

namespace MovePack

lemma Report.lines_singleton (t : Text) : lines [t] = t ++ "\n" := by
  rw [lines, List.flatMap_singleton]

/-- What a command line comes to is what its command comes to, as far as the files go; a failure is
reported or not. -/
lemma Workspace.run_cases {w after : Workspace} {words : List Text} {invocation : Invocation}
    {outcome : Except Failure Report} (hwords : Invocation.ofWords words = .ok invocation)
    (h : w.run words = (outcome, after)) :
    ∃ performed mid, invocation.command.perform.runOn w = (performed, mid) ∧
      after.files = mid.files ∧ after.shown = mid.shown ∧
      ((performed = .ok () ∧ outcome = .ok (.ofSuccess invocation.verbosity after)) ∨
        ∃ failure, performed = .error failure ∧
          ((failure.isReported = true ∧
              outcome = .ok (.ofFailure invocation.verbosity failure after)) ∨
            (failure.isReported = false ∧ outcome = .error failure))) := by
  rw [Workspace.run, hwords] at h
  simp only [Invocation.run] at h
  rw [← Work.runOn] at h
  rcases hrun : invocation.command.perform.runOn w with ⟨failure | _, mid⟩
  · rw [hrun] at h
    dsimp only at h
    split_ifs at h with hreported
    · cases h
      exact ⟨_, _, rfl, rfl, rfl, .inr ⟨failure, rfl, .inl ⟨hreported, rfl⟩⟩⟩
    · cases h
      exact ⟨_, _, rfl, rfl, rfl, .inr ⟨failure, rfl, .inr ⟨by simpa using hreported, rfl⟩⟩⟩
  · rw [hrun] at h
    cases h
    exact ⟨_, _, rfl, rfl, rfl, .inl ⟨rfl, rfl⟩⟩

/-! ## Asking for a transaction -/

namespace Invocation

open Options

/-- The option for a compiled script. -/
def scriptOption : OptionSpec :=
  { short? := some 'c', long := "compiled-script-path", isRequired := true }

/-- The options of the command for transactions. -/
def transactionOptions : List OptionSpec :=
  [.help, scriptOption, Command.directoryOption, { long := "type-args", arity := .many },
    { long := "args", arity := .many }]

/-- What a compiled script comes to as the only thing that is given. -/
def scriptReading (script : Text) : Reading Command.Built where
  build s := .ok (.createTransaction (s.text? "compiled-script-path") (Command.directoryIn s)
    (s.texts "type-args") (s.texts "args"))
  settings := [(scriptOption.long, [.text script])]
  extras := []

lemma scan_script (command script : Text) :
    scan command transactionOptions false
        [("-c", .option scriptOption "-c" none), (script, .value)] {} =
      .ok (⟨(scriptReading script).settings, []⟩, []) := by
  rw [scan]
  simp [scriptReading, optionsIn, inCommand, OptionSpec.take, scriptOption, giveAll, OptionSpec.give,
    OptionSpec.valueOf, scan, bind, Except.bind, pure, Except.pure, OptionSpec.help]

/-- The transaction of a script is asked for by the path of the script, unless this looks like an
option. -/
lemma ofWords_createTransaction {script : Text} (h : script.head? ≠ some hyphen) :
    ofWords ["create-transaction", "-c", script] =
      .ok ⟨.createTransaction (some script) (some ".") [] [], 0⟩ := by
  have hscript : script ≠ separator := by
    rintro rfl
    exact h rfl
  have hoption : classify transactionOptions "-c" = .ok (.option scriptOption "-c" none) := by cbv
  have hclassified : classifyAll transactionOptions ["-c", script] =
      .ok [("-c", .option scriptOption "-c" none), (script, .value)] := by
    have hname : ("-c" : Text) ≠ separator := by decide
    simp [classifyAll, hname, hscript, hoption, classify_of_head?_ne h, bind, Except.bind, pure,
      Except.pure]
  have hmissing : missing transactionOptions (scriptReading script).settings = [] := by
    simp [missing, scriptReading, transactionOptions, scriptOption, OptionSpec.help,
      Command.directoryOption, Settings.has]
  -- the option belongs to the command, not to the program
  have hunknown : classify [.help, { short? := some 'v', long := "verbose", arity := .none }] "-c" =
      .ok .unknown := by cbv
  have hreading : Command.grammar.read Command.programName ["create-transaction", "-c", script] =
      .ok (scriptReading script) := by
    refine CommandSpec.read_group (by decide) ?_ rfl ?_
    · exact List.forall_mem_cons.mpr ⟨⟨_, hunknown⟩,
        List.forall_mem_singleton.mpr ⟨_, classify_of_head?_ne h⟩⟩
    · rw [readChoice, if_neg (by decide), readChoice, if_pos rfl]
      exact CommandSpec.read_action hclassified (scan_script _ script) hmissing
  rw [ofWords, hreading]
  rfl

end Invocation

/-! ## A script without parameters -/

/-- The serialized form of the call of a script without parameters. -/
def plainCall : Bytes := 13 :: plainScript ++ [0, 0]

/-- The call of a script without parameters is written wherever there is a place for it. -/
lemma Workspace.exists_run_plainScript {w : Workspace} {script output : Text} {p : Package}
    {files : FileSystem} (hscript : script.head? ≠ some Options.hyphen)
    (hread : w.files.read script = .ok plainScript)
    (hp : Package.ofDirectory w.files "." = .ok p)
    (houtput : (p.transactionPath script w.files).1 = .ok output)
    (hwrite : (p.transactionPath script w.files).2.write output plainCall = .ok files)
    (hlocation : ∀ c ∈ Path.real (p.transactionPath script w.files).2.workingDirectory output,
      c.isSurrogate = false) :
    ∃ report after, w.run ["create-transaction", "-c", script] = (.ok report, after) ∧
      report.status = 0 ∧ after.files = files := by
  have hverify : Bytecode.Script.verify plainScript = .ok ⟨6, [], 9, 9⟩ := by decide +kernel
  have hencode : ScriptTransaction.encode ⟨plainScript, [], []⟩ = .ok plainCall := by
    decide +kernel
  rw [← FileSystem.workingDirectory_of_write hwrite] at hlocation
  obtain ⟨mid, hmid, rfl⟩ := (Work.makeTransaction_eq_ok_iff_of_isCallOf hread hverify
    ⟨rfl, .nil, .nil⟩ hencode).mpr ⟨p, output, hp, houtput, hwrite, hlocation⟩
  rcases hrun : w.run ["create-transaction", "-c", script] with ⟨outcome, after⟩
  obtain ⟨performed, mid', hperform, hfiles, -, hcases⟩ :=
    Workspace.run_cases (Invocation.ofWords_createTransaction hscript) hrun
  change (Work.makeTransaction (some script) (some ".") [] []).runOn w = _ at hperform
  rw [hmid] at hperform
  cases hperform
  obtain ⟨-, rfl⟩ | ⟨failure, hfailure, -⟩ := hcases
  · exact ⟨_, after, rfl, rfl, hfiles⟩
  · cases hfailure

end MovePack
