/-
# Accounts on the way to a node

A command that asks a node may name an account.  The grammar allows for this with one option only,
which takes accounts in checksummed form; what it has accepted is what the command holds, and what
the query to the node has as its first parameter, character for character.  It need not be the form
of the address for any network, though.
-/
import MovePack.Proofs.Account.Spelling
import MovePack.Proofs.Command.Sending
import MovePack.Proofs.Command.Transaction
import MovePack.Proofs.Options.Reader

namespace MovePack

/-! ## Accounts on a command line -/

section Words

open Options

variable {s : Settings} {t : Text}

lemma Options.OptionSpec.ofChecksummed_of_accepts {o : OptionSpec} (hkind : o.kind = .account)
    (h : o.Accepts (.text t)) : ∃ a, Address.ofChecksummed t = .ok a := by
  obtain ⟨word, hword⟩ := h
  rw [valueOf, hkind] at hword
  dsimp only at hword
  split at hword
  next a ha =>
    cases hword
    exact ⟨a, ha⟩
  next => cases hword

namespace Command

/-- With these options, an account that the command names is what the option for accounts has been
given, which takes nothing else. -/
structure TakesAccount (options : List OptionSpec) (build : Settings → Built) : Prop where
  /-- The option takes accounts. -/
  kind : ∀ o ∈ options, o.long = "account-id" → o.kind = .account
  /-- The command has the account from the option. -/
  text : ∀ (s : Settings) (command : Command) (t : Text), build s = .ok command →
    command.account? = some t → s.text? "account-id" = some t

lemma text?_of_payerIn {payer? : Option (Option Text × Option Nat)} (h : payerIn s = .ok payer?)
    (ht : payer?.bind Prod.fst = some t) : s.text? "account-id" = some t := by
  rw [payerIn] at h
  split_ifs at h
  · cases h
    exact ht
  · cases h
    cases ht

variable {options inner : List OptionSpec} {build : Settings → Built}

/-- Options of other names may be added. -/
lemma TakesAccount.append (h : TakesAccount inner build)
    (hoptions : ∀ o ∈ options, o.long ≠ "account-id") : TakesAccount (options ++ inner) build where
  kind o ho hlong := by
    obtain ho | ho := List.mem_append.mp ho
    · exact absurd hlong (hoptions o ho)
    · exact h.kind o ho hlong
  text := h.text

lemma takesAccount_of_action {make : Settings → Command}
    (h : (CommandSpec.action options fun s => .ok (make s)).LeadsTo inner build)
    (hoptions : ∀ o ∈ options, o.long = "account-id" → o.kind = .account)
    (hmake : ∀ s t, (make s).account? = some t → s.text? "account-id" = some t) :
    TakesAccount inner build := by
  obtain ⟨rfl, rfl⟩ := leadsTo_action_iff.mp h
  refine ⟨List.forall_mem_cons.mpr ⟨by simp [OptionSpec.help], hoptions⟩, ?_⟩
  rintro s _ t ⟨⟩ ht
  exact hmake s t ht

lemma takesAccount_nodeGrammar {choice : String × CommandSpec Built} (hmem : choice ∈ nodeGrammar)
    (h : choice.2.LeadsTo options build) : TakesAccount options build := by
  simp only [nodeGrammar, List.mem_cons, List.not_mem_nil, or_false] at hmem
  obtain rfl | rfl | rfl | rfl | rfl := hmem
  · exact takesAccount_of_action h (by simp [accountOption]) (fun _ _ ht => ht)
  · exact takesAccount_of_action h (by simp [accountOption]) (fun _ _ ht => ht)
  · -- an account is given together with what it pays, or not at all
    obtain ⟨rfl, rfl⟩ := leadsTo_action_iff.mp h
    refine ⟨by simp [OptionSpec.help, accountOption], ?_⟩
    intro s command t hcommand ht
    obtain ⟨payer?, hpayer, rfl⟩ := Except.map_eq_ok_iff.mp hcommand
    exact text?_of_payerIn hpayer ht
  · exact takesAccount_of_action h (by simp) nofun
  · exact takesAccount_of_action h (by simp) nofun

lemma takesAccount_grammar (h : grammar.LeadsTo options build) : TakesAccount options build := by
  obtain ⟨choice, hmem, below, hbelow, rfl⟩ := leadsTo_group_iff.mp h
  refine TakesAccount.append ?_ (by simp [OptionSpec.help])
  simp only [List.mem_cons, List.not_mem_nil, or_false] at hmem
  obtain rfl | rfl | rfl | rfl := hmem
  · exact takesAccount_of_action hbelow (by simp [directoryOption]) nofun
  · exact takesAccount_of_action hbelow (by simp [directoryOption]) nofun
  · exact takesAccount_of_action hbelow (by simp) nofun
  · obtain ⟨rpc, hrpc, belowNode, hnode, rfl⟩ := leadsTo_group_iff.mp hbelow
    obtain rfl := List.mem_singleton.mp hrpc
    obtain ⟨request, hrequest, belowRpc, hleads, rfl⟩ := leadsTo_group_iff.mp hnode
    have hinner := takesAccount_nodeGrammar hrequest hleads
    exact (hinner.append (by simp [OptionSpec.help])).append (by simp [OptionSpec.help])

end Command

/-- An account that is named on a command line has been read as an address. -/
theorem Invocation.exists_ofChecksummed_of_ofWords {words : List Text} {invocation : Invocation}
    (h : ofWords words = .ok invocation) (ht : invocation.command.account? = some t) :
    ∃ a, Address.ofChecksummed t = .ok a := by
  obtain ⟨reading, hreading, h⟩ := Except.bind_eq_ok_iff.mp h
  split at h
  next =>
    split at h
    next command hbuild =>
      cases h
      obtain ⟨options, hleads, hsettings⟩ := Command.grammar.isOf_of_read hreading
      have htakes := Command.takesAccount_grammar hleads
      obtain ⟨o, ho, hlong, haccepts⟩ := hsettings.exists_of_text?
        (htakes.text _ _ _ hbuild ht)
      exact o.ofChecksummed_of_accepts (htakes.kind o ho hlong) haccepts
    next => cases h
  next => cases h

end Words

/-! ## Asking for the gas of a module -/

namespace Invocation

open Options

/-- The option for the path of a module. -/
def moduleOption : OptionSpec := { short? := some 'm', long := "module-path", isRequired := true }

/-- The options of the command for the gas of a module. -/
def moduleOptions : List OptionSpec := [.help, Command.accountOption true, moduleOption]

/-- The words that ask for the gas of a module on behalf of an account. -/
def moduleWords (account path : Text) : List Text :=
  ["node", "rpc", "estimate-gas-publish-module", "-a", account, "-m", path]

/-- What these words come to. -/
def moduleReading (account path : Text) : Reading Command.Built where
  build s := .ok (Command.asking s
    (.publishModule (s.text? "account-id") (s.text? "module-path")))
  settings := [("account-id", [.text account]), ("module-path", [.text path])]
  extras := []

variable {account path : Text} {a : Address}

lemma scan_module (hread : Address.ofChecksummed account = .ok a) (command : Text) :
    scan command moduleOptions false
        [("-a", .option (Command.accountOption true) "-a" none), (account, .value),
          ("-m", .option moduleOption "-m" none), (path, .value)] {} =
      .ok (⟨(moduleReading account path).settings, []⟩, []) := by
  rw [scan]
  simp [optionsIn, inCommand, OptionSpec.take, Command.accountOption, moduleOption, giveAll,
    OptionSpec.give, OptionSpec.valueOf, scan, bind, Except.bind, pure, Except.pure,
    OptionSpec.help, hread, moduleReading]

lemma read_module (hread : Address.ofChecksummed account = .ok a)
    (haccount : account.head? ≠ some hyphen) (hpath : path.head? ≠ some hyphen) (command : Text) :
    (CommandSpec.action [Command.accountOption true, moduleOption]
      (moduleReading account path).build).read command ((moduleWords account path).drop 3) =
      .ok (moduleReading account path) := by
  have hseparator : ∀ word : Text, word.head? ≠ some hyphen → word ≠ separator := by
    rintro _ hword rfl
    exact hword rfl
  have hoptions :
      classify moduleOptions "-a" = .ok (.option (Command.accountOption true) "-a" none) ∧
        classify moduleOptions "-m" = .ok (.option moduleOption "-m" none) := by
    constructor <;> cbv
  have hwords : ("-a" : Text) ≠ separator ∧ ("-m" : Text) ≠ separator := by decide
  have hclassified : classifyAll moduleOptions ["-a", account, "-m", path] =
      .ok [("-a", .option (Command.accountOption true) "-a" none), (account, .value),
        ("-m", .option moduleOption "-m" none), (path, .value)] := by
    simp [classifyAll, hwords, hoptions, hseparator, haccount, hpath, classify_of_head?_ne,
      bind, Except.bind, pure, Except.pure]
  have hmissing : missing moduleOptions (moduleReading account path).settings = [] := by
    simp [missing, moduleOptions, moduleOption, Command.accountOption, OptionSpec.help,
      Settings.has, moduleReading]
  exact CommandSpec.read_action hclassified (scan_module hread command) hmissing

/-- For the commands around it, the options of the command are unknown, and all else is a value. -/
lemma exists_classify_of_mem_moduleWords (haccount : account.head? ≠ some hyphen)
    (hpath : path.head? ≠ some hyphen) {word : Text} (hword : word ∈ moduleWords account path)
    {options : List OptionSpec}
    (hoptions : options ∈ [[.help], [.help, { long := "url" }],
      [.help, { short? := some 'v', long := "verbose", arity := .none }]]) :
    ∃ kind, classify options word = .ok kind := by
  by_cases hhyphen : word.head? = some hyphen
  · have hcases : word = "-a" ∨ word = "-m" := by
      simp only [moduleWords, List.mem_cons, List.not_mem_nil, or_false] at hword
      obtain rfl | rfl | rfl | rfl | rfl | rfl | rfl := hword
      · exact absurd hhyphen (by decide)
      · exact absurd hhyphen (by decide)
      · exact absurd hhyphen (by decide)
      · exact .inl rfl
      · exact absurd hhyphen haccount
      · exact .inr rfl
      · exact absurd hhyphen hpath
    refine ⟨.unknown, ?_⟩
    simp only [List.mem_cons, List.not_mem_nil, or_false] at hoptions
    obtain rfl | rfl | rfl := hoptions <;> obtain rfl | rfl := hcases <;> cbv
  · exact ⟨.value, classify_of_head?_ne hhyphen⟩

/-- The gas for publishing a module on behalf of an account is asked for by both, unless they look
like options. -/
lemma ofWords_moduleWords (hread : Address.ofChecksummed account = .ok a)
    (haccount : account.head? ≠ some hyphen) (hpath : path.head? ≠ some hyphen) :
    ofWords (moduleWords account path) =
      .ok ⟨.ask .usual (.publishModule (some account) (some path)), 0⟩ := by
  have hrpc : ∀ command, (CommandSpec.group [] "rpc_command" Command.nodeGrammar).read command
      ((moduleWords account path).drop 2) = .ok (moduleReading account path) := by
    intro command
    refine CommandSpec.read_group (by decide) (fun word hword => ?_) rfl ?_
    · have hmem : word ∈ (moduleWords account path).drop 3 := hword
      exact exists_classify_of_mem_moduleWords haccount hpath (List.mem_of_mem_drop hmem) (by simp)
    · rw [Command.nodeGrammar, readChoice, if_pos rfl]
      exact read_module hread haccount hpath _
  have hnode : ∀ command, (CommandSpec.group [{ long := "url" }] "node_command"
        [("rpc", .group [] "rpc_command" Command.nodeGrammar)]).read command
      ((moduleWords account path).drop 1) = .ok (moduleReading account path) := by
    intro command
    refine CommandSpec.read_group (by decide) (fun word hword => ?_) rfl ?_
    · have hmem : word ∈ (moduleWords account path).drop 2 := hword
      exact exists_classify_of_mem_moduleWords haccount hpath (List.mem_of_mem_drop hmem) (by simp)
    · rw [readChoice, if_pos rfl]
      exact hrpc _
  have hprogram : Command.grammar.read Command.programName (moduleWords account path) =
      .ok (moduleReading account path) := by
    refine CommandSpec.read_group (by decide) (fun word hword => ?_) rfl ?_
    · have hmem : word ∈ (moduleWords account path).drop 1 := hword
      exact exists_classify_of_mem_moduleWords haccount hpath (List.mem_of_mem_drop hmem) (by simp)
    · rw [readChoice, if_neg (by decide), readChoice, if_neg (by decide), readChoice,
        if_neg (by decide), readChoice, if_pos rfl]
      exact hnode _
  rw [ofWords, hprogram]
  rfl

end Invocation

/-- The query is sent when the module can be read and the address of the node leads somewhere. -/
lemma Workspace.sent_run_moduleWords {w : Workspace} {account path : Text} {a : Address}
    {content : Bytes} {target? : Option Text} (hread : Address.ofChecksummed account = .ok a)
    (haccount : account.head? ≠ some Options.hyphen) (hpath : path.head? ≠ some Options.hyphen)
    (hcontent : w.files.read path = .ok content) (htimeout : w.timeoutSetting? = none)
    (htarget : Session.relativeTarget? w.nodeUrl = .ok target?) :
    (w.run (Invocation.moduleWords account path)).2.sent =
      (Query.publishModule (some account) content).body (w.sent.length + 1) :: w.sent := by
  have hseconds : Timeout.ofSetting w.timeoutSetting? = .ok Timeout.standard := by
    rw [htimeout, Timeout.ofSetting]
  have hquery : (Work.queryOf (.publishModule (some account) (some path))).runOn w =
      (.ok (.publishModule (some account) content), w) := by
    simp only [Work.queryOf, Work.readGiven, Work.runOn_bind, Work.runOn_givenPath,
      Work.runOn_read, Artifact.read_eq_ok_iff.mpr hcontent, Except.mapError, Work.runOn_pure]
  rw [run, Invocation.ofWords_moduleWords hread haccount hpath]
  exact (Invocation.sent_run _ _).trans (Work.sent_askNode hseconds hquery rfl htarget)

/-! ## Accounts that a node is sent -/

/-- **What is read as an address is a form of it exactly when it is plain, and an account that a node
is sent has been read that way.**  Up to white space at its end the text is a spelling of the address
in any case.  What a run sends to a node is the body of one query at most; an account in it is that of
the command, character for character. -/
theorem Workspace.run_sends_read_account (t : Text) (a : Address) (w : Workspace)
    (words : List Text) (hread : Address.ofChecksummed t = .ok a) :
    t.dropEndWhile CodePoint.isBlank = Address.spelling (Address.networkIn t) a ∧
      (a.IsForm t ↔ Address.IsPlain t) ∧
      ((w.run words).2.sent = w.sent ∨
        ∃ (invocation : Invocation) (q : Query), Invocation.ofWords words = .ok invocation ∧
          (w.run words).2.sent = q.body (w.sent.length + 1) :: w.sent ∧
          q.account? = invocation.command.account? ∧
          ∀ account, q.account? = some account → q.parameters.head? = some (.str account) ∧
            ∃ b : Address, Address.ofChecksummed account = .ok b ∧
              (b.IsForm account ↔ Address.IsPlain account)) := by
  refine ⟨Address.dropEndWhile_eq_spelling hread, Address.isForm_iff_isPlain hread, ?_⟩
  obtain hsent | ⟨invocation, q, hwords, hsame, hsent⟩ := w.sent_run words
  · exact .inl hsent
  · refine .inr ⟨invocation, q, hwords, hsent, hsame, fun account haccount => ?_⟩
    obtain ⟨b, hb⟩ := Invocation.exists_ofChecksummed_of_ofWords hwords (hsame ▸ haccount)
    exact ⟨Query.head?_parameters haccount, b, hb, Address.isForm_iff_isPlain hb⟩

/-! ## One account in three spellings -/

/-- The address of an account. -/
def aliceAddress : Address :=
  ⟨[0xd4, 0x35, 0x93, 0xc7, 0x15, 0xfd, 0xd3, 0x1c, 0x61, 0x14, 0x1a, 0xbd, 0x04, 0xa9, 0x9f, 0xd6,
    0x82, 0x2c, 0x85, 0x58, 0x85, 0x4c, 0xcd, 0xe3, 0x9a, 0x56, 0x84, 0xe7, 0xa5, 0x6d, 0xa2,
    0x7d], rfl⟩

/-- Its form for the network 42. -/
def aliceText : Text := "5GrwvaEF5zXb26Fz9rcQpDWS57CtERHpNehXCPcNoHGKutQY"

/-- The same network in two bytes. -/
def alicePaddedText : Text := "Zp5wgt7iipcBBD8qrDbgQerUy6vWeg3np21675SE43SmZaPo9"

lemma spelling_aliceAddress : Address.spelling [42] aliceAddress = aliceText := by decide +kernel

lemma spelling_padded_aliceAddress :
    Address.spelling (Address.twoBytes 0 10 2) aliceAddress = alicePaddedText := by decide +kernel

lemma isForm_aliceText : aliceAddress.IsForm aliceText :=
  ⟨42, by decide, by decide,
    Address.toChecksummed_eq_ok_iff.mpr ⟨42, rfl, by decide, spelling_aliceAddress.symm⟩⟩

/-- The text is read with white space at its end, too. -/
lemma ofChecksummed_alice {t : Text} (h : t.dropEndWhile CodePoint.isBlank = aliceText) :
    Address.ofChecksummed t = .ok aliceAddress :=
  Address.ofChecksummed_eq_ok_iff.mpr
    ⟨[42], Address.isNetwork_singleton (by decide), h.trans spelling_aliceAddress.symm⟩

/-- Asked for with a script in the place of a module, the form of the address is sent as it is. -/
theorem Workspace.run_sends_read_account_alice : ∃ q : Query,
    (Workspace.run { files := scriptFiles } (Invocation.moduleWords aliceText "s.mv")).2.sent =
      [q.body 1] ∧
    q.parameters.head? = some (.str aliceText) ∧ aliceAddress.IsForm aliceText ∧
    Address.IsPlain aliceText := by
  have hread := ofChecksummed_alice (t := aliceText) (by decide)
  have hpath : ("s.mv" : Text).head? ≠ some Options.hyphen := by decide
  have hcontent : scriptFiles.read "s.mv" = .ok plainScript := by cbv
  have htarget : Session.relativeTarget? Workspace.usualNodeUrl = .ok none := by cbv
  have hsent := sent_run_moduleWords (w := { files := scriptFiles }) hread (by decide) hpath
    hcontent rfl htarget
  obtain ⟨-, hplain, hnothing | ⟨invocation, q, hinvocation, hbody, haccount, hparameters⟩⟩ :=
    run_sends_read_account aliceText aliceAddress { files := scriptFiles }
      (Invocation.moduleWords aliceText "s.mv") hread
  · cases hnothing.symm.trans hsent
  · have hwords := Invocation.ofWords_moduleWords hread (by decide) hpath
    obtain rfl := Except.ok.inj (hwords.symm.trans hinvocation)
    exact ⟨q, hbody, (hparameters _ haccount).1, isForm_aliceText, hplain.mp isForm_aliceText⟩

/-- A space at the end is accepted and passed on, and so is a network below 64 in two bytes: neither
text is a form of the address that is read from it. -/
theorem Workspace.run_sends_unplain_account :
    (Address.ofChecksummed (aliceText ++ " ") = .ok aliceAddress ∧
      ¬ aliceAddress.IsForm (aliceText ++ " ") ∧
      Invocation.ofWords (Invocation.moduleWords (aliceText ++ " ") "s.mv") =
        .ok ⟨.ask .usual (.publishModule (some (aliceText ++ " ")) (some "s.mv")), 0⟩) ∧
    Address.ofChecksummed alicePaddedText = .ok aliceAddress ∧
      ¬ aliceAddress.IsForm alicePaddedText ∧
      Invocation.ofWords (Invocation.moduleWords alicePaddedText "s.mv") =
        .ok ⟨.ask .usual (.publishModule (some alicePaddedText) (some "s.mv")), 0⟩ := by
  have hblank : Address.ofChecksummed (aliceText ++ " ") = .ok aliceAddress :=
    ofChecksummed_alice (by decide)
  have hnetwork : Address.IsNetwork (Address.twoBytes 0 10 2) :=
    Address.isNetwork_twoBytes (by decide)
  have hspelling : alicePaddedText.dropEndWhile CodePoint.isBlank =
      Address.spelling (Address.twoBytes 0 10 2) aliceAddress := by
    rw [← spelling_padded_aliceAddress, Address.dropEndWhile_spelling]
  have hpadded : Address.ofChecksummed alicePaddedText = .ok aliceAddress :=
    Address.ofChecksummed_eq_ok_iff.mpr ⟨_, hnetwork, hspelling⟩
  refine ⟨⟨hblank, fun hform => ?_, ?_⟩, hpadded, fun hform => ?_, ?_⟩
  · have hend := ((Address.isForm_iff_isPlain hblank).mp hform).1 (.scalar ' ') (by decide)
    exact absurd hend (by decide)
  · exact Invocation.ofWords_moduleWords hblank (by decide) (by decide)
  · have hplain := ((Address.isForm_iff_isPlain hpadded).mp hform).2
    rw [Address.networkIn_eq hnetwork hspelling] at hplain
    exact hplain (by decide)
  · exact Invocation.ofWords_moduleWords hpadded (by decide) (by decide)

end MovePack
