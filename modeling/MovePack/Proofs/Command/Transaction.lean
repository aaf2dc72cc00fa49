/-
# Making the transaction of a script

What the command for transactions writes is decided by the script and by the texts that the script
is called with, each on its own and in the given order.  It writes whenever the script has the
right shape, each type argument names a type tag, each argument can be read, and there is a place
for the output.
-/
import Mathlib
import MovePack.Proofs.Codec.RoundTrip
import MovePack.Proofs.Command.Workspace
import MovePack.Proofs.Types.Signature

namespace MovePack

namespace ScriptTransaction

variable {binary : Bytes} {types args : List Text} {tx tx' : ScriptTransaction}

/-- The transaction calls the script with the arguments that the texts stand for. -/
structure IsCallOf (tx : ScriptTransaction) (binary : Bytes) (types args : List Text) : Prop where
  /-- The bytecode is the script. -/
  bytecode_eq : tx.bytecode = binary
  /-- Each argument holds the bytes of the text at its place. -/
  args : List.Forall₂ (fun text bytes => ∃ a, Argument.ofText text = .ok a ∧ a.bytes = bytes)
    args tx.args
  /-- Each type argument is the tag that the text at its place names. -/
  typeArgs : List.Forall₂ (fun text tag => TypeTag.ofText? text = some tag) types tx.typeArgs

lemma typeTags_eq_ok_iff {a : List Argument} {tags : List TypeTag} :
    ScriptArguments.typeTags ⟨types.map MoveType.ofText, a⟩ = .ok tags ↔
      List.Forall₂ (fun text tag => TypeTag.ofText? text = some tag) types tags := by
  simp only [ScriptArguments.typeTags, Except.mapM_eq_ok_iff, List.forall₂_map_left_iff,
    MoveType.toTypeTag_eq_ok_iff, MoveType.toTypeTag?_ofText]

lemma create_eq_ok_iff {a : ScriptArguments} :
    create binary a = .ok tx ↔ (∃ header, Bytecode.Script.verify binary = .ok header) ∧
      tx.bytecode = binary ∧ a.args.map Argument.bytes = tx.args ∧
      a.typeTags = .ok tx.typeArgs := by
  obtain ⟨bytecode, args, typeArgs⟩ := tx
  rw [create]
  cases Bytecode.Script.verify binary with
  | error fault => simp
  | ok header =>
    cases a.typeTags with
    | error fault => simp
    | ok tags => simp [eq_comm]

lemma ofTexts_eq_ok_iff {a : ScriptArguments} :
    ScriptArguments.ofTexts types args = .ok a ↔
      a.types = types.map MoveType.ofText ∧ args.mapM Argument.ofText = .ok a.args := by
  obtain ⟨types', args'⟩ := a
  simp only [ScriptArguments.ofTexts, Except.bind_eq_ok_iff]
  constructor
  · rintro ⟨_, hargs, h⟩
    cases h
    exact ⟨rfl, hargs⟩
  · rintro ⟨rfl, hargs⟩
    exact ⟨_, hargs, rfl⟩

/-- A transaction is created when the binary has the shape of a script and each text can be
read. -/
lemma exists_create_eq_ok_iff :
    (∃ a, ScriptArguments.ofTexts types args = .ok a ∧ create binary a = .ok tx) ↔
      (∃ header, Bytecode.Script.verify binary = .ok header) ∧ tx.IsCallOf binary types args := by
  simp only [ofTexts_eq_ok_iff, create_eq_ok_iff]
  constructor
  · rintro ⟨⟨_, a⟩, ⟨rfl, hargs⟩, hverify, hbytecode, hbytes, htypes⟩
    exact ⟨hverify, hbytecode, Except.exists_mapM_eq_ok_and_map_eq_iff.mp ⟨a, hargs, hbytes⟩,
      typeTags_eq_ok_iff.mp htypes⟩
  · rintro ⟨hverify, hbytecode, hargs, htypes⟩
    obtain ⟨a, hargs, hbytes⟩ := Except.exists_mapM_eq_ok_and_map_eq_iff.mpr hargs
    exact ⟨⟨_, a⟩, ⟨rfl, hargs⟩, hverify, hbytecode, hbytes, typeTags_eq_ok_iff.mpr htypes⟩

/-- Texts stand for one call of a script only. -/
lemma IsCallOf.unique (h : tx.IsCallOf binary types args) (h' : tx'.IsCallOf binary types args) :
    tx = tx' := by
  have hargs : tx.args = tx'.args := by
    refine List.right_unique_forall₂' ?_ h.args h'.args
    rintro text _ _ ⟨a, ha, rfl⟩ ⟨a', ha', rfl⟩
    obtain rfl := Except.ok.inj (ha.symm.trans ha')
    rfl
  have htypes : tx.typeArgs = tx'.typeArgs := by
    refine List.right_unique_forall₂' ?_ h.typeArgs h'.typeArgs
    intro text tag tag' htag htag'
    exact Option.some.inj (htag.symm.trans htag')
  obtain ⟨bytecode, txArgs, typeArgs⟩ := tx
  obtain ⟨bytecode', txArgs', typeArgs'⟩ := tx'
  rw [mk.injEq]
  exact ⟨h.bytecode_eq.trans h'.bytecode_eq.symm, hargs, htypes⟩

/-- There is a call for texts that can each be read. -/
lemma exists_isCallOf (binary : Bytes)
    (htypes : ∀ text ∈ types, ∃ tag, (MoveType.ofText text).toTypeTag = .ok tag)
    (hargs : ∀ text ∈ args, ∃ a, Argument.ofText text = .ok a) :
    ∃ tx : ScriptTransaction, tx.IsCallOf binary types args := by
  obtain ⟨a, ha⟩ := Except.exists_mapM_eq_ok hargs
  obtain ⟨tags, htags⟩ := Except.exists_mapM_eq_ok htypes
  simp only [Except.mapM_eq_ok_iff, MoveType.toTypeTag_eq_ok_iff, MoveType.toTypeTag?_ofText]
    at htags
  exact ⟨⟨binary, a.map Argument.bytes, tags⟩, rfl,
    Except.exists_mapM_eq_ok_and_map_eq_iff.mp ⟨a, ha, rfl⟩, htags⟩

lemma IsCallOf.fits (h : tx.IsCallOf binary types args) (hbinary : binary.length ≤ Codec.maxCount)
    (htypes : types.length ≤ Codec.maxCount) (hargs : args.length ≤ Codec.maxCount)
    (hbytes : ∀ text ∈ args, ∃ a, Argument.ofText text = .ok a ∧
      a.bytes.length ≤ Codec.maxCount) : tx.Fits where
  bytecode_le := h.bytecode_eq ▸ hbinary
  args_le := by
    refine ⟨h.args.length_eq ▸ hargs, fun bytes hmem => ?_⟩
    obtain ⟨text, htext, a, ha, rfl⟩ := h.args.exists_of_mem_right hmem
    obtain ⟨a', ha', hlength⟩ := hbytes text htext
    obtain rfl := Except.ok.inj (ha.symm.trans ha')
    exact hlength
  typeArgs_le := h.typeArgs.length_eq ▸ htypes

end ScriptTransaction

namespace Work

variable {w after : Workspace} {script directory : Text} {types args : List Text}

lemma runOn_createTransaction_eq_ok_iff {tx : ScriptTransaction} :
    (createTransaction script types args).runOn w = (.ok tx, after) ↔
      after = w ∧ ∃ binary, w.files.read script = .ok binary ∧
        (∃ header, Bytecode.Script.verify binary = .ok header) ∧
        tx.IsCallOf binary types args := by
  simp only [← ScriptTransaction.exists_create_eq_ok_iff, createTransaction, runOn_bind_eq_ok_iff,
    runOn_read, runOn_orFail, Prod.mk.injEq, Except.mapError_eq_ok_iff, Artifact.read_eq_ok_iff]
  constructor
  · rintro ⟨binary, _, ⟨hread, rfl⟩, a, _, ⟨ha, rfl⟩, htx, rfl⟩
    exact ⟨rfl, binary, hread, a, ha, htx⟩
  · rintro ⟨rfl, binary, hread, a, ha, htx⟩
    exact ⟨binary, _, ⟨hread, rfl⟩, a, _, ⟨ha, rfl⟩, htx, rfl⟩

/-- A transaction that has been created is what the output is made of. -/
lemma runOn_makeTransaction {p : Package} {tx : ScriptTransaction}
    (hp : Package.ofDirectory w.files directory = .ok p)
    (htx : (createTransaction script types args).runOn w = (.ok tx, w)) :
    (makeTransaction (some script) (some directory) types args).runOn w =
      (writeOutput (p.transactionPath script) tx.encode "Script transaction is created at:\n").runOn
        { w with log := ⟨.info, "Created " ++ tx.toText⟩ :: w.log } := by
  simp only [makeTransaction, runOn_bind, runOn_givenPath, runOn_openPackage, hp, Except.mapError,
    htx, runOn_record]
  rfl

/-- The command succeeds when there is a transaction for what it is given, the output can be
written, and its location is text. -/
lemma makeTransaction_eq_ok_iff {files : FileSystem} :
    (∃ after, (makeTransaction (some script) (some directory) types args).runOn w =
        (.ok (), after) ∧ after.files = files) ↔
      ∃ (p : Package) (binary : Bytes) (tx : ScriptTransaction) (output : Text) (bytes : Bytes),
        Package.ofDirectory w.files directory = .ok p ∧
        w.files.read script = .ok binary ∧
        (∃ header, Bytecode.Script.verify binary = .ok header) ∧ tx.IsCallOf binary types args ∧
        (p.transactionPath script w.files).1 = .ok output ∧ tx.encode = .ok bytes ∧
        (p.transactionPath script w.files).2.write output bytes = .ok files ∧
        ∀ c ∈ Path.real files.workingDirectory output, c.isSurrogate = false := by
  have hcaption : ∀ c ∈ ("Script transaction is created at:\n" : Text), c.isSurrogate = false := by
    decide
  simp only [makeTransaction, runOn_bind_eq_ok_iff, runOn_givenPath, runOn_openPackage,
    runOn_createTransaction_eq_ok_iff, runOn_record, Prod.mk.injEq, Except.ok.injEq,
    Except.mapError_eq_ok_iff]
  constructor
  · rintro ⟨after, ⟨_, _, ⟨rfl, rfl⟩, p, _, ⟨hp, rfl⟩, _, _, ⟨rfl, rfl⟩, tx, _,
      ⟨rfl, binary, hread, hverify, htx⟩, _, _, ⟨-, rfl⟩, hwrite⟩, rfl⟩
    obtain ⟨output, bytes, houtput, hbytes, hfiles⟩ :=
      (runOn_writeOutput_eq_ok_iff hcaption).mp ⟨after, hwrite, rfl⟩
    exact ⟨p, binary, tx, output, bytes, hp, hread, hverify, htx, houtput, hbytes, hfiles⟩
  · rintro ⟨p, binary, tx, output, bytes, hp, hread, hverify, htx, houtput, hbytes, hfiles⟩
    -- what is recorded before the output is written leaves the files as they are
    let mid : Workspace := { w with log := [⟨.info, "Created " ++ tx.toText⟩].reverse ++ w.log }
    obtain ⟨after, hwrite, rfl⟩ := (runOn_writeOutput_eq_ok_iff (w := mid) hcaption).mpr
      ⟨output, bytes, houtput, hbytes, hfiles⟩
    exact ⟨after, ⟨directory, w, ⟨rfl, rfl⟩, p, w, ⟨hp, rfl⟩, script, w, ⟨rfl, rfl⟩, tx, w,
      ⟨rfl, binary, hread, hverify, htx⟩, (), mid, ⟨trivial, rfl⟩, hwrite⟩, rfl⟩

/-- A transaction that can be written has changed the files, whether or not its location is
shown. -/
lemma files_eq_of_makeTransaction {p : Package} {tx : ScriptTransaction} {output : Text}
    {bytes : Bytes} {files : FileSystem} {outcome : Except Failure Unit}
    (hp : Package.ofDirectory w.files directory = .ok p)
    (htx : (createTransaction script types args).runOn w = (.ok tx, w))
    (houtput : (p.transactionPath script w.files).1 = .ok output) (hbytes : tx.encode = .ok bytes)
    (hwrite : (p.transactionPath script w.files).2.write output bytes = .ok files)
    (h : (makeTransaction (some script) (some directory) types args).runOn w = (outcome, after)) :
    after.files = files := by
  rw [runOn_makeTransaction hp htx] at h
  exact files_eq_of_runOn_writeOutput (w := { w with log := _ :: w.log }) houtput hbytes hwrite h

/-- For texts that stand for a call of the script, success depends on package and output alone. -/
lemma makeTransaction_eq_ok_iff_of_isCallOf {binary bytes : Bytes} {header : Bytecode.Header}
    {tx : ScriptTransaction} {files : FileSystem} (hread : w.files.read script = .ok binary)
    (hverify : Bytecode.Script.verify binary = .ok header) (htx : tx.IsCallOf binary types args)
    (hencode : tx.encode = .ok bytes) :
    (∃ after, (makeTransaction (some script) (some directory) types args).runOn w =
        (.ok (), after) ∧ after.files = files) ↔
      ∃ p output, Package.ofDirectory w.files directory = .ok p ∧
        (p.transactionPath script w.files).1 = .ok output ∧
        (p.transactionPath script w.files).2.write output bytes = .ok files ∧
        ∀ c ∈ Path.real files.workingDirectory output, c.isSurrogate = false := by
  rw [makeTransaction_eq_ok_iff]
  constructor
  · -- the file holds one binary, for which the texts say one call, which has one form
    rintro ⟨p, binary', tx', output, bytes', hp, hread', -, htx', houtput, hencode', hwrite⟩
    obtain rfl := Except.ok.inj (hread.symm.trans hread')
    obtain rfl := htx.unique htx'
    obtain rfl := Except.ok.inj (hencode.symm.trans hencode')
    exact ⟨p, output, hp, houtput, hwrite⟩
  · rintro ⟨p, output, hp, houtput, hwrite⟩
    exact ⟨p, binary, tx, output, bytes, hp, hread, ⟨header, hverify⟩, htx, houtput, hencode,
      hwrite⟩

end Work

/-- **A transaction is the call that its texts say.**  For a script of the right shape, types that
have tags and arguments that can be read, within the limits of the writer, there is a serialized
transaction, and it is read back as the script with exactly the given arguments in the given order,
where the text of each tag names this tag again.  The command succeeds when the package can be
opened, there is a place for the output that can be written, and the location of this place is text.
This transaction is what the output holds once it can be written, even if its location cannot be
shown. -/
theorem Command.perform_createTransaction_decodes {w after : Workspace} {script directory : Text}
    {binary : Bytes} {header : Bytecode.Header} {types args : List Text}
    {outcome : Except Failure Unit}
    (hread : w.files.read script = .ok binary)
    (hverify : Bytecode.Script.verify binary = .ok header)
    (htypes : ∀ text ∈ types, ∃ tag, (MoveType.ofText text).toTypeTag = .ok tag)
    (hargs : ∀ text ∈ args, ∃ a, Argument.ofText text = .ok a ∧ a.bytes.length ≤ Codec.maxCount)
    (hbinary : binary.length ≤ Codec.maxCount)
    (hcounts : types.length ≤ Codec.maxCount ∧ args.length ≤ Codec.maxCount)
    (h : (Command.perform (.createTransaction (some script) (some directory) types args)).runOn w =
      (outcome, after)) :
    ∃ (tx : ScriptTransaction) (bytes : Bytes), tx.bytecode = binary ∧
      List.Forall₂ (fun text arg => ∃ a, Argument.ofText text = .ok a ∧ a.bytes = arg)
        args tx.args ∧
      List.Forall₂ (fun text tag => TypeTag.ofText? text = some tag ∧
        TypeTag.ofText? tag.toText = some tag) types tx.typeArgs ∧
      tx.encode = .ok bytes ∧ ScriptTransaction.ofBytes bytes = .ok tx ∧
      (outcome = .ok () ↔ ∃ p output files, Package.ofDirectory w.files directory = .ok p ∧
        (p.transactionPath script w.files).1 = .ok output ∧
        (p.transactionPath script w.files).2.write output bytes = .ok files ∧
        ∀ c ∈ Path.real files.workingDirectory output, c.isSurrogate = false) ∧
      ∀ p output files, Package.ofDirectory w.files directory = .ok p →
        (p.transactionPath script w.files).1 = .ok output →
        (p.transactionPath script w.files).2.write output bytes = .ok files →
        after.files = files ∧ after.files.read output = .ok bytes := by
  obtain ⟨tx, htx⟩ := ScriptTransaction.exists_isCallOf binary htypes fun text htext =>
    (hargs text htext).imp fun _ ha => ha.1
  have hfits := htx.fits hbinary hcounts.1 hcounts.2 hargs
  have hformat := ScriptTransaction.isFormat
  obtain ⟨bytes, hencode, hdecode⟩ : ∃ bytes, tx.encode = .ok bytes ∧
      ScriptTransaction.ofBytes bytes = .ok tx :=
    ⟨_, hformat.toExcept_write hfits, hformat.readAll_spell hfits⟩
  have hcreated : (Work.createTransaction script types args).runOn w = (.ok tx, w) :=
    Work.runOn_createTransaction_eq_ok_iff.mpr ⟨rfl, binary, hread, ⟨header, hverify⟩, htx⟩
  change (Work.makeTransaction (some script) (some directory) types args).runOn w = _ at h
  refine ⟨tx, bytes, htx.bytecode_eq, htx.args, htx.typeArgs.imp fun _ tag htag =>
    ⟨htag, tag.ofText?_toText⟩, hencode, hdecode, ?_, ?_⟩
  · -- a command that succeeds has made this very transaction
    have hsuccess := fun files => @Work.makeTransaction_eq_ok_iff_of_isCallOf w script directory
      types args binary bytes header tx files hread hverify htx hencode
    rw [h] at hsuccess
    constructor
    · rintro rfl
      obtain ⟨p, output, hp, houtput, hwritten⟩ := (hsuccess _).mp ⟨after, rfl, rfl⟩
      exact ⟨p, output, _, hp, houtput, hwritten⟩
    · rintro ⟨p, output, files, hwritten⟩
      obtain ⟨_, hrun, -⟩ := (hsuccess files).mpr ⟨p, output, hwritten⟩
      exact congrArg Prod.fst hrun
  · intro p output files hp houtput hwrite
    obtain rfl := Work.files_eq_of_makeTransaction hp hcreated houtput hencode hwrite h
    exact ⟨rfl, FileSystem.read_of_write hwrite⟩

/-! ## A script on its own -/

/-- A script without parameters. -/
def plainScript : Bytes := [161, 28, 235, 11, 6, 0, 0, 0, 0, 0, 0, 1, 2]

/-- A compiled script that lies beside no manifest. -/
def scriptFiles : FileSystem where
  entries := [(["s.mv"], .file plainScript)]
  workingDirectory := []

/-- The transaction is written beside the script. -/
theorem Command.perform_createTransaction_decodes_plainScript : ∃ after bytes,
    (Command.perform (.createTransaction (some "s.mv") (some ".") ["vector<u8>", "address"]
      ["u64:42", "bool:[true,false]"])).runOn { files := scriptFiles } = (.ok (), after) ∧
    after.files.read "s.mvt" = .ok bytes ∧
    ScriptTransaction.ofBytes bytes = .ok ⟨plainScript, [[42, 0, 0, 0, 0, 0, 0, 0], [2, 1, 0]],
      [⟨1, .u8⟩, ⟨0, .address⟩]⟩ := by
  have hread : scriptFiles.read "s.mv" = .ok plainScript := by cbv
  have hverify : Bytecode.Script.verify plainScript = .ok ⟨6, [], 9, 9⟩ := by decide +kernel
  have hvector : TypeTag.ofText? "vector<u8>" = some ⟨1, .u8⟩ := by cbv
  have haddress : TypeTag.ofText? "address" = some ⟨0, .address⟩ := by cbv
  have hnumber : Argument.ofText "u64:42" = .ok ⟨[42, 0, 0, 0, 0, 0, 0, 0], 0⟩ := by decide +kernel
  have hrow : Argument.ofText "bool:[true,false]" = .ok ⟨[2, 1, 0], 1⟩ := by decide +kernel
  have hp : Package.ofDirectory scriptFiles "." = .ok ⟨".", .error (.missing "/")⟩ := by cbv
  have houtput : Package.transactionPath ⟨".", .error (.missing "/")⟩ "s.mv" scriptFiles =
      (.ok "s.mvt", scriptFiles) := by cbv
  have hwritable : ∀ bytes, ∃ files, scriptFiles.write "s.mvt" bytes = .ok files := by
    intro bytes
    apply Exists.intro
    cbv
  rcases hrun : (Command.perform (.createTransaction (some "s.mv") (some ".")
    ["vector<u8>", "address"] ["u64:42", "bool:[true,false]"])).runOn { files := scriptFiles }
    with ⟨outcome, after⟩
  obtain ⟨tx, bytes, hbytecode, hargs, htypes, -, hdecode, hsuccess, hwritten⟩ :=
    Command.perform_createTransaction_decodes hread hverify
      (by simp [MoveType.toTypeTag_eq_ok_iff, MoveType.toTypeTag?_ofText, hvector, haddress])
      (by simp [hnumber, hrow, Codec.maxCount]) (by simp [plainScript, Codec.maxCount])
      (by simp [Codec.maxCount]) hrun
  obtain ⟨files, hfiles⟩ := hwritable bytes
  have hlocation : ∀ c ∈ Path.real files.workingDirectory "s.mvt", c.isSurrogate = false := by
    rw [FileSystem.workingDirectory_of_write hfiles]
    decide
  have hwrite : (Package.transactionPath ⟨".", .error (.missing "/")⟩ "s.mv" scriptFiles).2.write
      "s.mvt" bytes = .ok files := by rwa [houtput]
  obtain rfl : outcome = .ok () :=
    hsuccess.mpr ⟨_, "s.mvt", files, hp, congrArg Prod.fst houtput, hwrite, hlocation⟩
  obtain ⟨bytecode, args, typeArgs⟩ := tx
  simp only [List.forall₂_cons_left_iff, List.forall₂_nil_left_iff, hnumber, hrow, hvector,
    haddress, Except.ok.injEq, Option.some.injEq, existsAndEq, true_and] at hbytecode hargs htypes
  obtain ⟨-, -, rfl⟩ := htypes
  subst hbytecode hargs
  exact ⟨after, bytes, rfl, (hwritten _ _ files hp (congrArg Prod.fst houtput) hwrite).2, hdecode⟩

end MovePack
