/-
# Broken manifests

A package is opened whatever its manifest is, as long as the bytes of the manifest are a text that
does not have too much of something, which takes many brackets, dots or digits.  What the manifest
says of the name of the package is asked for later: the name is the string that is not empty at the
place for it, and anything else is reported as a fault of the manifest, unless what stands there
cannot even be shown.  The transaction of a script outside of a package is made beside the script,
and a manifest that does not help does not change anything of that.
-/
import MovePack.Proofs.Command.Transaction
import MovePack.Proofs.Files.Directories
import MovePack.Proofs.Text.Utf8
import MovePack.Proofs.Toml.Excess

namespace MovePack

open FileSystem (hasNull hasNull_eq_false_iff)

namespace Package

variable {fs : FileSystem} {root path name text : Text} {content : Bytes} {document : Toml.Value}
variable {p : Package} {fault : ManifestFault}

/-! ## The name in a manifest -/

/-- The document has the value at the place for the name of the package. -/
def HasAtName (document found : Toml.Value) : Prop :=
  ∃ package, document.member? "package" = some package ∧ package.member? "name" = some found

/-- The document names the package. -/
def Names (document : Toml.Value) (name : Text) : Prop :=
  name ≠ [] ∧ HasAtName document (.string name)

lemma hasAtName_iff {found : Toml.Value} :
    HasAtName document found ↔
      (document.member? "package").bind (·.member? "name") = some found := by
  rw [Option.bind_eq_some_iff]
  rfl

lemma nameIn_eq_ok_iff : nameIn root document = .ok name ↔ Names document name := by
  rw [Names, hasAtName_iff, nameIn]
  split
  next hnone => simp [hnone]
  next c rest hstring =>
    rw [hstring]
    constructor
    · rintro ⟨⟩
      exact ⟨List.cons_ne_nil c rest, rfl⟩
    · rintro ⟨-, ⟨⟩⟩
      rfl
  next found hnonempty hfound =>
    rw [hfound]
    constructor
    · intro h
      split at h
      all_goals cases h
    · rintro ⟨hne, ⟨⟩⟩
      obtain ⟨c, rest, rfl⟩ := List.exists_cons_of_ne_nil hne
      exact absurd rfl (hnonempty c rest)

/-- What is no name is reported, unless it cannot be shown. -/
lemma isReported_of_nameIn (h : nameIn root document = .error fault) :
    (Failure.manifest fault).isReported = true ∨
      ∃ found unshown, HasAtName document found ∧ found.displayFault? 0 = some unshown ∧
        fault = .unshownName unshown := by
  simp only [hasAtName_iff]
  rw [nameIn] at h
  split at h
  next =>
    cases h
    exact .inl rfl
  next => cases h
  next found _ hfound =>
    split at h
    next =>
      cases h
      exact .inl rfl
    next unshown hunshown =>
      cases h
      exact .inr ⟨found, unshown, hfound, hunshown, rfl⟩

/-! ## Opening a package -/

/-- The path of the manifest in a directory. -/
def manifestPath (root : Text) : Text := Path.join root manifestName

/-- The bytes of the manifest in a directory are the text in UTF-8. -/
def HasManifestText (fs : FileSystem) (root text : Text) : Prop :=
  (∀ c ∈ text, c.isSurrogate = false) ∧ fs.read (manifestPath root) = .ok (Utf8.bytes text)

/-- The manifest denotes the document. -/
def HasDocument (fs : FileSystem) (root : Text) (document : Toml.Value) : Prop :=
  ∃ text, HasManifestText fs root text ∧ Toml.Value.ofDocument text = .ok document

/-- The text keeps the rules of the format as far as it is read, but has too much of something. -/
def HasTooMuch (text : Text) : Prop :=
  ∃ excess, Toml.Value.ofDocument text = .error (.tooMuch excess)

lemma hasNull_manifestPath : hasNull (manifestPath root) = hasNull root := by
  rw [Bool.eq_iff_iff, ← Bool.not_eq_false, ← Bool.not_eq_false (hasNull root)]
  refine not_congr ⟨fun h => ?_, fun h => FileSystem.hasNull_join h (by decide)⟩
  rw [hasNull_eq_false_iff] at h ⊢
  intro c hc hzero
  have hslash := FileSystem.ne_slash_of_toNat_eq_zero hzero
  exact h c ((Path.mem_join_iff hslash (by decide)).mpr (.inl hc)) hzero

/-- The text of a manifest that is read is one only. -/
lemma hasManifestText_iff (hread : fs.read (manifestPath root) = .ok content) :
    HasManifestText fs root text ↔ Utf8.decode content = .ok text := by
  rw [HasManifestText, hread, Utf8.decode_eq_ok_iff, Except.ok.injEq]

/-- A manifest is made of a text only, which denotes a document or breaks the rules. -/
lemma manifestOf_eq_ok_iff {manifest : Except ManifestFault Toml.Value} :
    manifestOf path content = .ok manifest ↔ ∃ text, Utf8.decode content = .ok text ∧
      ((∃ document, Toml.Value.ofDocument text = .ok document ∧ manifest = .ok document) ∨
        Toml.Value.ofDocument text = .error .malformed ∧
          manifest = .error (.malformed path .malformed)) := by
  rw [manifestOf]
  cases Utf8.decode content with
  | error fault => simp
  | ok text =>
    simp only [Except.ok.injEq, exists_eq_left']
    cases Toml.Value.ofDocument text with
    | ok document => simp [eq_comm]
    | error fault => cases fault <;> simp [eq_comm]

lemma not_hasTooMuch_iff :
    ¬ HasTooMuch text ↔ (∃ document, Toml.Value.ofDocument text = .ok document) ∨
      Toml.Value.ofDocument text = .error .malformed := by
  rw [HasTooMuch]
  cases Toml.Value.ofDocument text with
  | ok document => simp
  | error fault => cases fault <;> simp

lemma exists_manifestOf_eq_ok_iff :
    (∃ manifest, manifestOf path content = .ok manifest) ↔
      ∃ text, Utf8.decode content = .ok text ∧ ¬ HasTooMuch text := by
  simp only [manifestOf_eq_ok_iff, not_hasTooMuch_iff]
  constructor
  · rintro ⟨manifest, text, htext, ⟨document, hdocument, -⟩ | ⟨hmalformed, -⟩⟩
    · exact ⟨text, htext, .inl ⟨document, hdocument⟩⟩
    · exact ⟨text, htext, .inr hmalformed⟩
  · rintro ⟨text, htext, ⟨document, hdocument⟩ | hmalformed⟩
    · exact ⟨_, text, htext, .inl ⟨document, hdocument, rfl⟩⟩
    · exact ⟨_, text, htext, .inr ⟨hmalformed, rfl⟩⟩

lemma manifestOf_eq_ok_ok_iff :
    manifestOf path content = .ok (.ok document) ↔
      ∃ text, Utf8.decode content = .ok text ∧ Toml.Value.ofDocument text = .ok document := by
  simp [manifestOf_eq_ok_iff]

/-- A manifest that is no document is reported. -/
lemma isReported_of_manifestOf (h : manifestOf path content = .ok (.error fault)) :
    (Failure.manifest fault).isReported = true := by
  obtain ⟨_, _, ⟨_, _, hfault⟩ | ⟨_, hfault⟩⟩ := manifestOf_eq_ok_iff.mp h
  all_goals cases hfault
  rfl

lemma readManifest_of_read (hread : fs.read (manifestPath root) = .ok content) :
    readManifest fs root = manifestOf (manifestPath root) content := by
  rw [readManifest, ← manifestPath, hread]

/-- A manifest that cannot be read is reported, unless its path holds the null character. -/
lemma exists_readManifest_of_refused {error : FileError} {path : Text}
    (hread : fs.read (manifestPath root) = .error (.refused error path)) :
    ∃ fault, readManifest fs root = .ok (.error fault) ∧
      (Failure.manifest fault).isReported = true := by
  rw [readManifest, ← manifestPath, hread]
  cases error
  all_goals exact ⟨_, rfl, rfl⟩

lemma readManifest_of_null (hread : fs.read (manifestPath root) = .error .nullCharacter) :
    readManifest fs root = .error .nullCharacter := by
  rw [readManifest, ← manifestPath, hread]

lemma read_eq_nullCharacter_iff :
    fs.read (manifestPath root) = .error .nullCharacter ↔ hasNull root = true := by
  rw [FileSystem.read, FileSystem.onPath_eq_nullCharacter_iff, hasNull_manifestPath]

/-- A package is opened unless the manifest is no text, or has too much of something. -/
lemma exists_readManifest_eq_ok_iff :
    (∃ manifest, readManifest fs root = .ok manifest) ↔ hasNull root = false ∧
      ∀ content, fs.read (manifestPath root) = .ok content →
        ∃ text, HasManifestText fs root text ∧ ¬ HasTooMuch text := by
  have hnull : hasNull root = false ↔ fs.read (manifestPath root) ≠ .error .nullCharacter := by
    rw [← Bool.not_eq_true, Ne, read_eq_nullCharacter_iff]
  rw [hnull]
  cases hread : fs.read (manifestPath root) with
  | ok content =>
    simp only [readManifest_of_read hread, exists_manifestOf_eq_ok_iff, hasManifestText_iff hread,
      ne_eq, reduceCtorEq, not_false_eq_true, true_and, Except.ok.injEq, forall_eq']
  | error fault =>
    cases fault with
    | nullCharacter => simp [readManifest_of_null hread]
    | refused error path =>
      -- a manifest that is not there or is no file does not keep the package from being opened
      obtain ⟨fault, hmanifest, -⟩ := exists_readManifest_of_refused hread
      simp [hmanifest]

/-- What the manifest denotes is the document of its text. -/
lemma readManifest_eq_ok_ok_iff :
    readManifest fs root = .ok (.ok document) ↔ HasDocument fs root document := by
  rw [HasDocument]
  cases hread : fs.read (manifestPath root) with
  | ok content =>
    simp only [readManifest_of_read hread, manifestOf_eq_ok_ok_iff, hasManifestText_iff hread]
  | error fault =>
    have hnone : ¬ ∃ text, HasManifestText fs root text ∧
        Toml.Value.ofDocument text = .ok document := by
      rintro ⟨text, ⟨-, htext⟩, -⟩
      cases hread.symm.trans htext
    refine iff_of_false ?_ hnone
    cases fault with
    | nullCharacter => simp [readManifest_of_null hread]
    | refused error path =>
      obtain ⟨fault, hmanifest, -⟩ := exists_readManifest_of_refused hread
      simp [hmanifest]

lemma isReported_of_readManifest (h : readManifest fs root = .ok (.error fault)) :
    (Failure.manifest fault).isReported = true := by
  cases hread : fs.read (manifestPath root) with
  | ok content => exact isReported_of_manifestOf (readManifest_of_read hread ▸ h)
  | error access =>
    cases access with
    | nullCharacter => cases (readManifest_of_null hread).symm.trans h
    | refused error path =>
      obtain ⟨fault', hmanifest, hreported⟩ := exists_readManifest_of_refused hread
      cases hmanifest.symm.trans h
      exact hreported

lemma ofDirectory_eq_ok_iff :
    ofDirectory fs root = .ok p ↔ ∃ manifest, readManifest fs root = .ok manifest ∧
      ⟨root, manifest⟩ = p := by
  rw [ofDirectory, Except.map_eq_ok_iff]

lemma exists_ofDirectory_eq_ok_iff :
    (∃ p, ofDirectory fs root = .ok p) ↔ ∃ manifest, readManifest fs root = .ok manifest := by
  simp only [ofDirectory_eq_ok_iff]
  constructor
  · rintro ⟨p, manifest, hmanifest, -⟩
    exact ⟨manifest, hmanifest⟩
  · rintro ⟨manifest, hmanifest⟩
    exact ⟨_, manifest, hmanifest, rfl⟩

lemma name_eq_ok_iff (hp : ofDirectory fs root = .ok p) :
    p.name = .ok name ↔ ∃ document, HasDocument fs root document ∧ Names document name := by
  obtain ⟨manifest, hmanifest, rfl⟩ := ofDirectory_eq_ok_iff.mp hp
  rw [Package.name, Except.bind_eq_ok_iff]
  simp only [nameIn_eq_ok_iff]
  constructor
  · rintro ⟨document, rfl, hname⟩
    exact ⟨document, readManifest_eq_ok_ok_iff.mp hmanifest, hname⟩
  · rintro ⟨document, hdocument, hname⟩
    have hread := readManifest_eq_ok_ok_iff.mpr hdocument
    exact ⟨document, Except.ok.inj (hmanifest.symm.trans hread), hname⟩

/-- A package without a name is reported, unless what stands for the name cannot be shown. -/
lemma isReported_of_name (hp : ofDirectory fs root = .ok p) (h : p.name = .error fault) :
    (Failure.manifest fault).isReported = true ∨
      ∃ document found unshown, HasDocument fs root document ∧ HasAtName document found ∧
        found.displayFault? 0 = some unshown ∧ fault = .unshownName unshown := by
  obtain ⟨manifest, hmanifest, rfl⟩ := ofDirectory_eq_ok_iff.mp hp
  cases manifest with
  | error missing =>
    cases h
    exact .inl (isReported_of_readManifest hmanifest)
  | ok document =>
    have hdocument := readManifest_eq_ok_ok_iff.mp hmanifest
    obtain hreported | ⟨found, unshown, hfound, hunshown, rfl⟩ := isReported_of_nameIn h
    · exact .inl hreported
    · exact .inr ⟨document, found, unshown, hdocument, hfound, hunshown, rfl⟩

/-- A text with few brackets, dots and digits does not have too much of anything. -/
lemma not_hasTooMuch (h : Toml.IsModest 0 text) : ¬ HasTooMuch text :=
  not_hasTooMuch_iff.mpr (Toml.ofDocument_of_isModest h)

end Package

/-! ## Transactions without a manifest -/

namespace Work

variable {w : Workspace} {script root : Text} {types args : List Text} {p : Package}

/-- Makes the transaction of a compiled script, beside the script. -/
def makeTransactionBeside (script : Text) (types args : List Text) : Work Unit := do
  let transaction ← createTransaction script types args
  record [⟨.info, "Created " ++ transaction.toText⟩]
  let fileName := Path.stem (Path.baseName script) ++ Package.transactionExtension
  writeOutput (fun fs => (.ok (Path.join (Path.directoryName script) fileName), fs))
    transaction.encode "Script transaction is created at:\n"

/-- Without a manifest the package has no part in the making of a transaction. -/
lemma runOn_makeTransaction_of_not_hasDocument (hp : Package.ofDirectory w.files root = .ok p)
    (h : ∀ document, ¬ Package.HasDocument w.files root document) :
    (makeTransaction (some script) (some root) types args).runOn w =
      (makeTransactionBeside script types args).runOn w := by
  obtain ⟨manifest, hmanifest, rfl⟩ := Package.ofDirectory_eq_ok_iff.mp hp
  have hmissing : Package.hasManifest ⟨root, manifest⟩ = false := by
    cases manifest with
    | error fault => rfl
    | ok document => exact absurd (Package.readManifest_eq_ok_ok_iff.mp hmanifest) (h document)
  simp only [makeTransaction, makeTransactionBeside, runOn_bind, runOn_givenPath,
    runOn_openPackage, hp, Except.mapError]
  have hpath : Package.transactionPath ⟨root, manifest⟩ script = fun fs =>
      (.ok (Path.join (Path.directoryName script)
        (Path.stem (Path.baseName script) ++ Package.transactionExtension)), fs) := by
    funext fs
    rw [Package.transactionPath, hmissing]
    rfl
  rw [hpath]

end Work

/-- **A package is opened unless its manifest is no text or has too much of something.**  What has
too much of something has many brackets, dots or digits.  The name of a package that is opened is
the string that is not empty at the place for it; without such a string the fault is reported,
unless what stands there cannot be shown.  And where the manifest is no document, transactions are
made as they are outside of a package. -/
theorem Package.opened_with_broken_manifest (w : Workspace) (root : Text) :
    ((∃ p, ofDirectory w.files root = .ok p) ↔ hasNull root = false ∧
      ∀ content, w.files.read (manifestPath root) = .ok content →
        ∃ text, HasManifestText w.files root text ∧ ¬ HasTooMuch text) ∧
    (∀ text, Toml.IsModest 0 text → ¬ HasTooMuch text) ∧
    ∀ p, ofDirectory w.files root = .ok p →
      (∀ name, p.name = .ok name ↔
        ∃ document, HasDocument w.files root document ∧ Names document name) ∧
      (∀ fault, p.name = .error fault → (Failure.manifest fault).isReported = true ∨
        ∃ document found unshown, HasDocument w.files root document ∧ HasAtName document found ∧
          found.displayFault? 0 = some unshown ∧ fault = .unshownName unshown) ∧
      ((∀ document, ¬ HasDocument w.files root document) → ∀ script types args,
        (Work.makeTransaction (some script) (some root) types args).runOn w =
          (Work.makeTransactionBeside script types args).runOn w) := by
  refine ⟨exists_ofDirectory_eq_ok_iff.trans exists_readManifest_eq_ok_iff,
    fun text => not_hasTooMuch, fun p hp => ⟨fun name => ?_, fun fault hname => ?_,
      fun h script types args => Work.runOn_makeTransaction_of_not_hasDocument hp h⟩⟩
  · exact name_eq_ok_iff hp
  · exact isReported_of_name hp hname

/-- A manifest whose header does not end, and a compiled script. -/
def brokenManifestFiles : FileSystem where
  entries := [(["Move.toml"], .file (Utf8.bytes "[package\n")), (["s.mv"], .file plainScript)]
  workingDirectory := []

/-- Beside a manifest that breaks the rules a transaction is made, but the package has no name. -/
theorem Package.opened_with_broken_manifest_header : ∃ p fault,
    ¬ HasTooMuch "[package\n" ∧ ofDirectory brokenManifestFiles "." = .ok p ∧
      p.name = .error fault ∧ (Failure.manifest fault).isReported = true ∧
      (Work.makeTransaction (some "s.mv") (some ".") [] []).runOn { files := brokenManifestFiles } =
        (Work.makeTransactionBeside "s.mv" [] []).runOn { files := brokenManifestFiles } := by
  have hp : ofDirectory brokenManifestFiles "." =
      .ok ⟨".", .error (.malformed "./Move.toml" .malformed)⟩ := by cbv
  obtain ⟨-, hmodest, hopened⟩ :=
    Package.opened_with_broken_manifest { files := brokenManifestFiles } "."
  obtain ⟨-, hreported, hbeside⟩ := hopened _ hp
  refine ⟨_, _, hmodest _ ⟨by decide, by decide, by decide⟩, hp, rfl, ?_,
    hbeside (fun document hdocument => ?_) _ _ _⟩
  · exact (hreported _ rfl).resolve_right (by rintro ⟨_, _, _, _, _, _, ⟨⟩⟩)
  · have hread := readManifest_eq_ok_ok_iff.mpr hdocument
    obtain ⟨manifest, hmanifest, heq⟩ := ofDirectory_eq_ok_iff.mp hp
    cases heq
    cases hmanifest.symm.trans hread

/-- A manifest that is no text, and a compiled script. -/
def undecodableManifestFiles : FileSystem where
  entries := [(["Move.toml"], .file [0xFF]), (["s.mv"], .file plainScript)]
  workingDirectory := []

/-- A manifest that is no text keeps the package from being opened, which ends a command that does
not need the manifest without a report. -/
theorem Package.not_opened_undecodable :
    (¬ ∃ p, ofDirectory undecodableManifestFiles "." = .ok p) ∧
    ∃ failure after, (Work.makeTransaction (some "s.mv") (some ".") [] []).runOn
        { files := undecodableManifestFiles } = (.error failure, after) ∧
      failure.isReported = false := by
  obtain ⟨fault, hfault⟩ : ∃ fault, ofDirectory undecodableManifestFiles "." = .error fault := by
    apply Exists.intro
    cbv
  refine ⟨?_, .opening fault, { files := undecodableManifestFiles }, ?_, rfl⟩
  · rintro ⟨p, hp⟩
    cases hfault.symm.trans hp
  · simp only [Work.makeTransaction, Work.runOn_bind, Work.runOn_givenPath,
      Work.runOn_openPackage, hfault, Except.mapError]

end MovePack
