/-
# Work, step by step

Work on a workspace is a row of steps.  For each kind of step this file says what its outcome is and
what it leaves of the workspace; most steps leave all files as they are.
-/
import MovePack.Command.Perform
import MovePack.Proofs.Except
import MovePack.Proofs.Files.Replacement
import MovePack.Proofs.Text.Utf8

namespace MovePack

/-- The failure is one of writing an output. -/
def Failure.IsOfOutput : Failure → Prop
  | .manifest _ | .output _ | .serialization _ | .artifact _ | .unshown _ => True
  | _ => False

namespace Work

variable {α β : Type} {w after : Workspace} {failure : Failure}

/-- The outcome of work on a workspace, and the workspace after it. -/
def runOn (x : Work α) (w : Workspace) : Except Failure α × Workspace := x.run.run w

@[simp] lemma runOn_pure (a : α) : (pure a : Work α).runOn w = (.ok a, w) := rfl

@[simp] lemma runOn_throw : (throw failure : Work α).runOn w = (.error failure, w) := rfl

@[simp] lemma runOn_get : (get : Work Workspace).runOn w = (.ok w, w) := rfl

@[simp] lemma runOn_modify (f : Workspace → Workspace) :
    (modify f : Work PUnit).runOn w = (.ok ⟨⟩, f w) := rfl

/-! ## Steps one after the other -/

lemma runOn_bind (x : Work α) (next : α → Work β) :
    (x >>= next).runOn w =
      match x.runOn w with
      | (.ok a, mid) => (next a).runOn mid
      | (.error failure, mid) => (.error failure, mid) := by
  unfold runOn
  rw [ExceptT.run_bind, StateT.run_bind]
  rcases x.run.run w with ⟨_ | a, mid⟩ <;> rfl

lemma runOn_bind_eq_ok_iff {x : Work α} {next : α → Work β} {b : β} :
    (x >>= next).runOn w = (.ok b, after) ↔
      ∃ a mid, x.runOn w = (.ok a, mid) ∧ (next a).runOn mid = (.ok b, after) := by
  rw [runOn_bind]
  rcases x.runOn w with ⟨_ | a, mid⟩ <;> simp

lemma runOn_bind_eq_error_iff {x : Work α} {next : α → Work β} :
    (x >>= next).runOn w = (.error failure, after) ↔
      x.runOn w = (.error failure, after) ∨
        ∃ a mid, x.runOn w = (.ok a, mid) ∧ (next a).runOn mid = (.error failure, after) := by
  rw [runOn_bind]
  rcases x.runOn w with ⟨_ | a, mid⟩ <;> simp

@[simp] lemma runOn_orFail {ε : Type} (reason : ε → Failure) (x : Except ε α) :
    (orFail reason x).runOn w = (x.mapError reason, w) := by
  cases x <;> rfl

/-- A row of steps that leave the workspace as it is. -/
lemma runOn_mapM {step : α → Work β} {f : α → Except Failure β}
    (h : ∀ a, (step a).runOn w = (f a, w)) (l : List α) :
    (l.mapM step).runOn w = (l.mapM f, w) := by
  induction l with
  | nil => rfl
  | cons a l ih =>
    rw [List.mapM_cons, List.mapM_cons, runOn_bind, h]
    cases f a with
    | error failure => rfl
    | ok b =>
      simp only [runOn_bind, ih]
      cases l.mapM f <;> rfl

/-! ## Single steps -/

@[simp] lemma runOn_givenPath (path : Text) : (givenPath (some path)).runOn w = (.ok path, w) := rfl

@[simp] lemma runOn_record (entries : List LogEntry) :
    (record entries).runOn w = (.ok (), { w with log := entries.reverse ++ w.log }) := rfl

/-- A line is shown unless it holds a surrogate. -/
lemma runOn_display_cases {line : Text} {outcome : Except Failure Unit}
    (h : (display line).runOn w = (outcome, after)) :
    ((∀ c ∈ line, c.isSurrogate = false) ∧ outcome = .ok () ∧
        after = { w with shown := line :: w.shown }) ∨
      ∃ fault, (∃ c ∈ line, c.isSurrogate = true) ∧ outcome = .error (.unshown fault) ∧
        after = w := by
  rw [display, runOn_bind, runOn_orFail] at h
  cases hencode : Utf8.encode line with
  | ok bytes =>
    rw [hencode] at h
    cases h
    exact .inl ⟨Utf8.isSurrogate_of_encode hencode, rfl, rfl⟩
  | error fault =>
    rw [hencode] at h
    cases h
    refine .inr ⟨fault, ?_, rfl, rfl⟩
    by_contra! hline
    rw [Utf8.encode_eq_ok (by simpa using hline)] at hencode
    cases hencode

lemma runOn_display_eq_ok {line : Text} (h : ∀ c ∈ line, c.isSurrogate = false) :
    (display line).runOn w = (.ok (), { w with shown := line :: w.shown }) := by
  rw [display, runOn_bind, runOn_orFail, Utf8.encode_eq_ok h]
  rfl

@[simp] lemma runOn_realPath (path : Text) :
    (realPath path).runOn w = (.ok (Path.real w.files.workingDirectory path), w) := rfl

@[simp] lemma runOn_read (path : Text) :
    (read path).runOn w = ((Artifact.read w.files path).mapError .artifact, w) := by
  simp [read, runOn_bind]

@[simp] lemma runOn_openPackage (directory : Text) :
    (openPackage directory).runOn w =
      ((Package.ofDirectory w.files directory).mapError .opening, w) := by
  simp [openPackage, runOn_bind]

@[simp] lemma runOn_outputPath (find : FileSystem → Except OutputFault Text × FileSystem) :
    (outputPath find).runOn w =
      ((find w.files).1.mapError .output, { w with files := (find w.files).2 }) := by
  simp [outputPath, runOn_bind]

/-- A file is replaced or not, and what has become of the files stays. -/
lemma runOn_write_cases {path : Text} {content : Bytes} {outcome : Except Failure Unit}
    (h : (write path content).runOn w = (outcome, after)) :
    (∃ files, w.files.write path content = .ok files ∧ outcome = .ok () ∧
        after = { w with files, log := Artifact.writtenEntry path content :: w.log }) ∨
      ∃ fault files, Artifact.replace w.files path content = (.error fault, files) ∧
        outcome = .error (.artifact fault) ∧ after = { w with files } := by
  simp only [write, runOn_bind, runOn_get] at h
  rcases hreplace : Artifact.replace w.files path content with ⟨fault | _, files⟩
  · simp only [hreplace, runOn_modify, runOn_orFail, Except.mapError] at h
    cases h
    exact .inr ⟨fault, files, rfl, rfl, rfl⟩
  · simp only [hreplace, runOn_modify, runOn_orFail, runOn_record, Except.mapError] at h
    cases h
    exact .inl ⟨files, Artifact.replace_eq_ok_iff.mp hreplace, rfl, rfl⟩

lemma runOn_write_eq_ok {path : Text} {content : Bytes} {files : FileSystem}
    (h : w.files.write path content = .ok files) :
    (write path content).runOn w =
      (.ok (), { w with files, log := Artifact.writtenEntry path content :: w.log }) := by
  simp only [write, runOn_bind, runOn_get, Artifact.replace_eq_ok_iff.mpr h, runOn_modify,
    runOn_orFail, Except.mapError, runOn_record]
  rfl

/-! ## Outputs -/

section Output

variable {find : FileSystem → Except OutputFault Text × FileSystem}
  {encoded : Except Codec.WriteFault Bytes} {caption : Text}

/-- There is no path for an output, or it is not serialized, or the file is not replaced; otherwise
it is written, and its location is shown unless that is no text. -/
lemma runOn_writeOutput_cases {outcome : Except Failure Unit}
    (h : (writeOutput find encoded caption).runOn w = (outcome, after)) :
    (∃ fault, (find w.files).1 = .error fault ∧ outcome = .error (.output fault) ∧
        after = { w with files := (find w.files).2 }) ∨
      ∃ output, (find w.files).1 = .ok output ∧
        ((∃ fault, encoded = .error fault ∧ outcome = .error (.serialization fault) ∧
            after = { w with files := (find w.files).2 }) ∨
          ∃ bytes, encoded = .ok bytes ∧
            ((∃ fault files, Artifact.replace (find w.files).2 output bytes =
                  (.error fault, files) ∧
                outcome = .error (.artifact fault) ∧ after = { w with files }) ∨
              ∃ files, (find w.files).2.write output bytes = .ok files ∧
                (display (caption ++ Path.real files.workingDirectory output)).runOn
                    { w with files, log := Artifact.writtenEntry output bytes :: w.log } =
                  (outcome, after))) := by
  rw [writeOutput, runOn_bind, runOn_outputPath] at h
  cases hfind : (find w.files).1 with
  | error fault =>
    rw [hfind] at h
    cases h
    exact .inl ⟨fault, rfl, rfl, rfl⟩
  | ok output =>
    refine .inr ⟨output, rfl, ?_⟩
    simp only [hfind, Except.mapError, runOn_bind, runOn_orFail] at h
    cases encoded with
    | error fault =>
      cases h
      exact .inl ⟨fault, rfl, rfl, rfl⟩
    | ok bytes =>
      refine .inr ⟨bytes, rfl, ?_⟩
      rcases hwrite : (write output bytes).runOn { w with files := (find w.files).2 }
        with ⟨written, mid⟩
      simp only [hwrite] at h
      obtain ⟨files, hfiles, rfl, rfl⟩ | ⟨fault, files, hreplace, rfl, rfl⟩ :=
        runOn_write_cases hwrite
      · exact .inr ⟨files, hfiles, h⟩
      · cases h
        exact .inl ⟨fault, files, hreplace, rfl, rfl⟩

/-- An output that is written is shown, unless its location is no text. -/
lemma runOn_writeOutput_of_write {output : Text} {bytes : Bytes} {files : FileSystem}
    (houtput : (find w.files).1 = .ok output) (hbytes : encoded = .ok bytes)
    (hwrite : (find w.files).2.write output bytes = .ok files) :
    (writeOutput find encoded caption).runOn w =
      (display (caption ++ Path.real files.workingDirectory output)).runOn
        { w with files, log := Artifact.writtenEntry output bytes :: w.log } := by
  simp only [writeOutput, runOn_bind, runOn_outputPath, houtput, Except.mapError, hbytes,
    runOn_orFail, runOn_write_eq_ok (w := { w with files := (find w.files).2 }) hwrite,
    runOn_realPath]

/-- An output that is written has changed the files, whether or not its location is shown. -/
lemma files_eq_of_runOn_writeOutput {output : Text} {bytes : Bytes} {files : FileSystem}
    {outcome : Except Failure Unit} (houtput : (find w.files).1 = .ok output)
    (hbytes : encoded = .ok bytes) (hwrite : (find w.files).2.write output bytes = .ok files)
    (h : (writeOutput find encoded caption).runOn w = (outcome, after)) : after.files = files := by
  rw [runOn_writeOutput_of_write houtput hbytes hwrite] at h
  obtain ⟨-, -, rfl⟩ | ⟨_, -, -, rfl⟩ := runOn_display_cases h
  · rfl
  · rfl

/-- An output is written and shown when there is a path for it, it is serialized, the file can be
written, and its location is text. -/
lemma runOn_writeOutput_eq_ok_iff {files : FileSystem}
    (hcaption : ∀ c ∈ caption, c.isSurrogate = false) :
    (∃ after, (writeOutput find encoded caption).runOn w = (.ok (), after) ∧
        after.files = files) ↔
      ∃ output bytes, (find w.files).1 = .ok output ∧ encoded = .ok bytes ∧
        (find w.files).2.write output bytes = .ok files ∧
        ∀ c ∈ Path.real files.workingDirectory output, c.isSurrogate = false := by
  constructor
  · rintro ⟨after, h, rfl⟩
    obtain ⟨_, -, hfailure, -⟩ | ⟨output, houtput, ⟨_, -, hfailure, -⟩ |
      ⟨bytes, hbytes, ⟨_, _, -, hfailure, -⟩ | ⟨files, hfiles, hshown⟩⟩⟩ :=
      runOn_writeOutput_cases h
    · cases hfailure
    · cases hfailure
    · cases hfailure
    · obtain ⟨hline, -, rfl⟩ | ⟨_, -, hfailure, -⟩ := runOn_display_cases hshown
      · exact ⟨output, bytes, houtput, hbytes, hfiles, (List.forall_mem_append.mp hline).2⟩
      · cases hfailure
  · rintro ⟨output, bytes, houtput, hbytes, hfiles, hlocation⟩
    have hline := List.forall_mem_append.mpr ⟨hcaption, hlocation⟩
    exact ⟨_, (runOn_writeOutput_of_write houtput hbytes hfiles).trans (runOn_display_eq_ok hline),
      rfl⟩

lemma isOfOutput_of_runOn_writeOutput
    (h : (writeOutput find encoded caption).runOn w = (.error failure, after)) :
    failure.IsOfOutput := by
  obtain ⟨_, -, hfailure, -⟩ | ⟨_, -, ⟨_, -, hfailure, -⟩ |
    ⟨_, -, ⟨_, _, -, hfailure, -⟩ | ⟨_, -, hshown⟩⟩⟩ := runOn_writeOutput_cases h
  · cases hfailure
    trivial
  · cases hfailure
    trivial
  · cases hfailure
    trivial
  · obtain ⟨-, hfailure, -⟩ | ⟨_, -, hfailure, -⟩ := runOn_display_cases hshown
    · cases hfailure
    · cases hfailure
      trivial

end Output

end Work

end MovePack
