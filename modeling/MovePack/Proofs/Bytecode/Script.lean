/-
# Binaries with the shape of a script

Behind the contents of its tables a script has a number of type parameters, a byte for each of them,
the number of a signature, and code.  A binary is accepted exactly when it has a header without a
table that only modules have, and such a body behind the contents.  A body may be cut short in any
of its fields, and a number may ask for more bytes than there are; then the binary is refused, as it
is when there is nothing behind the fields.
-/
import MovePack.Proofs.Bytecode.Safety
import MovePack.Proofs.Bytecode.Tiling
import MovePack.Proofs.Codec.Locality

namespace MovePack.Bytecode.Script

open Codec (IsFormat Piece Reader Spelled maxCount spelled_append spelled_cons spelled_nil
  spelledBy_plain)

variable {trailer code rest : Bytes} {binary : Bytes} {header : Header}

/-! ## Bodies -/

/-- The bytes begin with the fields of a script and go on with the given bytes: the number of type
parameters, a byte for each of them, and the number of a signature, where numbers have 32 bits. -/
def Precedes (trailer code : Bytes) : Prop :=
  ∃ (parameters : Bytes) (signature : Nat),
    parameters.length ≤ maxCount ∧ signature ≤ maxCount ∧
      Spelled [.number parameters.length, .plain parameters, .number signature] trailer code

/-- The bytes are the fields of a script with code behind them. -/
def IsBody (trailer : Bytes) : Prop := ∃ code, Precedes trailer code ∧ code ≠ []

lemma exists_read_u8_eq_ok_iff {input : Bytes} :
    (∃ n, Reader.u8.read input = (.ok n, rest)) ↔ ∃ b, input = b :: rest := by
  simp only [Reader.u8, Reader.uint, Reader.read_bind_eq_ok_iff, Reader.read_take_eq_ok_iff,
    Reader.read_pure, Prod.mk.injEq, Except.ok.injEq]
  constructor
  · rintro ⟨n, s, mid, ⟨hlength, rfl⟩, -, rfl⟩
    obtain ⟨b, rfl⟩ := List.length_eq_one_iff.mp hlength
    exact ⟨b, rfl⟩
  · rintro ⟨b, rfl⟩
    exact ⟨_, [b], rest, ⟨rfl, rfl⟩, rfl, rfl⟩

/-- Bytes are read one after the other when there are enough of them. -/
lemma exists_read_replicate_u8_eq_ok_iff {input : Bytes} {count : Nat} :
    (∃ values, (Reader.replicate Reader.u8 count).read input = (.ok values, rest)) ↔
      ∃ s : Bytes, s.length = count ∧ input = s ++ rest := by
  induction count generalizing input with
  | zero => simp [Reader.replicate, List.length_eq_zero_iff]
  | succ count ih =>
    simp only [Reader.replicate, Reader.read_bind_eq_ok_iff, Reader.read_pure, Prod.mk.injEq,
      Except.ok.injEq]
    constructor
    · rintro ⟨values, n, mid, hfirst, others, mid', hothers, -, rfl⟩
      obtain ⟨b, rfl⟩ := exists_read_u8_eq_ok_iff.mp ⟨n, hfirst⟩
      obtain ⟨s, hlength, rfl⟩ := ih.mp ⟨others, hothers⟩
      exact ⟨b :: s, congrArg (· + 1) hlength, rfl⟩
    · rintro ⟨s, hlength, rfl⟩
      obtain ⟨b, s, rfl⟩ := List.exists_cons_of_length_eq_add_one hlength
      obtain ⟨n, hfirst⟩ := exists_read_u8_eq_ok_iff.mpr ⟨b, rfl⟩
      obtain ⟨others, hothers⟩ := ih.mpr ⟨s, Nat.succ.inj hlength, rfl⟩
      exact ⟨_, n, _, hfirst, others, rest, hothers, rfl, rfl⟩

lemma read_preamble_eq_ok_iff :
    preamble.read trailer = (.ok (), code) ↔ Precedes trailer code := by
  simp only [preamble, Reader.read_bind_eq_ok_iff, Reader.read_pure, Reader.read_uleb_eq_ok_iff,
    Prod.mk.injEq, Precedes, spelled_cons, spelled_nil, spelledBy_plain]
  constructor
  · rintro ⟨count, mid, ⟨hcount, hnumeral⟩, values, mid', hvalues, signature, _,
      ⟨hsignature, hnumeral'⟩, -, rfl⟩
    obtain ⟨parameters, rfl, rfl⟩ := exists_read_replicate_u8_eq_ok_iff.mp ⟨values, hvalues⟩
    exact ⟨parameters, signature, hcount, hsignature, _, hnumeral, _, rfl, _, hnumeral', rfl⟩
  · rintro ⟨parameters, signature, hcount, hsignature, mid, hnumeral, mid', rfl, _, hnumeral', rfl⟩
    obtain ⟨values, hvalues⟩ := exists_read_replicate_u8_eq_ok_iff.mpr ⟨parameters, rfl, rfl⟩
    exact ⟨_, _, ⟨hcount, hnumeral⟩, values, mid', hvalues, signature, _,
      ⟨hsignature, hnumeral'⟩, trivial, rfl⟩

lemma checkBody_eq_ok_iff : checkBody trailer = .ok () ↔ IsBody trailer := by
  simp only [IsBody, ← read_preamble_eq_ok_iff, checkBody]
  rcases preamble.read trailer with ⟨fault | ⟨⟩, _ | ⟨b, rest⟩⟩ <;> simp

/-- A body that is refused cannot be read up to its code, or has none. -/
lemma checkBody_eq_error_iff {fault : IntegrityFault} :
    checkBody trailer = .error fault ↔
      (∃ cause rest, preamble.read trailer = (.error cause, rest) ∧
        fault = .malformedScript cause) ∨
      Precedes trailer [] ∧ fault = .noCode := by
  simp only [← read_preamble_eq_ok_iff, checkBody]
  rcases preamble.read trailer with ⟨cause | ⟨⟩, _ | ⟨b, rest⟩⟩ <;> simp [eq_comm]

/-! ## Cuts -/

lemma isLocal_preamble : preamble.IsLocal :=
  Reader.IsLocal.uleb.bind fun count =>
    ((Reader.IsLocal.uint 1).replicate count).bind fun _ =>
      Reader.IsLocal.uleb.bind fun _ => Reader.IsLocal.pure ()

/-- A body that is cut before its code is refused: it has no code if the cut is right before that,
and ends in a field if the cut is anywhere before. -/
theorem checkBody_of_cut {fields front : Bytes} (hfields : Precedes (fields ++ code) code)
    (hcut : front <+: fields) :
    checkBody fields = .error .noCode ∧
      (front ≠ fields → ∃ requested found,
        checkBody front = .error (.malformedScript (.endOfInput requested found))) := by
  have hread : preamble.read fields = (.ok (), []) :=
    isLocal_preamble.value_iff.mp (read_preamble_eq_ok_iff.mpr hfields)
  constructor
  · exact checkBody_eq_error_iff.mpr (.inr ⟨read_preamble_eq_ok_iff.mp hread, rfl⟩)
  · intro hne
    obtain ⟨requested, found, hfront⟩ :=
      isLocal_preamble.endOfInput_of_prefix (.inl blamesBytes_preamble) hread hcut hne
    exact ⟨requested, found, checkBody_eq_error_iff.mpr (.inl ⟨_, _, Prod.ext hfront rfl, rfl⟩)⟩

/-! ## Scripts -/

/-- No table is of a kind that only modules have. -/
def HasScriptTables (header : Header) : Prop :=
  ∀ table ∈ header.tables, table.kind.isModuleOnly = false

/-- Once there is a header, its tables and the body decide. -/
lemma verify_of_ofBinary (h : Header.ofBinary binary = .ok header) :
    (HasScriptTables header →
      verify binary = (checkBody (binary.drop header.contentEnd)).map fun _ => header) ∧
    (¬ HasScriptTables header → verify binary = .error .moduleTableInScript) := by
  have htables : HasScriptTables header ↔
      ¬ (header.tables.any fun table => table.kind.isModuleOnly) = true := by
    simp [HasScriptTables]
  rw [verify, h, Except.ok_bind, htables]
  refine ⟨fun hany => ?_, fun hany => ?_⟩
  · rw [if_neg hany, Header.trailer]
    cases checkBody (binary.drop header.contentEnd) <;> rfl
  · rw [if_pos (not_not.mp hany)]
    rfl

/-- The binary has a header without a table of a module, and a body behind the contents of the
tables. -/
def IsScript (binary : Bytes) (header : Header) : Prop :=
  Header.ofBinary binary = .ok header ∧ HasScriptTables header ∧
    IsBody (binary.drop header.contentEnd)

lemma verify_eq_ok_iff {result : Header} : verify binary = .ok result ↔ IsScript binary result := by
  rw [IsScript]
  cases h : Header.ofBinary binary with
  | error fault => simp [verify, h, bind, Except.bind]
  | ok header =>
    obtain ⟨hscript, hmodule⟩ := verify_of_ofBinary h
    by_cases htables : HasScriptTables header
    · rw [hscript htables, Except.map_eq_ok_iff]
      constructor
      · rintro ⟨⟨⟩, hbody, rfl⟩
        exact ⟨rfl, htables, checkBody_eq_ok_iff.mp hbody⟩
      · rintro ⟨hresult, -, hbody⟩
        cases hresult
        exact ⟨(), checkBody_eq_ok_iff.mpr hbody, rfl⟩
    · rw [hmodule htables]
      constructor
      · intro h
        cases h
      · rintro ⟨hresult, htables', -⟩
        cases hresult
        exact absurd htables' htables

lemma verify_eq_error_iff {fault : IntegrityFault} :
    verify binary = .error fault ↔ Header.ofBinary binary = .error fault ∨
      ∃ header, Header.ofBinary binary = .ok header ∧
        (¬ HasScriptTables header ∧ fault = .moduleTableInScript ∨
          HasScriptTables header ∧ checkBody (binary.drop header.contentEnd) = .error fault) := by
  cases h : Header.ofBinary binary with
  | error fault => simp [verify, h, bind, Except.bind]
  | ok header =>
    obtain ⟨hscript, hmodule⟩ := verify_of_ofBinary h
    by_cases htables : HasScriptTables header
    · simp [hscript htables, htables, Except.map_eq_error_iff]
    · simp [hmodule htables, htables, eq_comm]

/-- **Scripts are accepted by their shape.**  A binary is accepted, with its header, exactly when it
has one without a table of a module, and behind the contents of the tables there are a number, as
many bytes as it says, another number and at least one further byte.  Every other binary is refused,
whatever could stop the reading of it: for its header, for a table of a module, for a field that
cannot be read, or because there is nothing behind the fields. -/
theorem verify_exact (binary : Bytes) :
    (∀ header, verify binary = .ok header ↔ IsScript binary header) ∧
    ((∀ header, ¬ IsScript binary header) → ∃ fault, verify binary = .error fault ∧
      Stepwise.script binary = .error (.refusal fault) ∧
      (Header.ofBinary binary = .error fault ∨
        ∃ header, Header.ofBinary binary = .ok header ∧
          (¬ HasScriptTables header ∧ fault = .moduleTableInScript ∨
            HasScriptTables header ∧
              ((∃ cause rest, preamble.read (binary.drop header.contentEnd) = (.error cause, rest) ∧
                  fault = .malformedScript cause) ∨
                Precedes (binary.drop header.contentEnd) [] ∧ fault = .noCode)))) := by
  refine ⟨fun header => verify_eq_ok_iff, fun hnone => ?_⟩
  cases h : verify binary with
  | ok header => exact absurd (verify_eq_ok_iff.mp h) (hnone header)
  | error fault =>
    have hcause := verify_eq_error_iff.mp h
    simp only [checkBody_eq_error_iff] at hcause
    refine ⟨fault, rfl, ?_, hcause⟩
    rw [Stepwise.script_eq, h]
    rfl

/-- A script with two type parameters, and without its code. -/
theorem verify_exact_twoParameters :
    verify (magic ++ [6, 0, 0, 0, 0, 2, 3, 4, 0x80, 0, 9]) = .ok ⟨6, [], 9, 9⟩ ∧
    ∃ fault, verify (magic ++ [6, 0, 0, 0, 0, 2, 3, 4, 0x80, 0]) = .error fault ∧
      Stepwise.script (magic ++ [6, 0, 0, 0, 0, 2, 3, 4, 0x80, 0]) = .error (.refusal fault) := by
  have hheader : ∀ body ∈ [[2, 3, 4, 0x80, 0, 9], [2, 3, 4, 0x80, 0]],
      Header.ofBinary (magic ++ [6, 0, 0, 0, 0] ++ body) = .ok ⟨6, [], 9, 9⟩ := by
    decide +kernel
  have hread : preamble.read [2, 3, 4, 0x80, 0, 9] = (.ok (), [9]) := by decide +kernel
  have hcut : preamble.read [2, 3, 4, 0x80, 0] = (.ok (), []) := by decide +kernel
  constructor
  · refine ((verify_exact _).1 _).mpr ⟨hheader _ (by decide), by simp [HasScriptTables], [9], ?_, ?_⟩
    · exact read_preamble_eq_ok_iff.mp hread
    · exact List.cons_ne_nil _ _
  · have hnone : ∀ header, ¬ IsScript (magic ++ [6, 0, 0, 0, 0, 2, 3, 4, 0x80, 0]) header := by
      rintro header ⟨hbinary, -, code, hcode, hne⟩
      cases hbinary.symm.trans (hheader [2, 3, 4, 0x80, 0] (by decide))
      -- nothing is left for the code
      have hnil := hcut.symm.trans (read_preamble_eq_ok_iff.mpr hcode)
      exact hne (Prod.mk.inj hnil).2.symm
    obtain ⟨fault, hverify, hscript, -⟩ := (verify_exact _).2 hnone
    exact ⟨fault, hverify, hscript⟩

end MovePack.Bytecode.Script
