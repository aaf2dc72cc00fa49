/-
# What readers take and writers put out

A reader is described by the inputs on which it gives a value, and by what it leaves of them; a
writer by the bytes of a complete writing.  The numbers of bytes that counts ask for are indices, so
that the readers that are made of them find no other faults than those of the bytes.
-/
import Mathlib.Data.List.Basic
import MovePack.Codec.Schema
import MovePack.Proofs.Bytes
import MovePack.Proofs.Text.CodePoint

namespace MovePack.Codec

variable {α β : Type}

/-! ## Reading -/

namespace Reader

variable {input rest : Bytes}

@[simp] lemma read_pure (a : α) : (pure a : Reader α).read input = (.ok a, input) := rfl

@[simp] lemma read_fail (fault : ReadFault) :
    (fail fault : Reader α).read input = (.error fault, input) := rfl

@[simp] lemma read_get : (getThe Bytes : Reader Bytes).read input = (.ok input, input) := rfl

@[simp] lemma read_set : (set rest : Reader PUnit).read input = (.ok ⟨⟩, rest) := rfl

lemma read_bind (r : Reader α) (next : α → Reader β) :
    (r >>= next).read input =
      match r.read input with
      | (.ok a, mid) => (next a).read mid
      | (.error fault, mid) => (.error fault, mid) := by
  unfold Reader.read
  rw [ExceptT.run_bind, StateT.run_bind]
  rcases r.run.run input with ⟨_ | a, mid⟩ <;> rfl

lemma read_bind_eq_ok_iff {r : Reader α} {next : α → Reader β} {b : β} :
    (r >>= next).read input = (.ok b, rest) ↔
      ∃ a mid, r.read input = (.ok a, mid) ∧ (next a).read mid = (.ok b, rest) := by
  rw [read_bind]
  rcases r.read input with ⟨_ | a, mid⟩ <;> simp

lemma read_bind_eq_error_iff {r : Reader α} {next : α → Reader β} {fault : ReadFault} :
    (r >>= next).read input = (.error fault, rest) ↔
      r.read input = (.error fault, rest) ∨
        ∃ a mid, r.read input = (.ok a, mid) ∧ (next a).read mid = (.error fault, rest) := by
  rw [read_bind]
  rcases r.read input with ⟨_ | a, mid⟩ <;> simp

lemma read_tryCatch (r : Reader α) (handler : ReadFault → Reader α) :
    (tryCatch r handler).read input =
      match r.read input with
      | (.ok a, rest) => (.ok a, rest)
      | (.error fault, rest) => (handler fault).read rest := by
  unfold Reader.read
  rw [ExceptT.run_tryCatch, StateT.run_bind]
  change Bind.bind (m := Id) (r.run.run input) _ = _
  rcases r.run.run input with ⟨_ | a, rest⟩ <;> rfl

lemma read_take (count : Nat) :
    (take count).read input =
      if count ≤ input.length then (.ok (input.take count), input.drop count)
      else if maxIndex < count then (.error (.foreign (.notAnIndex count)), input)
      else (.error (.endOfInput count input.length), input.drop count) := by
  simp only [take, read_bind, read_get]
  by_cases hlong : count ≤ input.length
  · have hlength : (input.take count).length = count := List.length_take_of_le hlong
    rw [if_neg (by omega), if_pos hlong]
    simp only [read_bind, read_set, hlength, if_neg (lt_irrefl count), read_pure]
  · have hlength : (input.take count).length = input.length := by
      rw [List.length_take, Nat.min_eq_right (by omega)]
    have hshort : input.length < count := Nat.lt_of_not_le hlong
    rw [if_neg hlong]
    by_cases hindex : maxIndex < count
    · rw [if_pos ⟨hshort, hindex⟩, if_pos hindex]
      simp only [read_bind, read_fail]
    · rw [if_neg fun h => hindex h.2, if_neg hindex]
      simp only [read_bind, read_set, hlength, if_pos hshort, read_fail]

lemma read_take_eq_ok_iff {count : Nat} {a : Bytes} :
    (take count).read input = (.ok a, rest) ↔ a.length = count ∧ input = a ++ rest := by
  rw [read_take]
  split_ifs with hlong
  · simp only [Prod.mk.injEq, Except.ok.injEq]
    constructor
    · rintro ⟨rfl, rfl⟩
      exact ⟨List.length_take_of_le hlong, (List.take_append_drop count input).symm⟩
    · rintro ⟨rfl, rfl⟩
      simp
  all_goals
    refine iff_of_false (by simp) ?_
    rintro ⟨rfl, rfl⟩
    simp at hlong

lemma read_uint_eq_ok_iff {width n : Nat} :
    (uint width).read input = (.ok n, rest) ↔
      n < 2 ^ (8 * width) ∧ input = Bytes.littleEndian width n ++ rest := by
  simp only [uint, read_bind_eq_ok_iff, read_take_eq_ok_iff, read_pure, Prod.mk.injEq,
    Except.ok.injEq]
  constructor
  · rintro ⟨s, mid, ⟨rfl, rfl⟩, rfl, rfl⟩
    exact ⟨Bytes.ofLittleEndian_lt s, by rw [Bytes.littleEndian_ofLittleEndian]⟩
  · rintro ⟨hn, rfl⟩
    exact ⟨_, _, ⟨Bytes.length_littleEndian width n, rfl⟩,
      Bytes.ofLittleEndian_littleEndian hn, rfl⟩

lemma ulebFrom_le {value weight n : Nat} (h : ulebFrom value weight input = (.ok n, rest)) :
    n ≤ maxCount := by
  fun_induction ulebFrom value weight input with
  | case1 | case2 => cases h
  | case3 _ _ _ _ sum hsum =>
    obtain rfl : sum = n := Except.ok.inj (congrArg Prod.fst h)
    exact Nat.not_lt.mp hsum
  | case4 _ _ _ _ _ _ _ ih => exact ih h

/-! ### Faults of the bytes -/

/-- The reader finds no other faults than those of the bytes. -/
def BlamesBytes (r : Reader α) : Prop :=
  ∀ input fault rest, r.read input = (.error fault, rest) → fault.IsOfBytes

namespace BlamesBytes

variable {fault : ReadFault}

lemma pure (a : α) : BlamesBytes (Pure.pure a : Reader α) := by
  intro input fault rest h
  simp at h

lemma fail (h : fault.IsOfBytes) :
    BlamesBytes (Reader.fail fault : Reader α) := by
  intro input fault' rest hread
  simp only [read_fail, Prod.mk.injEq, Except.error.injEq] at hread
  exact hread.1 ▸ h

lemma bind {r : Reader α} {next : α → Reader β} (hr : r.BlamesBytes)
    (hnext : ∀ input a rest, r.read input = (.ok a, rest) → (next a).BlamesBytes) :
    (r >>= next).BlamesBytes := by
  intro input fault rest h
  obtain hfirst | ⟨a, mid, hfirst, hsecond⟩ := read_bind_eq_error_iff.mp h
  · exact hr _ _ _ hfirst
  · exact hnext _ _ _ hfirst _ _ _ hsecond

lemma take {count : Nat} (h : count ≤ maxIndex) : (take count).BlamesBytes := by
  intro input fault rest hread
  rw [read_take, if_neg (Nat.not_lt.mpr h)] at hread
  split_ifs at hread <;> cases hread
  exact nofun

lemma uint {width : Nat} (h : width ≤ maxIndex) : (uint width).BlamesBytes :=
  (take h).bind fun _ _ _ _ => .pure _

lemma ulebFrom {value weight : Nat} (h : Reader.ulebFrom value weight input = (.error fault, rest)) :
    fault.IsOfBytes := by
  fun_induction Reader.ulebFrom value weight input with
  | case1 | case2 =>
    cases h
    exact nofun
  | case3 => cases h
  | case4 _ _ _ _ _ _ _ ih => exact ih h

lemma uleb : BlamesBytes uleb := fun _ _ _ => ulebFrom

lemma bytes : BlamesBytes bytes :=
  uleb.bind fun _ _ _ h => take ((ulebFrom_le h).trans (by decide))

end BlamesBytes

/-- That the bytes are no text is a fault of the bytes. -/
lemma text_eq : text = bytes >>= fun b =>
    match Utf8.decode b with
    | .ok t => Pure.pure t
    | .error fault => fail (.notUtf8 fault) := by
  funext input
  change text.read input = Reader.read _ input
  rw [text, read_tryCatch, read_bind, read_bind]
  rcases hread : bytes.read input with ⟨fault | b, rest⟩
  · have hfault := BlamesBytes.bytes _ _ _ hread
    split
    · rename_i heq
      cases heq
    · rename_i heq
      cases heq
      split
      · exact absurd rfl (hfault _)
      · rfl
  · dsimp only
    rw [decoded]
    cases Utf8.decode b <;> rfl

namespace BlamesBytes

lemma bool : BlamesBytes Reader.bool := by
  refine (uint (by decide)).bind fun _ n _ _ => ?_
  split
  · exact pure false
  · exact pure true
  · exact fail (by rintro _ ⟨⟩)

lemma text : BlamesBytes Reader.text := by
  rw [text_eq]
  refine bytes.bind fun _ b _ _ => ?_
  split
  · exact pure _
  · exact fail (by rintro _ ⟨⟩)

/-- As many bytes as an address has are one. -/
lemma address : BlamesBytes Address.reader := by
  refine (take (by decide)).bind fun input b rest h => ?_
  have hlength : b.length = 32 := (read_take_eq_ok_iff.mp h).1
  rw [Address.ofBytes, dif_pos hlength]
  exact pure _

lemma replicate {r : Reader α} (hr : r.BlamesBytes) (count : Nat) :
    (Reader.replicate r count).BlamesBytes := by
  induction count with
  | zero => exact pure []
  | succ count ih => exact hr.bind fun _ a _ _ => ih.bind fun _ others _ _ => pure (a :: others)

lemma sequence {r : Reader α} (hr : r.BlamesBytes) : (Reader.sequence r).BlamesBytes :=
  uleb.bind fun _ count _ _ => hr.replicate count

end BlamesBytes

end Reader

/-! ## Writing -/

namespace WriteFault

variable {value : Int}

/-- An integer that is out of range is shown if it has few enough digits. -/
lemma ofRange_of_lt (h : value.natAbs < 10 ^ Text.maxShownDigits) (type : String) :
    ofRange value type = .outOfRange value type := by
  rw [ofRange, Text.shown?_of_lt h, Option.elim_some]

lemma ofRange_of_le (h : 10 ^ Text.maxShownDigits ≤ value.natAbs) (type : String) :
    ofRange value type = .foreign (.unshown value) := by
  rw [ofRange, Text.shown?_of_le h, Option.elim_none]

end WriteFault

namespace Written

variable {ε : Type}

lemma complete_append (a b : Bytes) : (⟨a, none⟩ : Written ε) ++ ⟨b, none⟩ = ⟨a ++ b, none⟩ := rfl

@[simp] lemma toExcept_fixed (b : Bytes) : (fixed b : Written ε).toExcept = .ok b := rfl

lemma append_assoc (u v w : Written ε) : u ++ v ++ w = u ++ (v ++ w) := by
  change append (append u v) w = append u (append v w)
  rcases u with ⟨a, _ | fault⟩
  · rcases v with ⟨b, _ | fault⟩
    · simp [append]
    · rfl
  · rfl

lemma append_complete_nil (w : Written ε) : w ++ (⟨[], none⟩ : Written ε) = w := by
  change append w _ = w
  rcases w with ⟨b, _ | fault⟩ <;> simp [append]

lemma toExcept_append_eq_ok_iff {v w : Written ε} {bytes : Bytes} :
    (v ++ w).toExcept = .ok bytes ↔
      ∃ a b, v.toExcept = .ok a ∧ w.toExcept = .ok b ∧ bytes = a ++ b := by
  change (append v w).toExcept = .ok bytes ↔ _
  obtain ⟨a, _ | fault⟩ := v <;> obtain ⟨b, _ | fault'⟩ := w <;>
    simp [append, toExcept, eq_comm]

lemma toExcept_uint_eq_ok_iff {width n : Nat} {bytes : Bytes} :
    (uint width n).toExcept = .ok bytes ↔
      n < 2 ^ (8 * width) ∧ bytes = Bytes.littleEndian width n := by
  have hlimit : ((Nat.pow 2 (8 * width) : ℕ) : Int) ≤ n ↔ 2 ^ (8 * width) ≤ n := Int.ofNat_le
  rw [uint]
  split_ifs with h
  · simp only [failed, toExcept, reduceCtorEq, false_iff, not_and]
    omega
  · rw [toExcept, Int.toNat_natCast, Except.ok.injEq, eq_comm, iff_and_self]
    omega

lemma toExcept_uleb_eq_ok_iff {n : Nat} {bytes : Bytes} :
    (uleb n).toExcept = .ok bytes ↔ n ≤ maxCount ∧ bytes = ulebBytes n := by
  rw [uleb]
  split_ifs with h
  · simp only [failed, toExcept, reduceCtorEq, false_iff, not_and]
    omega
  · rw [toExcept, Int.toNat_natCast, Except.ok.injEq, eq_comm, iff_and_self]
    omega

lemma uleb_of_le {n : Nat} (h : n ≤ maxCount) : uleb n = ⟨ulebBytes n, none⟩ := by
  rw [uleb, if_neg (by omega), Int.toNat_natCast]

lemma count_of_le {n : Nat} (h : n ≤ maxCount) : count n = ⟨ulebBytes n, none⟩ :=
  if_neg (Nat.not_lt.mpr h)

lemma count_of_lt {n : Nat} (h : maxCount < n) :
    count n = ⟨[], some (.outOfRange n "uleb128")⟩ := if_pos h

/-- A count is written as the number that it is, which is shown if it is too large. -/
lemma count_eq_uleb {n : Nat} (h : n < 10 ^ Text.maxShownDigits) : count n = uleb n := by
  by_cases hn : n ≤ maxCount
  · rw [count_of_le hn, uleb_of_le hn]
  · rw [count_of_lt (Nat.lt_of_not_le hn), uleb, if_pos (.inr (by omega)),
      WriteFault.ofRange_of_lt (by rwa [Int.natAbs_natCast])]
    rfl

lemma concat_concat (parts : List (Written ε)) (w : Written ε) :
    concat (parts ++ [w]) = concat parts ++ w := by
  induction parts with
  | nil => exact w.append_complete_nil
  | cons first parts ih => rw [List.cons_append, concat, ih, concat, append_assoc]

lemma concat_map_complete {write : α → Written ε} {f : α → Bytes} {values : List α}
    (h : ∀ v ∈ values, write v = ⟨f v, none⟩) :
    concat (values.map write) = ⟨values.flatMap f, none⟩ := by
  induction values with
  | nil => rfl
  | cons v values ih =>
    obtain ⟨hv, hvalues⟩ := List.forall_mem_cons.mp h
    rw [List.map_cons, concat, hv, ih hvalues, complete_append, List.flatMap_cons]

@[simp] lemma toExcept_mapFault_eq_ok_iff {δ : Type} {f : ε → δ} {w : Written ε} {bytes : Bytes} :
    (w.mapFault f).toExcept = .ok bytes ↔ w.toExcept = .ok bytes := by
  obtain ⟨b, _ | fault⟩ := w <;> simp [mapFault, toExcept]

/-- What is complete has complete parts. -/
lemma exists_of_toExcept_concat {parts : List (Written ε)} {bytes : Bytes}
    (h : (concat parts).toExcept = .ok bytes) {w : Written ε} (hw : w ∈ parts) :
    ∃ b, w.toExcept = .ok b := by
  induction parts generalizing bytes with
  | nil => cases hw
  | cons first parts ih =>
    obtain ⟨b, _, hfirst, hparts, -⟩ := toExcept_append_eq_ok_iff.mp h
    obtain rfl | hw := List.mem_cons.mp hw
    · exact ⟨b, hfirst⟩
    · exact ih hparts hw

/-- Parts one after the other are complete when each of them is. -/
lemma toExcept_concat_map_eq_ok_iff {write : α → Written ε} {Fits : α → Prop} {f : α → Bytes}
    (h : ∀ v bytes, (write v).toExcept = .ok bytes ↔ Fits v ∧ bytes = f v) {values : List α}
    {bytes : Bytes} :
    (concat (values.map write)).toExcept = .ok bytes ↔
      (∀ v ∈ values, Fits v) ∧ bytes = values.flatMap f := by
  induction values generalizing bytes with
  | nil => simp [concat, toExcept, eq_comm]
  | cons v values ih =>
    simp only [List.map_cons, concat, toExcept_append_eq_ok_iff, h, ih, List.forall_mem_cons,
      List.flatMap_cons]
    constructor
    · rintro ⟨_, _, ⟨hv, rfl⟩, ⟨hvalues, rfl⟩, rfl⟩
      exact ⟨⟨hv, hvalues⟩, rfl⟩
    · rintro ⟨⟨hv, hvalues⟩, rfl⟩
      exact ⟨_, _, ⟨hv, rfl⟩, ⟨hvalues, rfl⟩, rfl⟩

/-- What stops the writing is a fault of the value. -/
def BlamesValue (w : Written WriteFault) : Prop :=
  ∀ fault, w.fault? = some fault → fault.IsOfValue

namespace BlamesValue

lemma complete (b : Bytes) : BlamesValue ⟨b, none⟩ := nofun

lemma append {v w : Written WriteFault} (hv : v.BlamesValue) (hw : w.BlamesValue) :
    (v ++ w).BlamesValue := by
  obtain ⟨a, _ | fault⟩ := v
  · exact hw
  · exact hv

lemma count (n : Nat) : (count n).BlamesValue := by
  by_cases hn : n ≤ maxCount
  · rw [count_of_le hn]
    exact .complete _
  · rw [count_of_lt (Nat.lt_of_not_le hn)]
    rintro fault ⟨⟩
    exact nofun

lemma countedBytes (b : Bytes) : (countedBytes b).BlamesValue := (count _).append (.complete b)

lemma text (t : Text) : (text t).BlamesValue := by
  rw [Written.text]
  split
  · exact .countedBytes _
  · rintro fault ⟨⟩
    exact nofun

lemma concat {parts : List (Written WriteFault)} (h : ∀ part ∈ parts, part.BlamesValue) :
    (concat parts).BlamesValue := by
  induction parts with
  | nil => exact .complete []
  | cons first parts ih =>
    obtain ⟨hfirst, hparts⟩ := List.forall_mem_cons.mp h
    exact hfirst.append (ih hparts)

lemma sequence {write : α → Written WriteFault} (h : ∀ v, (write v).BlamesValue)
    (values : List α) : (sequence write values).BlamesValue := by
  have hcount : ((Written.count (values.map write).length).mapFault id).BlamesValue := by
    rw [mapFault, Option.map_id_fun, id]
    exact .count _
  exact hcount.append (.concat (List.forall_mem_map.mpr fun v _ => h v))

/-- Writing that is not complete blames the value. -/
lemma isOfValue {w : Written WriteFault} (hw : w.BlamesValue) {fault : WriteFault}
    (h : w.toExcept = .error fault) : fault.IsOfValue := by
  obtain ⟨b, _ | fault'⟩ := w
  · cases h
  · cases h
    exact hw fault rfl

end BlamesValue

end Written

end MovePack.Codec
