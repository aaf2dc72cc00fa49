/-
# Reads that end by themselves

Reading a schema takes bytes from the front of the input and tells by them alone where the value
ends.  When it fails, the bytes are to blame, unless the schema asks for more bytes than an index
can count: then the operation that takes them fails, before it has taken any.  Where this happens is
told without looking at the faults: it is the place where such a number of bytes is asked for, after
everything before it has been read.
-/
import MovePack.Proofs.Codec.Locality

namespace MovePack

namespace Codec

variable {α : Type} {input rest : Bytes} {fault : ReadFault}

/-! ## Readers that blame the bytes -/

namespace Reader

lemma read_replicate_eq_error_iff {r : Reader α} {count : Nat} :
    (replicate r count).read input = (.error fault, rest) ↔
      ∃ i < count, ∃ before here, (replicate r i).read input = (.ok before, here) ∧
        r.read here = (.error fault, rest) := by
  induction count generalizing input with
  | zero => simp [replicate]
  | succ count ih =>
    simp only [replicate, read_bind_eq_error_iff, ih, read_pure, Prod.mk.injEq, reduceCtorEq,
      false_and, exists_false, and_false, or_false]
    constructor
    · rintro (hfirst | ⟨a, mid, hfirst, i, hi, before, here, hbefore, hfault⟩)
      · exact ⟨0, count.succ_pos, [], input, rfl, hfirst⟩
      · refine ⟨i + 1, Nat.succ_lt_succ hi, a :: before, here, ?_, hfault⟩
        simp only [replicate, read_bind, hfirst, hbefore, read_pure]
    · rintro ⟨i, hi, before, here, hbefore, hfault⟩
      cases i with
      | zero =>
        obtain ⟨rfl, rfl⟩ : [] = before ∧ input = here := by simpa [replicate] using hbefore
        exact .inl hfault
      | succ i =>
        simp only [replicate, read_bind_eq_ok_iff, read_pure] at hbefore
        obtain ⟨a, mid, hfirst, others, here', hothers, hhere⟩ := hbefore
        obtain ⟨-, rfl⟩ := Prod.mk.inj hhere
        exact .inr ⟨a, mid, hfirst, i, Nat.lt_of_succ_lt_succ hi, others, here', hothers, hfault⟩

/-- A sequence is not read when its count is not, or one of its elements behind those before it. -/
lemma read_sequence_eq_error_iff {r : Reader α} :
    (sequence r).read input = (.error fault, rest) ↔
      uleb.read input = (.error fault, rest) ∨
        ∃ count first, uleb.read input = (.ok count, first) ∧
          ∃ i < count, ∃ before here, (replicate r i).read first = (.ok before, here) ∧
            r.read here = (.error fault, rest) := by
  simp only [sequence, read_bind_eq_error_iff, read_replicate_eq_error_iff]

lemma BlamesBytes.typeTag : BlamesBytes TypeTag.reader := by
  have hnumbers : ∀ fuel depth, (TypeTag.numbers depth fuel).BlamesBytes := by
    intro fuel
    induction fuel with
    | zero =>
      intro depth input fault rest h
      cases h
      rintro _ ⟨⟩
    | succ fuel ih =>
      intro depth
      rw [TypeTag.numbers_succ]
      refine BlamesBytes.uleb.bind fun _ variant _ _ => ?_
      split_ifs
      · exact ih (depth + 1)
      · cases h : TypeTag.ofInnermost depth variant with
        | ok tag => exact .pure tag
        | error fault => exact .fail (TypeTag.isOfBytes_of_ofInnermost h)
  intro input fault rest h
  rw [TypeTag.read_reader_of_lt (Nat.lt_succ_self _)] at h
  exact hnumbers _ _ _ _ _ h

end Reader

/-! ## More bytes than can be counted -/

namespace Schema

/-- Reading the schema comes to a place, with `rest` before it, where it asks for `count` bytes and
these are more than an index can count. -/
inductive AsksBeyond : Schema → Bytes → Nat → Bytes → Prop
  /-- For the bytes of an integer. -/
  | uint {width : Nat} {input : Bytes} (h : maxIndex < width) :
    AsksBeyond (.uint width) input width input
  /-- For a given number of bytes. -/
  | fixed {length : Nat} {input : Bytes} (h : maxIndex < length) :
    AsksBeyond (.fixed length) input length input
  /-- In an element of a sequence, when those before it have been read. -/
  | element {element : Schema} {input first here rest : Bytes} {size i count : Nat}
    {before : List element.Carrier} (hsize : Reader.uleb.read input = (.ok size, first))
    (hi : i < size) (hbefore : (Reader.replicate element.reader i).read first = (.ok before, here))
    (h : AsksBeyond element here count rest) : AsksBeyond (.sequence element) input count rest

/-- All numbers of bytes that the schema gives are indices. -/
def IsCountable : Schema → Prop
  | .uint width => width ≤ maxIndex
  | .fixed length => length ≤ maxIndex
  | .sequence element => element.IsCountable
  | _ => True

variable {t : Schema} {cause : ReadCause}

lemma blamesBytes_reader (h : t.IsCountable) : t.reader.BlamesBytes := by
  induction t with
  | bool => exact .bool
  | uint width => exact (Reader.BlamesBytes.uint h).bind fun _ _ _ _ => .pure _
  | uleb => exact Reader.BlamesBytes.uleb.bind fun _ _ _ _ => .pure _
  | bytes => exact .bytes
  | fixed length => exact .take h
  | rest =>
    intro input fault rest h
    cases h
  | text => exact .text
  | address => exact .address
  | typeTag => exact .typeTag
  | sequence element ih => exact .sequence (ih h)

lemma read_take_eq_foreign_iff {count : Nat} (hinput : input.length ≤ maxIndex) :
    (Reader.take count).read input = (.error (.foreign cause), rest) ↔
      cause = .notAnIndex count ∧ maxIndex < count ∧ rest = input := by
  rw [Reader.read_take]
  by_cases hcount : maxIndex < count
  · rw [if_neg (by omega), if_pos hcount]
    simp [hcount, eq_comm]
  · rw [if_neg hcount]
    split_ifs <;> simp [hcount]

/-- What is left for an element of a sequence is a part of the input. -/
lemma length_le_of_read_replicate {element : Schema} (ht : element.SelfDelimiting)
    {first here : Bytes} {size i : Nat} {before : List element.Carrier}
    (hsize : Reader.uleb.read input = (.ok size, first))
    (hbefore : (Reader.replicate element.reader i).read first = (.ok before, here)) :
    here.length ≤ input.length := by
  have hfirst := Reader.IsLocal.uleb.suffix input
  have hrest := ((isLocal_reader ht).replicate i).suffix first
  rw [hsize] at hfirst
  rw [hbefore] at hrest
  exact (hrest.trans hfirst).length_le

/-- In a sequence more bytes are asked for than can be counted where this is so in an element. -/
lemma read_sequence_eq_foreign_iff {element : Schema} (ht : element.SelfDelimiting)
    (hinput : input.length ≤ maxIndex)
    (helement : ∀ {here : Bytes}, here.length ≤ maxIndex →
      (element.reader.read here = (.error (.foreign cause), rest) ↔
        ∃ count, cause = .notAnIndex count ∧ element.AsksBeyond here count rest)) :
    (Reader.sequence element.reader).read input = (.error (.foreign cause), rest) ↔
      ∃ count, cause = .notAnIndex count ∧
        (Schema.sequence element).AsksBeyond input count rest := by
  rw [Reader.read_sequence_eq_error_iff]
  constructor
  · rintro (hsize | ⟨size, first, hsize, i, hi, before, here, hbefore, hread⟩)
    · exact absurd rfl (Reader.BlamesBytes.uleb _ _ _ hsize cause)
    · have hhere := (length_le_of_read_replicate ht hsize hbefore).trans hinput
      obtain ⟨count, rfl, hasks⟩ := (helement hhere).mp hread
      exact ⟨count, rfl, .element hsize hi hbefore hasks⟩
  · rintro ⟨count, rfl, hasks⟩
    cases hasks with
    | element hsize hi hbefore hasks =>
      have hhere := (length_le_of_read_replicate ht hsize hbefore).trans hinput
      exact .inr ⟨_, _, hsize, _, hi, _, _, hbefore, (helement hhere).mpr ⟨count, rfl, hasks⟩⟩

/-- The bytes are not blamed where more of them are asked for than can be counted, and only
there. -/
lemma read_eq_foreign_iff (ht : t.SelfDelimiting) (hinput : input.length ≤ maxIndex) :
    t.reader.read input = (.error (.foreign cause), rest) ↔
      ∃ count, cause = .notAnIndex count ∧ t.AsksBeyond input count rest := by
  induction t generalizing input with
  | uint width =>
    simp only [reader, Reader.uint, Reader.read_bind_eq_error_iff, read_take_eq_foreign_iff hinput,
      Reader.read_pure, Prod.mk.injEq, reduceCtorEq, false_and, and_false, exists_false, or_false]
    constructor
    · rintro ⟨rfl, hwidth, rfl⟩
      exact ⟨width, rfl, .uint hwidth⟩
    · rintro ⟨_, rfl, hasks⟩
      cases hasks with
      | uint hwidth => exact ⟨rfl, hwidth, rfl⟩
  | fixed length =>
    rw [reader, read_take_eq_foreign_iff hinput]
    constructor
    · rintro ⟨rfl, hlength, rfl⟩
      exact ⟨length, rfl, .fixed hlength⟩
    · rintro ⟨_, rfl, hasks⟩
      cases hasks with
      | fixed hlength => exact ⟨rfl, hlength, rfl⟩
  | rest => exact ht.elim
  | sequence element ih => exact read_sequence_eq_foreign_iff ht hinput (ih ht)
  | _ =>
    refine iff_of_false (fun hread => ?_) (by rintro ⟨_, -, ⟨⟩⟩)
    exact blamesBytes_reader (by trivial) _ _ _ hread cause rfl

/-- **Reads end by themselves.**  Reading a schema takes bytes from the front of the input and
leaves the others, also when it fails.  A value is read from the bytes taken for it alone, and from
nothing but all of them: whatever follows them is left over, and a strict part of them ends too
early.  A fault that is not of this kind is found whatever follows the input.  It is a fault of the
bytes, unless reading comes to a place where more bytes are asked for than an index can count; there
the bytes are not blamed, and none of them are taken.  A schema that gives no such number never
comes to such a place. -/
theorem read_selfDelimiting {t : Schema} (ht : t.SelfDelimiting) {input : Bytes}
    (hinput : input.length ≤ maxIndex) :
    (∃ used rest, input = used ++ rest ∧
      ((∃ v, t.reader.read input = (.ok v, rest) ∧
          (∀ more, t.reader.read (used ++ more) = (.ok v, more)) ∧
          ∀ front, front <+: used → front ≠ used →
            ∃ requested found, (t.reader.read front).1 = .error (.endOfInput requested found)) ∨
        ∃ fault, t.reader.read input = (.error fault, rest) ∧
          ((∃ requested found, fault = .endOfInput requested found) ∨
            ∀ more, (input ++ more).length ≤ maxIndex →
              t.reader.read (input ++ more) = (.error fault, rest ++ more)))) ∧
    (∀ cause rest, t.reader.read input = (.error (.foreign cause), rest) ↔
      ∃ count, cause = .notAnIndex count ∧ t.AsksBeyond input count rest) ∧
    (t.IsCountable → ∀ cause rest, t.reader.read input ≠ (.error (.foreign cause), rest)) := by
  have hlocal := isLocal_reader ht
  refine ⟨?_, fun cause rest => read_eq_foreign_iff ht hinput, fun hcountable cause rest hread =>
    blamesBytes_reader hcountable _ _ _ hread cause rfl⟩
  rcases hread : t.reader.read input with ⟨fault | v, rest⟩
  · obtain ⟨used, hused⟩ := hlocal.exists_append hread
    exact ⟨used, rest, hused, .inr ⟨fault, rfl,
      (hlocal.fault hread).imp_right fun hmore more hle => hmore more (.inr hle)⟩⟩
  · obtain ⟨used, rfl⟩ := hlocal.exists_append hread
    have halone := hlocal.value_iff.mp hread
    rw [List.length_append] at hinput
    exact ⟨used, rest, rfl, .inl ⟨v, rfl, fun more => hlocal.value_iff.mpr halone,
      fun front => hlocal.endOfInput_of_prefix (.inr (by omega)) halone⟩⟩

/-- A sequence of two type tags, the first one in a padded form, in front of a byte that is left,
and the same bytes cut inside the first tag. -/
theorem read_selfDelimiting_typeTags :
    (Schema.sequence .typeTag).SelfDelimiting ∧
    ([2, 6, 0x86, 0, 1, 4, 7] : Bytes).length ≤ maxIndex ∧
    (Schema.sequence .typeTag).reader.read [2, 6, 0x86, 0, 1, 4, 7] =
      (.ok [⟨2, .u8⟩, ⟨0, .address⟩], [7]) ∧
    (∀ more, (Schema.sequence .typeTag).reader.read ([2, 6, 0x86, 0, 1, 4] ++ more) =
      (.ok [⟨2, .u8⟩, ⟨0, .address⟩], more)) ∧
    ∃ requested found, ((Schema.sequence .typeTag).reader.read [2, 6, 0x86]).1 =
      .error (.endOfInput requested found) := by
  have hdelimited : (Schema.sequence .typeTag).SelfDelimiting := trivial
  have hlength : ([2, 6, 0x86, 0, 1, 4, 7] : Bytes).length ≤ maxIndex := by decide
  have hread : (Schema.sequence .typeTag).reader.read [2, 6, 0x86, 0, 1, 4, 7] =
      (.ok [⟨2, .u8⟩, ⟨0, .address⟩], [7]) := by rfl
  obtain ⟨⟨used, rest, hused, ⟨v, hv, hmore, hfront⟩ | ⟨fault, hfault, -⟩⟩, -⟩ :=
    read_selfDelimiting hdelimited hlength
  · rw [hread] at hv
    cases hv
    have hsplit : [2, 6, 0x86, 0, 1, 4] ++ [7] = used ++ [7] := hused
    obtain rfl := List.append_cancel_right hsplit
    exact ⟨hdelimited, hlength, hread, hmore, hfront _ (by decide) (by decide)⟩
  · rw [hread] at hfault
    cases hfault

/-- No bytes are left, and one more is asked for than an index can count: this is not answered as
the end of the input is, though one byte fewer would be. -/
theorem read_beyond_index :
    (Schema.fixed (2 ^ 63)).SelfDelimiting ∧
    (Schema.fixed (2 ^ 63)).reader.read [] = (.error (.foreign (.notAnIndex (2 ^ 63))), []) ∧
    ¬ (∃ fault rest, (Schema.fixed (2 ^ 63)).reader.read [] = (.error fault, rest) ∧
      fault.IsOfBytes) ∧
    (Schema.fixed (2 ^ 63 - 1)).reader.read [] = (.error (.endOfInput (2 ^ 63 - 1) 0), []) := by
  have hread : (Schema.fixed (2 ^ 63)).reader.read [] =
      (.error (.foreign (.notAnIndex (2 ^ 63))), []) := by decide
  refine ⟨trivial, hread, ?_, by decide⟩
  rintro ⟨fault, rest, hfault, hbytes⟩
  rw [hread] at hfault
  cases hfault
  exact hbytes _ rfl

end Schema

end Codec

end MovePack
