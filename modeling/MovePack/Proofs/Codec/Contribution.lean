/-
# What a value contributes

A value with a serialized form contributes that to an output.  Another one contributes nothing, as
it is refused before anything of it is written, unless it is a sequence with a count that can be
written: then the count, the elements before the first that fails, and whatever that one contributes
are there before the sequence fails as the element does.  Each value contributes one thing, which is
what is written for it.

The fault is one of the value, unless the value holds an integer that is out of range and has too
many digits to be shown in a message.
-/
import MovePack.Proofs.Codec.RoundTrip

namespace MovePack.Codec

variable {α ε : Type}

namespace Written

lemma complete_append_append (a b : Bytes) (w : Written ε) :
    ⟨a, none⟩ ++ (⟨b, none⟩ ++ w) = (⟨a ++ b, none⟩ : Written ε) ++ w := by
  change (⟨a ++ (b ++ w.bytes), w.fault?⟩ : Written ε) = ⟨a ++ b ++ w.bytes, w.fault?⟩
  rw [List.append_assoc]

lemma countedBytes_of_lt {b : Bytes} (h : maxCount < b.length) :
    countedBytes b = ⟨[], some (.outOfRange b.length "uleb128")⟩ := by
  rw [countedBytes, count_of_lt h]
  rfl

/-- A sequence is its count and then its elements. -/
lemma sequence_eq (write : α → Written WriteFault) (values : List α) :
    sequence write values = count values.length ++ concat (values.map write) := by
  have hcount : (count values.length).mapFault id = count values.length := by
    rw [mapFault, Option.map_id, id]
  rw [sequence, counted, List.length_map, hcount]

end Written

namespace Schema

/-- The value has a serialized form.  A given number of bytes is written whatever their number. -/
def Writable : (t : Schema) → t.Carrier → Prop
  | .bool, _ => True
  | .uint width, (n : Int) => 0 ≤ n ∧ n < 2 ^ (8 * width)
  | .uleb, (n : Int) => 0 ≤ n ∧ n ≤ maxCount
  | .bytes, b => b.length ≤ maxCount
  | .fixed _, _ => True
  | .rest, _ => True
  | .text, t => (∀ c ∈ t, c.isSurrogate = false) ∧ (Utf8.bytes t).length ≤ maxCount
  | .address, _ => True
  | .typeTag, _ => True
  | .sequence element, values => values.length ≤ maxCount ∧ ∀ v ∈ values, element.Writable v

/-- The integer is negative or beyond the largest integer that there is place for. -/
def IsOutOfRange (largest n : Int) : Prop := n < 0 ∨ largest < n

/-- Reason for which an integer is refused that is out of the range of a type: it is shown in the
message if it has few enough digits; otherwise making the message fails. -/
inductive RefusesInteger (type : String) (n : Int) : WriteFault → Prop
  /-- The message shows the integer. -/
  | shown (h : n.natAbs < 10 ^ Text.maxShownDigits) : RefusesInteger type n (.outOfRange n type)
  /-- The integer has too many digits. -/
  | unshown (h : 10 ^ Text.maxShownDigits ≤ n.natAbs) :
    RefusesInteger type n (.foreign (.unshown n))

/-- The value is no sequence and has no serialized form, for this reason. -/
inductive Refuses : (t : Schema) → t.Carrier → WriteFault → Prop
  /-- The integer is negative or too large for its bytes. -/
  | uint {width : Nat} {n : Int} {fault : WriteFault} (h : IsOutOfRange (2 ^ (8 * width) - 1) n)
    (hfault : RefusesInteger ("u" ++ toString (8 * width)) n fault) :
    Refuses (.uint width) n fault
  /-- The integer is negative or has more than 32 bits. -/
  | uleb {n : Int} {fault : WriteFault} (h : IsOutOfRange maxCount n)
    (hfault : RefusesInteger "uleb128" n fault) : Refuses .uleb n fault
  /-- The bytes are too many to be counted. -/
  | bytes {b : Bytes} (h : maxCount < b.length) : Refuses .bytes b (.outOfRange b.length "uleb128")
  /-- The text has surrogates. -/
  | surrogates {t : Text} {fault : EncodeFault} (h : ∃ c ∈ t, c.isSurrogate = true)
    (hfault : Utf8.encode t = .error fault) : Refuses .text t (.notUnicode fault)
  /-- The text is too long. -/
  | longText {t : Text} (h : ∀ c ∈ t, c.isSurrogate = false)
    (hlong : maxCount < (Utf8.bytes t).length) :
    Refuses .text t (.outOfRange (Utf8.bytes t).length "uleb128")

/-- What a value contributes to an output.  A value with a serialized form contributes that, and a
refused one nothing, unless it is a sequence: that contributes its count, the forms of the elements
before the first that fails, and whatever that one contributes, and fails as that one does. -/
inductive Contributes : (t : Schema) → t.Carrier → Written WriteFault → Prop
  /-- The value has a serialized form. -/
  | whole {t : Schema} {v : t.Carrier} (h : t.Writable v) :
    Contributes t v ⟨spell (t.layout v), none⟩
  /-- The value is refused. -/
  | nothing {t : Schema} {v : t.Carrier} {fault : WriteFault} (h : t.Refuses v fault) :
    Contributes t v ⟨[], some fault⟩
  /-- The elements are too many to be counted. -/
  | tooMany {element : Schema} {values : List element.Carrier} (h : maxCount < values.length) :
    Contributes (.sequence element) values ⟨[], some (.outOfRange values.length "uleb128")⟩
  /-- An element fails, and those before it have serialized forms. -/
  | element {element : Schema} {before after : List element.Carrier} {v : element.Carrier}
    {bytes : Bytes} {fault : WriteFault} (hcount : (before ++ v :: after).length ≤ maxCount)
    (hbefore : ∀ b ∈ before, element.Writable b)
    (h : Contributes element v ⟨bytes, some fault⟩) :
    Contributes (.sequence element) (before ++ v :: after)
      ⟨spell (.number (before ++ v :: after).length :: before.flatMap element.layout) ++ bytes,
        some fault⟩

variable {t : Schema} {v : t.Carrier} {part : Written WriteFault}

section Sequence

variable {element : Schema} {before rest : List element.Carrier}

/-- Elements with serialized forms are written before what follows them. -/
lemma concat_map_append (h : ∀ b ∈ before, element.write b = ⟨spell (element.layout b), none⟩) :
    Written.concat ((before ++ rest).map element.write) =
      ⟨spell (before.flatMap element.layout), none⟩ ++ Written.concat (rest.map element.write) := by
  induction before with
  | nil => rfl
  | cons b before ih =>
    obtain ⟨hb, hbefore⟩ := List.forall_mem_cons.mp h
    rw [List.cons_append, List.map_cons, Written.concat, hb, ih hbefore,
      Written.complete_append_append, List.flatMap_cons, spell_append]

lemma write_sequence_append (hcount : (before ++ rest).length ≤ maxCount)
    (hbefore : ∀ b ∈ before, element.write b = ⟨spell (element.layout b), none⟩) :
    (Schema.sequence element).write (before ++ rest) =
      ⟨spell (.number (before ++ rest).length :: before.flatMap element.layout), none⟩ ++
        Written.concat (rest.map element.write) := by
  rw [write, Written.sequence_eq, Written.count_of_le hcount, concat_map_append hbefore,
    Written.complete_append_append, spell_cons, Piece.bytes]

end Sequence

lemma write_of_writable (h : t.Writable v) : t.write v = ⟨spell (t.layout v), none⟩ := by
  induction t with
  | bool => exact IsFormat.bool.write_eq v trivial
  | uint width => exact (IsFormat.uint width).write_eq v h
  | uleb => exact IsFormat.uleb.write_eq v h
  | bytes => exact IsFormat.countedBytes.write_eq v h
  | fixed length => exact (IsFormat.fixed v.length).write_eq v rfl
  | rest => exact (IsFormat.fixed v.length).write_eq v rfl
  | text => exact IsFormat.text.write_eq v h
  | address => exact IsFormat.address.write_eq v trivial
  | typeTag => exact TypeTag.write_eq_spell_layout v
  | sequence element ih =>
    obtain ⟨hcount, hvalues⟩ := h
    have hwrite := @write_sequence_append element v [] (by rwa [List.append_nil])
      fun b hb => ih (hvalues b hb)
    rw [List.append_nil] at hwrite
    rw [hwrite, layout, sequenceLayout]
    simp [Written.concat, Written.complete_append]

/-- Each integer that is out of range is refused for one reason. -/
lemma refusesInteger_iff {type : String} {n : Int} {fault : WriteFault} :
    RefusesInteger type n fault ↔ fault = .ofRange n type := by
  constructor
  · intro h
    cases h with
    | shown h => exact (WriteFault.ofRange_of_lt h type).symm
    | unshown h => exact (WriteFault.ofRange_of_le h type).symm
  · intro hfault
    by_cases h : n.natAbs < 10 ^ Text.maxShownDigits
    · rw [hfault, WriteFault.ofRange_of_lt h]
      exact .shown h
    · rw [hfault, WriteFault.ofRange_of_le (Nat.not_lt.mp h)]
      exact .unshown (Nat.not_lt.mp h)

lemma write_of_refuses {fault : WriteFault} (h : t.Refuses v fault) :
    t.write v = ⟨[], some fault⟩ := by
  cases h with
  | @uint width n _ h hfault =>
    have hlimit : ((Nat.pow 2 (8 * width) : ℕ) : Int) = 2 ^ (8 * width) := by simp
    rw [refusesInteger_iff.mp hfault]
    rw [IsOutOfRange] at h
    exact if_pos (by omega)
  | uleb h hfault =>
    rw [refusesInteger_iff.mp hfault]
    exact if_pos h
  | bytes h => exact Written.countedBytes_of_lt h
  | surrogates h hfault =>
    rw [write, Written.text, hfault]
    rfl
  | longText h hlong =>
    rw [write, Written.text, Utf8.encode_eq_ok h]
    exact Written.countedBytes_of_lt hlong

/-- What has no serialized form is refused, unless it is a sequence. -/
lemma writable_or_refuses (ht : ∀ element, t ≠ .sequence element) :
    t.Writable v ∨ ∃ fault, t.Refuses v fault := by
  cases t with
  | uint width =>
    by_cases h : IsOutOfRange (2 ^ (8 * width) - 1) v
    · exact .inr ⟨_, .uint h (refusesInteger_iff.mpr rfl)⟩
    · rw [IsOutOfRange, not_or, Int.not_lt, Int.not_lt] at h
      exact .inl ⟨h.1, Int.lt_of_le_sub_one h.2⟩
  | uleb =>
    by_cases h : IsOutOfRange maxCount v
    · exact .inr ⟨_, .uleb h (refusesInteger_iff.mpr rfl)⟩
    · exact .inl (by rwa [IsOutOfRange, not_or, Int.not_lt, Int.not_lt] at h)
  | bytes =>
    by_cases h : maxCount < v.length
    · exact .inr ⟨_, .bytes h⟩
    · exact .inl (Nat.not_lt.mp h)
  | text =>
    by_cases h : ∀ c ∈ v, c.isSurrogate = false
    · by_cases hlong : maxCount < (Utf8.bytes v).length
      · exact .inr ⟨_, .longText h hlong⟩
      · exact .inl ⟨h, Nat.not_lt.mp hlong⟩
    · cases hencode : Utf8.encode v with
      | ok b => exact absurd (Utf8.isSurrogate_of_encode hencode) h
      | error fault => exact .inr ⟨_, .surrogates (by simpa using h) hencode⟩
  | sequence element => exact absurd rfl (ht element)
  | _ => exact .inl trivial

lemma contributes_of_ne_sequence (ht : ∀ element, t ≠ .sequence element) :
    t.Contributes v (t.write v) := by
  obtain h | ⟨fault, h⟩ := writable_or_refuses ht (v := v)
  · rw [write_of_writable h]
    exact .whole h
  · rw [write_of_refuses h]
    exact .nothing h

lemma Contributes.exists_fault (h : t.Contributes v part) (hv : ¬ t.Writable v) :
    ∃ bytes fault, part = ⟨bytes, some fault⟩ := by
  cases h with
  | whole h => exact absurd h hv
  | nothing => exact ⟨_, _, rfl⟩
  | tooMany => exact ⟨_, _, rfl⟩
  | element => exact ⟨_, _, rfl⟩

/-- The first element that has no serialized form. -/
lemma exists_first_not_writable {element : Schema} {values : List element.Carrier}
    (h : ¬ ∀ v ∈ values, element.Writable v) :
    ∃ before v after, values = before ++ v :: after ∧ (∀ b ∈ before, element.Writable b) ∧
      ¬ element.Writable v := by
  induction values with
  | nil => exact absurd nofun h
  | cons v values ih =>
    by_cases hv : element.Writable v
    · obtain ⟨before, first, after, rfl, hbefore, hfirst⟩ :=
        ih fun hvalues => h (List.forall_mem_cons.mpr ⟨hv, hvalues⟩)
      exact ⟨v :: before, first, after, rfl, List.forall_mem_cons.mpr ⟨hv, hbefore⟩, hfirst⟩
    · exact ⟨[], v, values, rfl, nofun, hv⟩

/-- A sequence is written up to an element that fails. -/
lemma write_sequence_of_fails {element : Schema} {before after : List element.Carrier}
    {v : element.Carrier} {bytes : Bytes} {fault : WriteFault}
    (hcount : (before ++ v :: after).length ≤ maxCount)
    (hbefore : ∀ b ∈ before, element.Writable b) (hv : element.write v = ⟨bytes, some fault⟩) :
    (Schema.sequence element).write (before ++ v :: after) =
      ⟨spell (.number (before ++ v :: after).length :: before.flatMap element.layout) ++ bytes,
        some fault⟩ := by
  rw [write_sequence_append hcount fun b hb => write_of_writable (hbefore b hb), List.map_cons,
    Written.concat, hv]
  rfl

/-- What is written is contributed. -/
lemma contributes_write (t : Schema) (v : t.Carrier) : t.Contributes v (t.write v) := by
  induction t with
  | sequence element ih =>
    by_cases hcount : v.length ≤ maxCount
    · by_cases hvalues : ∀ b ∈ v, element.Writable b
      · have hwritable : (Schema.sequence element).Writable v := ⟨hcount, hvalues⟩
        rw [write_of_writable hwritable]
        exact .whole hwritable
      · obtain ⟨before, first, after, rfl, hbefore, hfirst⟩ := exists_first_not_writable hvalues
        obtain ⟨bytes, fault, hwrite⟩ := (ih first).exists_fault hfirst
        rw [write_sequence_of_fails hcount hbefore hwrite]
        exact .element hcount hbefore (hwrite ▸ ih first)
    · rw [write, Written.sequence_eq, Written.count_of_lt (Nat.lt_of_not_le hcount)]
      exact .tooMany (Nat.lt_of_not_le hcount)
  | _ => exact contributes_of_ne_sequence nofun

/-- A value contributes what is written for it, and nothing else. -/
theorem contributes_iff : t.Contributes v part ↔ t.write v = part := by
  constructor
  · intro h
    induction h with
    | whole h => exact write_of_writable h
    | nothing h => exact write_of_refuses h
    | tooMany h =>
      rw [write, Written.sequence_eq, Written.count_of_lt h]
      rfl
    | element hcount hbefore _ ih => exact write_sequence_of_fails hcount hbefore ih
  · rintro rfl
    exact contributes_write t v

/-! ## Integers that are not shown -/

/-- The integers in a value. -/
def integers : (t : Schema) → t.Carrier → List Int
  | .uint _, n => [n]
  | .uleb, n => [n]
  | .sequence element, values => values.flatMap element.integers
  | _, _ => []

lemma RefusesInteger.isOfValue_or {type : String} {n : Int} {fault : WriteFault}
    (h : RefusesInteger type n fault) :
    fault.IsOfValue ∨ fault = .foreign (.unshown n) ∧ 10 ^ Text.maxShownDigits ≤ n.natAbs := by
  cases h with
  | shown => exact .inl nofun
  | unshown h => exact .inr ⟨rfl, h⟩

/-- A value fails for a fault of its own, unless an integer in it has too many digits. -/
lemma Contributes.isOfValue_or (h : t.Contributes v part) {fault : WriteFault}
    (hfault : part.fault? = some fault) :
    fault.IsOfValue ∨ ∃ n ∈ t.integers v,
      fault = .foreign (.unshown n) ∧ 10 ^ Text.maxShownDigits ≤ n.natAbs := by
  induction h with
  | whole => cases hfault
  | nothing h =>
    cases hfault
    cases h with
    | uint _ h => exact h.isOfValue_or.imp_right fun h => ⟨_, List.mem_singleton_self _, h⟩
    | uleb _ h => exact h.isOfValue_or.imp_right fun h => ⟨_, List.mem_singleton_self _, h⟩
    | bytes | surrogates | longText => exact .inl nofun
  | tooMany =>
    cases hfault
    exact .inl nofun
  | element _ _ _ ih =>
    cases hfault
    refine (ih rfl).imp_right fun ⟨n, hn, h⟩ => ⟨n, ?_, h⟩
    exact List.mem_flatMap.mpr ⟨_, List.mem_append_right _ List.mem_cons_self, hn⟩

end Schema

end MovePack.Codec
