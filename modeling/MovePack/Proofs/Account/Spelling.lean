/-
# Spellings of an address

The checksummed form of an address depends on a network, which the text holds in one or two bytes;
the first one announces whether there is a second.  Two bytes have room for the numbers below 64,
too, for which one is enough.  An address has therefore one spelling for every row of bytes that
announces itself, and these spellings, with white space behind them, are what is read as the
address.  The forms for the networks below 16384 are those spellings whose bytes are not padded.
-/
import MovePack.Account.Checksummed
import MovePack.Proofs.Account.Address
import MovePack.Proofs.Hash.Blake2
import MovePack.Proofs.Text.Base58

namespace MovePack.Address

/-! ## Networks in bytes -/

/-- The bytes stand for a network: the first one announces how many there are. -/
def IsNetwork (network : Bytes) : Prop :=
  ∃ first, network.head? = some first ∧ first.toNat ≤ 127 ∧ network.length = networkSize first

/-- The number of the network that the bytes stand for. -/
def networkNumber : Bytes → Nat
  | [low] => low.toNat
  | [first, second] => second.toNat % 64 * 256 + first.toNat % 64 * 4 + second.toNat / 64
  | _ => 0

/-- There are two bytes for a network for which one is enough. -/
def IsPaddedNetwork (network : Bytes) : Prop := 1 < network.length ∧ networkNumber network < 64

instance (network : Bytes) : Decidable (IsPaddedNetwork network) :=
  inferInstanceAs (Decidable (_ ∧ _))

/-- The two bytes of a number of 14 bits in three groups. -/
def twoBytes (high middle low : Nat) : Bytes :=
  [UInt8.ofNat (middle + 0x40), UInt8.ofNat (high + low * 64)]

section Networks

variable {network : Bytes} {n high middle low : Nat}

/-- A number of 14 bits is made of its lowest two, the next six and the highest six. -/
lemma exists_groups (h : n < 16384) :
    ∃ high middle low, high < 64 ∧ middle < 64 ∧ low < 4 ∧ n = high * 256 + middle * 4 + low :=
  ⟨n / 256, n % 256 / 4, n % 4, by omega, by omega, by omega, by omega⟩

lemma networkNumber_twoBytes (hhigh : high < 64) (hmiddle : middle < 64) (hlow : low < 4) :
    networkNumber (twoBytes high middle low) = high * 256 + middle * 4 + low := by
  have hfirst : (UInt8.ofNat (middle + 0x40)).toNat = middle + 64 := by
    simp
    omega
  have hsecond : (UInt8.ofNat (high + low * 64)).toNat = high + low * 64 := by
    simp
    omega
  rw [twoBytes, networkNumber, hfirst, hsecond]
  omega

lemma networkBytes_of_groups (hmiddle : middle < 64) (hlow : low < 4)
    (hlarge : 64 ≤ high * 256 + middle * 4 + low) :
    networkBytes (high * 256 + middle * 4 + low) = twoBytes high middle low := by
  have hfirst : (high * 256 + middle * 4 + low) % 256 / 4 = middle := by omega
  have hsecond : (high * 256 + middle * 4 + low) / 256 = high := by omega
  have hthird : (high * 256 + middle * 4 + low) % 4 = low := by omega
  rw [networkBytes, if_neg (by omega), hfirst, hsecond, hthird, twoBytes]

/-- There is one byte below 64, or there are the two bytes of a number. -/
lemma IsNetwork.cases (h : IsNetwork network) :
    (∃ b : UInt8, b.toNat < 64 ∧ network = [b]) ∨
      ∃ high middle low, high < 64 ∧ middle < 64 ∧ low < 4 ∧ network = twoBytes high middle low := by
  obtain ⟨first, hhead, hfirst, hlength⟩ := h
  obtain ⟨rest, rfl⟩ := List.head?_eq_some_iff.mp hhead
  rw [networkSize, List.length_cons] at hlength
  split_ifs at hlength with hflag
  · obtain ⟨second, rfl⟩ := List.length_eq_one_iff.mp (Nat.succ.inj hlength)
    have hsecond := second.toNat_lt
    have hmiddle : first.toNat - 64 + 0x40 = first.toNat := by omega
    have hgroups : second.toNat % 64 + second.toNat / 64 * 64 = second.toNat := by omega
    refine .inr ⟨second.toNat % 64, first.toNat - 64, second.toNat / 64, by omega, by omega,
      by omega, ?_⟩
    rw [twoBytes, hmiddle, hgroups, UInt8.ofNat_toNat, UInt8.ofNat_toNat]
  · obtain rfl := List.length_eq_zero_iff.mp (Nat.succ.inj hlength)
    exact .inl ⟨first, by omega, rfl⟩

lemma IsNetwork.length_le (h : IsNetwork network) : network.length ≤ 2 := by
  obtain ⟨b, -, rfl⟩ | ⟨high, middle, low, -, -, -, rfl⟩ := h.cases
  · simp
  · simp [twoBytes]

lemma isNetwork_singleton {b : UInt8} (h : b.toNat < 64) : IsNetwork [b] :=
  ⟨b, rfl, by omega, by rw [networkSize, if_neg (by omega)]; rfl⟩

lemma isNetwork_twoBytes (hmiddle : middle < 64) : IsNetwork (twoBytes high middle low) := by
  have hfirst : (UInt8.ofNat (middle + 0x40)).toNat = middle + 64 := by
    simp
    omega
  exact ⟨_, rfl, by omega, by rw [networkSize, hfirst, if_pos (by omega)]; rfl⟩

/-- A network number announces itself by its first byte. -/
lemma isNetwork_networkBytes (h : n < 16384) : IsNetwork (networkBytes n) := by
  by_cases hsmall : n < 64
  · rw [networkBytes, if_pos hsmall]
    exact isNetwork_singleton (by simp; omega)
  · obtain ⟨high, middle, low, hhigh, hmiddle, hlow, rfl⟩ := exists_groups h
    rw [networkBytes_of_groups hmiddle hlow (by omega)]
    exact isNetwork_twoBytes hmiddle

lemma networkNumber_networkBytes (h : n < 16384) : networkNumber (networkBytes n) = n := by
  by_cases hsmall : n < 64
  · rw [networkBytes, if_pos hsmall]
    simp [networkNumber]
    omega
  · obtain ⟨high, middle, low, hhigh, hmiddle, hlow, rfl⟩ := exists_groups h
    rw [networkBytes_of_groups hmiddle hlow (by omega),
      networkNumber_twoBytes hhigh hmiddle hlow]

lemma not_isPaddedNetwork_networkBytes (h : n < 16384) : ¬ IsPaddedNetwork (networkBytes n) := by
  rintro ⟨hlength, hnumber⟩
  rw [networkNumber_networkBytes h] at hnumber
  simp [networkBytes, hnumber] at hlength

/-- Bytes that are not padded are those of their number. -/
lemma IsNetwork.networkBytes_networkNumber (h : IsNetwork network)
    (hpadded : ¬ IsPaddedNetwork network) :
    networkNumber network < 16384 ∧ networkBytes (networkNumber network) = network := by
  obtain ⟨b, hb, rfl⟩ | ⟨high, middle, low, hhigh, hmiddle, hlow, rfl⟩ := h.cases
  · refine ⟨by simp only [networkNumber]; omega, ?_⟩
    rw [networkNumber, networkBytes, if_pos hb, UInt8.ofNat_toNat]
  · have hlarge : 64 ≤ networkNumber (twoBytes high middle low) :=
      Nat.not_lt.mp fun hsmall => hpadded ⟨by simp [twoBytes], hsmall⟩
    rw [networkNumber_twoBytes hhigh hmiddle hlow] at hlarge ⊢
    exact ⟨by omega, networkBytes_of_groups hmiddle hlow hlarge⟩

/-- The bytes are those of a number exactly when they are not padded. -/
lemma IsNetwork.exists_networkBytes_eq_iff (h : IsNetwork network) :
    (∃ n < 16384, networkBytes n = network) ↔ ¬ IsPaddedNetwork network := by
  constructor
  · rintro ⟨n, hn, rfl⟩
    exact not_isPaddedNetwork_networkBytes hn
  · intro hpadded
    exact ⟨_, h.networkBytes_networkNumber hpadded⟩

end Networks

/-! ## Spellings -/

lemma length_checksum (body : Bytes) : (checksum body).length = 2 := by
  rw [checksum, List.length_take, Blake2.length_hash512]
  rfl

lemma networkSize_pos (first : UInt8) : 0 < networkSize first := by
  rw [networkSize]
  split <;> omega

/-- The text of a network in bytes, an address and their checksum. -/
def spelling (network : Bytes) (a : Address) : Text :=
  let body := network ++ a.bytes
  Base58.encode (body ++ checksum body)

/-- The bytes that stand for the network in a text in checksummed form. -/
def networkIn (t : Text) : Bytes :=
  match Base58.decode t with
  | .ok (first :: rest) => (first :: rest).take (networkSize first)
  | _ => []

/-- The text is the form of the address for some network. -/
def IsForm (a : Address) (t : Text) : Prop :=
  ∃ network : Int, 0 ≤ network ∧ network < 16384 ∧ a.toChecksummed network = .ok t

/-- No white space is at the end of the text, and its network is not padded. -/
def IsPlain (t : Text) : Prop :=
  (∀ c ∈ t.getLast?, c.isBlank = false) ∧ ¬ IsPaddedNetwork (networkIn t)

section Spellings

variable {a b : Address} {network network' : Bytes} {t : Text}

lemma toChecksummed_eq_ok_iff {number : Int} :
    a.toChecksummed number = .ok t ↔
      ∃ n : Nat, number = n ∧ n < 16384 ∧ t = spelling (networkBytes n) a := by
  rw [toChecksummed]
  constructor
  · intro h
    split_ifs at h with hlow hhigh
    cases h
    exact ⟨number.toNat, by omega, by omega, rfl⟩
  · rintro ⟨n, rfl, hn, rfl⟩
    rw [if_neg (by omega), if_pos (by omega)]
    rfl

/-- Different networks and addresses have different spellings. -/
lemma spelling_inj (hlength : network.length = network'.length)
    (h : spelling network a = spelling network' b) : network = network' ∧ a = b := by
  have hbytes := Base58.encode_injective h
  rw [List.append_assoc, List.append_assoc] at hbytes
  obtain ⟨hnetwork, hrest⟩ := List.append_inj hbytes hlength
  obtain ⟨haddress, -⟩ := List.append_inj hrest (by rw [a.length_bytes, b.length_bytes])
  exact ⟨hnetwork, by cases a; cases b; simpa using haddress⟩

lemma length_eq_of_spelling_eq (h : spelling network a = spelling network' b) :
    network.length = network'.length := by
  have hlength := congrArg List.length (Base58.encode_injective h)
  simp only [List.length_append, length_checksum, a.length_bytes, b.length_bytes] at hlength
  omega

/-- What a text in checksummed form has to stand for. -/
lemma ofChecksummed_of_decode {data : Bytes} {first : UInt8} (h : Base58.decode t = .ok data)
    (hhead : data.head? = some first) (hfirst : first.toNat ≤ 127)
    (hlength : data.length = networkSize first + 34)
    (hchecksum : checksum (data.take (data.length - 2)) = data.drop (data.length - 2))
    (haddress : (data.take (data.length - 2)).drop (networkSize first) = a.bytes) :
    ofChecksummed t = .ok a := by
  cases data with
  | nil => cases hhead
  | cons b rest =>
    cases hhead
    rw [ofChecksummed, h]
    dsimp only
    rw [if_neg (by omega), if_neg (not_not.mpr hlength), if_neg (not_not.mpr hchecksum), haddress,
      ofBytes_eq_ok_iff]

/-- The bytes of a text that is read as an address are a network, the address and their checksum. -/
lemma exists_network_of_ofChecksummed (h : ofChecksummed t = .ok a) :
    ∃ network, IsNetwork network ∧ Base58.decode t =
      .ok (network ++ a.bytes ++ checksum (network ++ a.bytes)) := by
  rw [ofChecksummed] at h
  split at h
  next => cases h
  next => cases h
  next first rest hdecode =>
    dsimp only at h
    split_ifs at h with hfirst hlength hchecksum
    have hhead : (first :: rest).head? = some first := rfl
    have hsize := networkSize_pos first
    generalize first :: rest = data at h hdecode hlength hchecksum hhead
    rw [not_not] at hlength hchecksum
    rw [ofBytes_eq_ok_iff] at h
    have hbody : data.take (networkSize first) ++ a.bytes = data.take (data.length - 2) := by
      have htake : (data.take (data.length - 2)).take (networkSize first) =
          data.take (networkSize first) := by
        rw [List.take_take, Nat.min_eq_left (by omega)]
      rw [← h, ← htake, List.take_append_drop]
    refine ⟨data.take (networkSize first), ⟨first, ?_, by omega, ?_⟩, ?_⟩
    · rw [List.head?_take, if_neg (by omega), hhead]
    · rw [List.length_take]
      omega
    · rw [hdecode, hbody, hchecksum, List.take_append_drop]

/-- A network, an address and their checksum are read as the address. -/
lemma ofChecksummed_of_network (hnetwork : IsNetwork network)
    (h : Base58.decode t = .ok (network ++ a.bytes ++ checksum (network ++ a.bytes))) :
    ofChecksummed t = .ok a := by
  obtain ⟨first, hhead, hfirst, hsize⟩ := hnetwork
  have hbody : (network ++ a.bytes).length = networkSize first + 32 := by
    rw [List.length_append, hsize, a.length_bytes]
  have hdata : (network ++ a.bytes ++ checksum (network ++ a.bytes)).length - 2 =
      (network ++ a.bytes).length := by
    rw [List.length_append, length_checksum, Nat.add_sub_cancel]
  refine ofChecksummed_of_decode h ?_ hfirst ?_ ?_ ?_
  · rw [List.append_assoc, List.head?_append, hhead]
    rfl
  · rw [List.length_append, length_checksum, hbody]
  · rw [hdata, List.take_left, List.drop_left]
  · rw [hdata, List.take_left, ← hsize, List.drop_left]

/-- What is read as an address is a spelling of it, which white space may follow. -/
theorem ofChecksummed_eq_ok_iff :
    ofChecksummed t = .ok a ↔
      ∃ network, IsNetwork network ∧ t.dropEndWhile CodePoint.isBlank = spelling network a := by
  constructor
  · intro h
    obtain ⟨network, hnetwork, hdecode⟩ := exists_network_of_ofChecksummed h
    exact ⟨network, hnetwork, Base58.decode_eq_ok_iff.mp hdecode⟩
  · rintro ⟨network, hnetwork, ht⟩
    exact ofChecksummed_of_network hnetwork (Base58.decode_eq_ok_iff.mpr ht)

lemma dropEndWhile_spelling (network : Bytes) (a : Address) :
    (spelling network a).dropEndWhile CodePoint.isBlank = spelling network a :=
  Base58.decode_eq_ok_iff.mp (Base58.decode_encode _)

/-- The checksummed form is read back, for every network. -/
theorem ofChecksummed_checksummedText {n : Nat} (h : n < 16384) (a : Address) :
    ofChecksummed (checksummedText n a) = .ok a :=
  ofChecksummed_eq_ok_iff.mpr ⟨networkBytes n, isNetwork_networkBytes h, dropEndWhile_spelling _ a⟩

lemma networkIn_eq (h : IsNetwork network)
    (ht : t.dropEndWhile CodePoint.isBlank = spelling network a) : networkIn t = network := by
  obtain ⟨first, hhead, -, hsize⟩ := h
  obtain ⟨rest, rfl⟩ := List.head?_eq_some_iff.mp hhead
  rw [networkIn, Base58.decode_eq_ok_iff.mpr ht]
  change ((first :: rest) ++ a.bytes ++ _).take (networkSize first) = first :: rest
  rw [← hsize, List.append_assoc, List.take_left]

/-- A text that is read as an address is a spelling of it up to white space at its end. -/
lemma dropEndWhile_eq_spelling (h : ofChecksummed t = .ok a) :
    t.dropEndWhile CodePoint.isBlank = spelling (networkIn t) a := by
  obtain ⟨network, hnetwork, ht⟩ := ofChecksummed_eq_ok_iff.mp h
  rw [ht, networkIn_eq hnetwork ht]

/-- A text that is read as an address is one of its forms exactly when it is plain. -/
lemma isForm_iff_isPlain (h : ofChecksummed t = .ok a) : a.IsForm t ↔ IsPlain t := by
  obtain ⟨network, hnetwork, ht⟩ := ofChecksummed_eq_ok_iff.mp h
  rw [IsPlain, networkIn_eq hnetwork ht, ← hnetwork.exists_networkBytes_eq_iff,
    ← Text.dropEndWhile_eq_self_iff]
  constructor
  · rintro ⟨number, -, -, hform⟩
    obtain ⟨n, -, hn, rfl⟩ := toChecksummed_eq_ok_iff.mp hform
    rw [dropEndWhile_spelling] at ht
    have hsame := (spelling_inj (length_eq_of_spelling_eq ht) ht).1
    exact ⟨dropEndWhile_spelling _ a, n, hn, hsame⟩
  · rintro ⟨hkept, n, hn, rfl⟩
    exact ⟨n, by omega, by omega, toChecksummed_eq_ok_iff.mpr ⟨n, rfl, hn, hkept ▸ ht⟩⟩

/-- **The checksummed form is faithful.**  An address has a form for every network below 16384.  It
is read as the address, and it is no form of another address, nor of this one for another
network. -/
theorem toChecksummed_faithful (a : Address) (number : Int) (hlow : 0 ≤ number)
    (hhigh : number < 16384) :
    ∃ t, a.toChecksummed number = .ok t ∧ ofChecksummed t = .ok a ∧
      ∀ (b : Address) (number' : Int), b.toChecksummed number' = .ok t →
        a = b ∧ number = number' := by
  lift number to ℕ using hlow
  have hn : number < 16384 := by omega
  refine ⟨spelling (networkBytes number) a, toChecksummed_eq_ok_iff.mpr ⟨number, rfl, hn, rfl⟩,
    ofChecksummed_checksummedText hn a, fun b number' hform => ?_⟩
  obtain ⟨m, rfl, hm, heq⟩ := toChecksummed_eq_ok_iff.mp hform
  obtain ⟨hnetwork, rfl⟩ := spelling_inj (length_eq_of_spelling_eq heq) heq
  have hsame : number = m := by
    rw [← networkNumber_networkBytes hn, hnetwork, networkNumber_networkBytes hm]
  exact ⟨rfl, by rw [hsame]⟩

/-- The address of zeros for the network zero: every byte is a leading zero. -/
theorem toChecksummed_faithful_zeros :
    let zeros : Address := ⟨List.replicate 32 0, rfl⟩
    zeros.toChecksummed 0 = .ok "111111111111111111111111111111111HC1" ∧
      ofChecksummed "111111111111111111111111111111111HC1" = .ok zeros := by
  intro zeros
  obtain ⟨t, hform, hread, -⟩ := toChecksummed_faithful zeros 0 (by decide) (by decide)
  have htext : zeros.toChecksummed 0 = .ok "111111111111111111111111111111111HC1" := by
    decide +kernel
  obtain rfl := Except.ok.inj (hform.symm.trans htext)
  exact ⟨hform, hread⟩

end Spellings

end MovePack.Address
