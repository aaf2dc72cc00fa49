/-
# Refusals of addresses

The reading of an address step by step is that of the library: a handler catches every cause for
which the reading of one of its forms can stop, and a place is looked up only if it is there.
-/
import MovePack.Account.Stepwise
import MovePack.Proofs.Except

namespace MovePack.Address.Stepwise

open Stop (catching refuse)

lemma ofHex_eq (t : Text) : ofHex t = (Address.ofHex t).mapError stopOf := by
  rw [ofHex, Address.ofHex, Except.mapError_bind]
  refine bind_congr fun digits => ?_
  rw [unspaced]
  cases Hex.decodeSpaced digits with
  | error position =>
    have hmessage : ("Invalid hex address " ++ t.quoted ++ ": " ++
        ("non-hexadecimal number found in fromhex() arg at position " ++ Text.ofNat position) :
          Text) = (Address.Fault.notHex t position).message := by
      simp only [Address.Fault.message, List.append_assoc]
      rfl
    exact congrArg (refuse .addressFormat) hmessage
  | ok bytes =>
    change catching _ _ (ofBytes bytes) = (Address.ofBytes bytes).mapError stopOf
    rw [ofBytes]
    cases Address.ofBytes bytes <;> rfl

lemma ofChecksummed_eq (t : Text) :
    ofChecksummed t = (Address.ofChecksummed t).mapError stopOf := by
  rw [ofChecksummed, base58, Address.ofChecksummed]
  rcases Base58.decode t with (fault | c) | (_ | ⟨first, rest⟩)
  · rfl
  · rfl
  · rfl
  · change (if _ then _ else if _ then _ else if _ then _ else _) =
      Except.mapError stopOf (if _ then _ else if _ then _ else if _ then _ else _)
    split_ifs <;> rfl

/-- The handlers catch all that stops the reading of the two forms. -/
lemma parse_eq (t : Text) : parse t = (Address.parse t).mapError stopOf := by
  rw [parse, ofChecksummed_eq, ofHex_eq, Address.parse]
  cases Address.ofChecksummed t with
  | ok a => rfl
  | error checksummed => cases Address.ofHex t <;> rfl

end MovePack.Address.Stepwise
