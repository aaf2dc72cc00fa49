/-
# Reading an address step by step

The two forms of an address are read with everything that could stop the reading: characters that an
encoding lacks or does not take, a place beyond the end of the bytes, a wrong number of them.
-/
import MovePack.Account.Checksummed
import MovePack.Stop

namespace MovePack.Address.Stepwise

open Stop (catching itemAt refuse)

/-- The stop that a refused address is. -/
def stopOf (fault : Address.Fault) : Stop := ⟨.refusal .addressFormat, fault.message⟩

/-- The address of 32 bytes. -/
def ofBytes (bytes : Bytes) : Except Stop Address := (Address.ofBytes bytes).mapError stopOf

/-- The bytes of spaced pairs of hexadecimal digits. -/
def unspaced (t : Text) : Except Stop Bytes :=
  (Hex.decodeSpaced t).mapError fun position =>
    ⟨.value, "non-hexadecimal number found in fromhex() arg at position " ++ Text.ofNat position⟩

/-- Reads an address in hexadecimal form. -/
def ofHex (t : Text) : Except Stop Address := do
  let digits ← (Address.hexDigits t).mapError stopOf
  catching Cause.isValue
    (fun message => refuse .addressFormat ("Invalid hex address " ++ t.quoted ++ ": " ++ message))
    (do ofBytes (← unspaced digits))

/-- The bytes of a base58 text. -/
def base58 (t : Text) : Except Stop Bytes :=
  (Base58.decode t).mapError fun fault =>
    match fault with
    | .notAscii _ => ⟨.encoding, fault.message⟩
    | .invalidCharacter _ => ⟨.value, fault.message⟩

/-- Reads an address in its checksummed form. -/
def ofChecksummed (t : Text) : Except Stop Address := do
  let data ← catching Cause.isValue
    (fun message => refuse .addressFormat
      ("Invalid SS58 address " ++ t.quoted ++ ": " ++ message)) (base58 t)
  if data.length < 1 then refuse .addressFormat ("Invalid SS58 prefix in " ++ t.quoted)
  else do
    let first ← itemAt data 0
    if 127 < first.toNat then refuse .addressFormat ("Invalid SS58 prefix in " ++ t.quoted)
    else if data.length ≠ Address.networkSize first + 34 then
      refuse .addressFormat
        ("Invalid SS58 address length " ++ Text.ofNat data.length ++ " for " ++ t.quoted)
    else
      let body := data.take (data.length - 2)
      if Address.checksum body ≠ data.drop (data.length - 2) then
        refuse .addressFormat ("Invalid SS58 checksum for " ++ t.quoted)
      else ofBytes (body.drop (Address.networkSize first))

/-- Reads an address in either form, the checksummed one first. -/
def parse (t : Text) : Except Stop Address :=
  catching (· = .refusal .addressFormat)
    (fun checksummed => catching (· = .refusal .addressFormat)
      (fun hex => refuse .addressFormat
        (hex ++ " (not an SS58 address either: " ++ checksummed ++ ")"))
      (ofHex t))
    (ofChecksummed t)

end MovePack.Address.Stepwise
