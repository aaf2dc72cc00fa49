/-
# The checksummed form of an address

The SS58 form of an address is the base58 text of a network number in one or two bytes, the 32
bytes of the address and two bytes of checksum over what precedes them.  Numbers below 64 take
one byte; numbers below 16384 take two, which the second highest bit of the first byte announces.
In these the six higher bits of the low byte come first and its two lower bits move to the top of
the second byte, before the six high bits.
-/
import MovePack.Account.Address
import MovePack.Hash.Blake2
import MovePack.Text.Base58

namespace MovePack

namespace Address

/-- The beginning of what the checksum is taken over: the letters `SS58PRE`. -/
def checksumSeed : Bytes := [0x53, 0x53, 0x35, 0x38, 0x50, 0x52, 0x45]

/-- The two bytes of checksum of a network number and an address. -/
def checksum (body : Bytes) : Bytes := (Blake2.hash512 (checksumSeed ++ body)).take 2

/-- The bytes of a network number below 16384. -/
def networkBytes (network : Nat) : Bytes :=
  if network < 64 then [UInt8.ofNat network]
  else [UInt8.ofNat (network % 256 / 4 + 0x40), UInt8.ofNat (network / 256 + network % 4 * 64)]

/-- The number of bytes of the network number that the first byte announces. -/
def networkSize (first : UInt8) : Nat := if first.toNat / 64 % 2 = 1 then 2 else 1

/-- The base58 text of network number, address and checksum. -/
def checksummedText (network : Nat) (a : Address) : Text :=
  let body := networkBytes network ++ a.bytes
  Base58.encode (body ++ checksum body)

/-- Writes the checksummed form for a network: a negative number is no byte, and a number of more
than 14 bits is refused. -/
def toChecksummed (network : Int) (a : Address) : Except Fault Text :=
  if network < 0 then .error .negativeNetwork
  else if network < 16384 then .ok (checksummedText network.toNat a)
  else .error (.networkOutOfRange network)

/-- The network that an address is written for unless another is asked for. -/
def defaultNetwork : Nat := 42

/-- Reads an address in its checksummed form. -/
def ofChecksummed (t : Text) : Except Fault Address :=
  match Base58.decode t with
  | .error fault => .error (.notBase58 t fault.message)
  | .ok [] => .error (.badNetwork t)
  | .ok (first :: rest) =>
    let data := first :: rest
    if 127 < first.toNat then .error (.badNetwork t)
    else if data.length ≠ networkSize first + 34 then .error (.badPayloadLength t data.length)
    else
      let body := data.take (data.length - 2)
      if checksum body ≠ data.drop (data.length - 2) then .error (.badChecksum t)
      else ofBytes (body.drop (networkSize first))

/-- Reads an address in either form, the checksummed one first. -/
def parse (t : Text) : Except Fault Address :=
  match ofChecksummed t with
  | .ok a => .ok a
  | .error checksummed =>
    match ofHex t with
    | .ok a => .ok a
    | .error hex => .error (.neither hex checksummed)

end Address

end MovePack
