/-
# JSON texts in bytes

A byte order mark at the beginning of bytes tells the form in which they hold a JSON text, and is
left out.  Without one, such a text begins with two characters of ASCII, unless it is a single one.
Hence the zeros among its first bytes tell the form.  In every form a surrogate that stands alone is
read as itself.
-/
import MovePack.Json.Reader
import MovePack.Text.Units

namespace MovePack.Json

/-- Why bytes are no JSON text. -/
inductive EncodedFault where
  /-- The bytes are no text. -/
  | undecodable (fault : DecodeFault)
  /-- The text is no JSON text. -/
  | malformed (fault : Fault)
deriving DecidableEq, Repr

/-- The message of bytes that are no JSON text. -/
def EncodedFault.message : EncodedFault → Text
  | .undecodable fault => fault.message
  | .malformed fault => fault.message

/-- The form in which bytes without a byte order mark hold a JSON text. -/
def unmarkedFormOf : Bytes → TextForm
  | [a, b] =>
    if a = 0 then .utf16 .big
    else if b = 0 then .utf16 .little
    else .utf8
  | a :: b :: c :: d :: _ =>
    if a = 0 then if b = 0 then .utf32 .big else .utf16 .big
    else if b = 0 then if c = 0 ∧ d = 0 then .utf32 .little else .utf16 .little
    else .utf8
  | _ => .utf8

/-- The form in which bytes hold a JSON text, and the length of the byte order mark before it. -/
def formOf (bytes : Bytes) : TextForm × Nat :=
  if [0x00, 0x00, 0xFE, 0xFF].isPrefixOf bytes then (.utf32 .big, 4)
  else if [0xFF, 0xFE, 0x00, 0x00].isPrefixOf bytes then (.utf32 .little, 4)
  else if [0xFE, 0xFF].isPrefixOf bytes then (.utf16 .big, 2)
  else if [0xFF, 0xFE].isPrefixOf bytes then (.utf16 .little, 2)
  else if [0xEF, 0xBB, 0xBF].isPrefixOf bytes then (.utf8, 3)
  else (unmarkedFormOf bytes, 0)

/-- The surrogate whose number three bytes hold as they would that of a character in UTF-8. -/
def surrogate? (a b c : UInt8) : Option CodePoint :=
  if a = 0xED ∧ 0xA0 ≤ b.toNat ∧ b.toNat ≤ 0xBF ∧ 0x80 ≤ c.toNat ∧ c.toNat ≤ 0xBF then
    CodePoint.ofNat? (0xD000 + (b.toNat - 0x80) * 0x40 + (c.toNat - 0x80))
  else none

/-- The text of bytes in UTF-8 with surrogates among them, when `position` bytes have been read
before them.  What stops the decoding is passed over where it is a surrogate. -/
def decodeUtf8From (position : Nat) (bytes : Bytes) : Except DecodeFault Text :=
  match Utf8.decodeFrom position bytes with
  | .ok t => .ok t
  | .error fault =>
    let before := fault.position - position
    match _h : bytes.drop before with
    | a :: b :: c :: rest =>
      match surrogate? a b c with
      | some x => do
        let t ← Utf8.decodeFrom position (bytes.take before)
        return t ++ x :: (← decodeUtf8From (fault.position + 3) rest)
      | none => .error fault
    | _ => .error fault
termination_by bytes.length
decreasing_by
  have hlength := congrArg List.length _h
  rw [List.length_drop] at hlength
  simp only [List.length_cons] at hlength
  omega

/-- The text that bytes hold in the form they are found to have.  Only in UTF-8 positions count from
behind a byte order mark. -/
def decode (bytes : Bytes) : Except DecodeFault Text :=
  match formOf bytes with
  | (.utf8, mark) => decodeUtf8From 0 (bytes.drop mark)
  | (form, mark) =>
    (form.decode (bytes.drop mark)).mapError fun fault =>
      { fault with position := mark + fault.position }

/-- The value that a JSON text in bytes denotes. -/
def ofBytes (bytes : Bytes) : Except EncodedFault Json :=
  match decode bytes with
  | .error fault => .error (.undecodable fault)
  | .ok t =>
    match ofUnmarkedText t with
    | .error fault => .error (.malformed fault)
    | .ok v => .ok v

end MovePack.Json
