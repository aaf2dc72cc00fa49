/-
# Encodings of text

The UTF-8 and the ASCII form of a text, and the text that a byte string holds in UTF-8; forms with
wider units share its faults.  A
failure says where the first unusable stretch lies: for a text the run of code points that the
encoding cannot carry, for bytes the longest beginning of a sequence that could still have been
completed.  Positions count from zero.
-/
import MovePack.Text.Quoted

namespace MovePack

/-- An encoding of text. -/
inductive Charset where
  /-- All scalar values, in one to four bytes. -/
  | utf8
  /-- The first 128 code points, in one byte. -/
  | ascii
deriving DecidableEq, Repr

/-- A run of code points that an encoding cannot carry. -/
structure EncodeFault where
  /-- The encoding. -/
  charset : Charset
  /-- The number of code points before the run. -/
  position : Nat
  /-- The first code point of the run. -/
  head : CodePoint
  /-- The number of code points in the run. -/
  length : Nat
deriving DecidableEq, Repr

/-- Which byte of a unit of several bytes comes first. -/
inductive ByteOrder where
  /-- The least significant one. -/
  | little
  /-- The most significant one. -/
  | big
deriving DecidableEq, Repr

/-- The form in which bytes hold a text. -/
inductive TextForm where
  /-- One to four bytes for a code point. -/
  | utf8
  /-- Units of two bytes, one or two of them for a code point. -/
  | utf16 (order : ByteOrder)
  /-- A unit of four bytes for a code point. -/
  | utf32 (order : ByteOrder)
deriving DecidableEq, Repr

/-- Why a byte cannot stand where it stands in a text. -/
inductive DecodeReason where
  /-- No sequence begins with the byte. -/
  | invalidStart
  /-- The byte after the stretch does not continue it. -/
  | invalidContinuation
  /-- The bytes end inside a sequence. -/
  | unexpectedEnd
  /-- The bytes end inside a unit. -/
  | truncated
  /-- The unit is the number of no code point. -/
  | outOfRange
deriving DecidableEq, Repr

/-- A stretch of bytes that holds no text in the form that is expected. -/
structure DecodeFault where
  /-- The form that is expected. -/
  form : TextForm := .utf8
  /-- The number of bytes before the stretch. -/
  position : Nat
  /-- The first byte of the stretch. -/
  head : UInt8
  /-- The number of bytes in the stretch. -/
  length : Nat
  /-- What is wrong with it. -/
  reason : DecodeReason
deriving DecidableEq, Repr

namespace Charset

/-- The name of the encoding in messages. -/
def name : Charset → String
  | .utf8 => "utf-8"
  | .ascii => "ascii"

/-- The encoding can carry the code point. -/
def carries : Charset → CodePoint → Bool
  | .utf8, c => !c.isSurrogate
  | .ascii, c => c.isAscii

/-- What is said about code points that the encoding cannot carry. -/
def refusal : Charset → String
  | .utf8 => "surrogates not allowed"
  | .ascii => "ordinal not in range(128)"

/-- The bytes of a code point that the encoding carries. -/
def bytesOf : CodePoint → Bytes
  | .scalar c => String.utf8EncodeChar c
  | .surrogate _ => []

/-- The encoded text, when `position` code points have been encoded before it. -/
def encodeFrom (charset : Charset) (position : Nat) : Text → Except EncodeFault Bytes
  | [] => .ok []
  | c :: rest =>
    if charset.carries c then
      (charset.encodeFrom (position + 1) rest).map (bytesOf c ++ ·)
    else
      let run := rest.takeWhile fun c => !charset.carries c
      .error { charset, position, head := c, length := run.length + 1 }

/-- The encoded text. -/
def encode (charset : Charset) (t : Text) : Except EncodeFault Bytes := charset.encodeFrom 0 t

end Charset

/-- The words for a stretch: its only member, or the positions of its first and last one. -/
def stretchText (unit : String) (shown : Text) (position length : Nat) : Text :=
  if length = 1 then unit ++ " " ++ shown ++ " in position " ++ Text.ofNat position
  else unit ++ "s in position " ++ Text.ofNat position ++ "-" ++ Text.ofNat (position + length - 1)

/-- The message of a failed encoding. -/
def EncodeFault.message (f : EncodeFault) : Text :=
  "'" ++ f.charset.name ++ "' codec can't encode "
    ++ stretchText "character" ("'" ++ CodePoint.numbered f.head.toNat ++ "'") f.position f.length
    ++ ": " ++ f.charset.refusal

/-- The mark of a byte order in the name of a form. -/
def ByteOrder.mark : ByteOrder → String
  | .little => "le"
  | .big => "be"

/-- The name of a form in messages. -/
def TextForm.name : TextForm → String
  | .utf8 => "utf-8"
  | .utf16 order => "utf-16-" ++ order.mark
  | .utf32 order => "utf-32-" ++ order.mark

/-- The words for what is wrong with a stretch of bytes. -/
def DecodeReason.message : DecodeReason → String
  | .invalidStart => "invalid start byte"
  | .invalidContinuation => "invalid continuation byte"
  | .unexpectedEnd => "unexpected end of data"
  | .truncated => "truncated data"
  | .outOfRange => "code point not in range(0x110000)"

/-- The message of a failed decoding. -/
def DecodeFault.message (f : DecodeFault) : Text :=
  "'" ++ Text.ofString f.form.name ++ "' codec can't decode "
    ++ stretchText "byte" ("0x" ++ hexNumeral 2 f.head.toNat) f.position f.length
    ++ ": " ++ Text.ofString f.reason.message

namespace Utf8

/-- The number of bytes that follow a first byte, and the range of the second byte; `none` for a
byte that cannot come first. -/
def sequenceOf? (lead : Nat) : Option (Nat × Nat × Nat) :=
  if lead < 0x80 then some (0, 0, 0)
  else if lead < 0xC2 then none
  else if lead < 0xE0 then some (1, 0x80, 0xBF)
  else if lead = 0xE0 then some (2, 0xA0, 0xBF)
  else if lead = 0xED then some (2, 0x80, 0x9F)
  else if lead < 0xF0 then some (2, 0x80, 0xBF)
  else if lead = 0xF0 then some (3, 0x90, 0xBF)
  else if lead < 0xF4 then some (3, 0x80, 0xBF)
  else if lead = 0xF4 then some (3, 0x80, 0x8F)
  else none

/-- The code point with the given number, which is a scalar value in every use. -/
def charOf (n : Nat) : CodePoint := .scalar (Char.ofNat n)

/-- The text of UTF-8 bytes, when `position` bytes have been read before them. -/
def decodeFrom (position : Nat) : Bytes → Except DecodeFault Text
  | [] => .ok []
  | a :: rest =>
    let stop (length : Nat) (reason : DecodeReason) : Except DecodeFault Text :=
      .error { position, head := a, length, reason }
    let continues (low high : Nat) (b : UInt8) : Bool := low ≤ b.toNat && b.toNat ≤ high
    match sequenceOf? a.toNat with
    | none => stop 1 .invalidStart
    | some (0, _, _) => (decodeFrom (position + 1) rest).map (charOf a.toNat :: ·)
    | some (1, low, high) =>
      match rest with
      | [] => stop 1 .unexpectedEnd
      | b :: rest =>
        if !continues low high b then stop 1 .invalidContinuation
        else (decodeFrom (position + 2) rest).map
          (charOf ((a.toNat - 0xC0) * 0x40 + (b.toNat - 0x80)) :: ·)
    | some (2, low, high) =>
      match rest with
      | [] => stop 1 .unexpectedEnd
      | b :: rest =>
        if !continues low high b then stop 1 .invalidContinuation
        else match rest with
          | [] => stop 2 .unexpectedEnd
          | c :: rest =>
            if !continues 0x80 0xBF c then stop 2 .invalidContinuation
            else (decodeFrom (position + 3) rest).map
              (charOf ((a.toNat - 0xE0) * 0x1000 + (b.toNat - 0x80) * 0x40 + (c.toNat - 0x80)) :: ·)
    | some (_, low, high) =>
      match rest with
      | [] => stop 1 .unexpectedEnd
      | b :: rest =>
        if !continues low high b then stop 1 .invalidContinuation
        else match rest with
          | [] => stop 2 .unexpectedEnd
          | c :: rest =>
            if !continues 0x80 0xBF c then stop 2 .invalidContinuation
            else match rest with
              | [] => stop 3 .unexpectedEnd
              | d :: rest =>
                if !continues 0x80 0xBF d then stop 3 .invalidContinuation
                else (decodeFrom (position + 4) rest).map
                  (charOf ((a.toNat - 0xF0) * 0x40000 + (b.toNat - 0x80) * 0x1000
                    + (c.toNat - 0x80) * 0x40 + (d.toNat - 0x80)) :: ·)

/-- The text of UTF-8 bytes. -/
def decode (bytes : Bytes) : Except DecodeFault Text := decodeFrom 0 bytes

/-- The UTF-8 form of a text. -/
def encode (t : Text) : Except EncodeFault Bytes := Charset.utf8.encode t

/-- The UTF-8 form of the scalar values of a text. -/
def bytes (t : Text) : Bytes := t.flatMap Charset.bytesOf

end Utf8

end MovePack
