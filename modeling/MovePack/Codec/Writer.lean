/-
# Writing the canonical serialization

What a value contributes to the output is a byte string, and possibly a fault that ended the
writing.  A value that cannot be written contributes nothing, with one exception: a sequence
writes its count and its elements in order, so a fault in an element leaves what precedes it.

Most faults are faults of the value.  An operation of a writer can also fail for a cause of its own:
the message of an integer that is out of range shows the integer, which cannot have too many digits.
-/
import MovePack.Codec.Reader

namespace MovePack.Codec

/-- A cause for which an operation fails whatever writer it is used in. -/
inductive WriteCause where
  /-- The integer has too many digits to be shown. -/
  | unshown (value : Int)
  /-- The text has characters that UTF-8 lacks. -/
  | unencodable (fault : EncodeFault)
  /-- The integer does not fit into the given number of bytes. -/
  | overflow (value : Int) (width : Nat)
deriving DecidableEq, Repr

/-- The message of a cause. -/
def WriteCause.message : WriteCause → Text
  | .unshown _ => Text.digitLimit
  | .unencodable fault => fault.message
  | .overflow value _ =>
    if value < 0 then "can't convert negative int to unsigned" else "int too big to convert"

/-- Why a value has no serialized form. -/
inductive WriteFault where
  /-- The number is negative or needs more bits than the named type has. -/
  | outOfRange (value : Int) (type : String)
  /-- The text holds surrogates. -/
  | notUnicode (fault : EncodeFault)
  /-- An operation failed, which is no fault of the value. -/
  | foreign (cause : WriteCause)
deriving DecidableEq, Repr

/-- The message of a value without a serialized form. -/
def WriteFault.message : WriteFault → Text
  | .outOfRange value type => "Cannot encode " ++ Text.ofInt value ++ " into " ++ type
  | .notUnicode fault => "String is not valid Unicode: " ++ fault.message
  | .foreign cause => cause.message

/-- The fault is one of the value. -/
def WriteFault.IsOfValue (fault : WriteFault) : Prop := ∀ cause, fault ≠ .foreign cause

/-- The fault of an integer that the named type has no place for, which is shown. -/
def WriteFault.ofRange (value : Int) (type : String) : WriteFault :=
  (Text.shown? value).elim (.foreign (.unshown value)) fun _ => .outOfRange value type

/-- What has been written, and the fault that ended the writing, if any. -/
structure Written (ε : Type) where
  /-- The bytes. -/
  bytes : Bytes
  /-- The fault. -/
  fault? : Option ε := none
deriving DecidableEq, Repr

namespace Written

variable {ε : Type}

/-- Nothing, since the value has no serialized form. -/
def failed (fault : ε) : Written ε := ⟨[], some fault⟩

/-- Writes the second part after the first, unless the first has failed. -/
def append (first second : Written ε) : Written ε :=
  match first.fault? with
  | some _ => first
  | none => ⟨first.bytes ++ second.bytes, second.fault?⟩

instance : Append (Written ε) := ⟨append⟩

/-- The same bytes, with the fault in another type. -/
def mapFault {δ : Type} (f : ε → δ) (w : Written ε) : Written δ := ⟨w.bytes, w.fault?.map f⟩

/-- All bytes of a complete writing. -/
def toExcept (w : Written ε) : Except ε Bytes :=
  match w.fault? with
  | some fault => .error fault
  | none => .ok w.bytes

/-- The bytes as they are. -/
def fixed (bytes : Bytes) : Written ε := ⟨bytes, none⟩

/-- A truth value. -/
def bool (b : Bool) : Written ε := ⟨[if b then 1 else 0], none⟩

/-- An unsigned integer of the given number of bytes. -/
def uint (width : Nat) (value : Int) : Written WriteFault :=
  if value < 0 ∨ (Nat.pow 2 (8 * width) : Int) ≤ value then
    failed (.ofRange value ("u" ++ toString (8 * width)))
  else ⟨Bytes.littleEndian width value.toNat, none⟩

/-- Groups of seven bits, the least significant first; the highest bit of a byte announces that
another follows. -/
def ulebBytes (value : Nat) : Bytes :=
  if _h : value < 128 then [UInt8.ofNat value]
  else UInt8.ofNat (value % 128 + 128) :: ulebBytes (value / 128)
termination_by value

/-- A variable-length integer, which must fit into 32 bits. -/
def uleb (value : Int) : Written WriteFault :=
  if value < 0 ∨ (maxCount : Int) < value then failed (.ofRange value "uleb128")
  else ⟨ulebBytes value.toNat, none⟩

/-- A count.  As the length of something it has few enough digits to be shown. -/
def count (n : Nat) : Written WriteFault :=
  if maxCount < n then failed (.outOfRange n "uleb128") else ⟨ulebBytes n, none⟩

/-- A byte string, after the count of its bytes. -/
def countedBytes (bytes : Bytes) : Written WriteFault := count bytes.length ++ fixed bytes

/-- A text in UTF-8, after the count of its bytes. -/
def text (t : Text) : Written WriteFault :=
  match Utf8.encode t with
  | .ok bytes => countedBytes bytes
  | .error fault => failed (.notUnicode fault)

/-- The parts one after the other, up to the first that fails. -/
def concat : List (Written ε) → Written ε
  | [] => ⟨[], none⟩
  | w :: rest => w ++ concat rest

/-- The elements of a sequence, after their count. -/
def counted (fault : WriteFault → ε) (elements : List (Written ε)) : Written ε :=
  (count elements.length).mapFault fault ++ concat elements

/-- A sequence of values, after their count. -/
def sequence {α : Type} (write : α → Written WriteFault) (values : List α) :
    Written WriteFault :=
  counted id (values.map write)

end Written

end MovePack.Codec
