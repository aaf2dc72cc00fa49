/-
# Writing into a buffer

A buffer grows at its end, and what has been put into it stays when the writing stops.  Here the
writers put their bytes into one, as many at a time as they have ready, with everything that could
stop them: a value is refused, a text has characters that its form in bytes lacks, an integer does
not fit into the bytes it is given or has too many digits to be shown.
-/
import MovePack.Codec.Schema

namespace MovePack.Codec

namespace Buffer

/-- A writer into a buffer. -/
abbrev Writer (α : Type) := ExceptT WriteFault (StateM Bytes) α

variable {α : Type}

/-- The outcome on a buffer, and the buffer afterwards. -/
def run (w : Writer α) (buffer : Bytes) : Except WriteFault α × Bytes := (ExceptT.run w).run buffer

/-- Puts bytes at the end. -/
def put (bytes : Bytes) : Writer Unit := modify fun buffer => buffer ++ bytes

/-- Puts an integer as the given number of bytes. -/
def int (value : Int) (width : Nat) : Writer Unit :=
  if value < 0 ∨ (Nat.pow 2 (8 * width) : Int) ≤ value then throw (.foreign (.overflow value width))
  else put (Bytes.littleEndian width value.toNat)

/-- Puts an unsigned integer of the given number of bytes. -/
def uint (width : Nat) (value : Int) : Writer Unit := do
  if value < 0 ∨ (Nat.pow 2 (8 * width) : Int) - 1 < value then
    throw (.ofRange value ("u" ++ toString (8 * width)))
  int value width

/-- Puts groups of seven bits, each as soon as it is found. -/
def groups (value : Nat) : Writer Unit :=
  if _h : 128 ≤ value then do
    int (value % 128 + 128 : Nat) 1
    groups (value / 128)
  else int (value % 128 : Nat) 1
termination_by value

/-- Puts a variable-length integer. -/
def uleb (value : Int) : Writer Unit := do
  if value < 0 ∨ (maxCount : Int) < value then throw (.ofRange value "uleb128")
  groups value.toNat

/-- Puts a count.  As the length of something it has few enough digits to be shown. -/
def count (n : Nat) : Writer Unit := do
  if maxCount < n then throw (.outOfRange n "uleb128")
  groups n

/-- Puts a byte string after the count of its bytes. -/
def countedBytes (bytes : Bytes) : Writer Unit := do
  count bytes.length
  put bytes

/-- The form of a text in bytes. -/
def encoded (t : Text) : Writer Bytes :=
  match Utf8.encode t with
  | .ok bytes => pure bytes
  | .error fault => throw (.foreign (.unencodable fault))

/-- Puts a text in UTF-8 after the count of its bytes. -/
def text (t : Text) : Writer Unit := do
  let bytes ← tryCatch (encoded t) fun
    | .foreign (.unencodable fault) => throw (.notUnicode fault)
    | other => throw other
  countedBytes bytes

/-- Puts a type tag: a number for every vector, and that of the primitive type. -/
def typeTag (tag : TypeTag) : Writer Unit := do
  (List.range tag.depth).forM fun _ => uleb TypeTag.vectorVariant
  uleb tag.element.variant

/-- Puts the elements of a sequence after their count. -/
def sequence (write : α → Writer Unit) (values : List α) : Writer Unit := do
  count values.length
  values.forM write

/-- Puts a value of a schema. -/
def write : (t : Schema) → t.Carrier → Writer Unit
  | .bool, b => int (if b then 1 else 0) 1
  | .uint width, n => uint width n
  | .uleb, n => uleb n
  | .bytes, b => countedBytes b
  | .fixed _, b => put b
  | .rest, b => put b
  | .text, t => text t
  | .address, a => put a.bytes
  | .typeTag, tag => typeTag tag
  | .sequence element, values => sequence (write element) values

/-- A step in the use of a buffer: the kind of a value, and the value. -/
structure Step where
  /-- The kind. -/
  schema : Schema
  /-- The value. -/
  value : schema.Carrier

/-- Takes steps one after the other, whether they fail or not: the outcomes, and the buffer at the
end. -/
def runSteps : List Step → Bytes → List (Except WriteFault Unit) × Bytes
  | [], buffer => ([], buffer)
  | step :: steps, buffer =>
    let first := run (write step.schema step.value) buffer
    let others := runSteps steps first.2
    (first.1 :: others.1, others.2)

end Buffer

end MovePack.Codec
