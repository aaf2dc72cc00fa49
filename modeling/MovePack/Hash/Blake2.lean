/-
# The BLAKE2 hash functions

BLAKE2b works on 64-bit and BLAKE2s on 32-bit words; apart from the width they differ in the
number of rounds and in four rotations only, so one compression function serves both.  Account
texts carry the first bytes of a BLAKE2b digest of 64 bytes as a checksum, and a script
transaction is identified by its BLAKE2s digest of 32 bytes.  Neither is keyed.
-/
import MovePack.Bytes

namespace MovePack.Blake2

/-- What distinguishes the two functions, for words of `w` bits. -/
structure Variant (w : Nat) where
  /-- The number of rounds of the compression function. -/
  rounds : Nat
  /-- The four rotations of the mixing function, to the right. -/
  rotations : Nat × Nat × Nat × Nat
  /-- The eight words of the initial vector. -/
  initial : List (BitVec w)

/-- The words on 64 bits. -/
def variantB : Variant 64 where
  rounds := 12
  rotations := (32, 24, 16, 63)
  initial :=
    [0x6A09E667F3BCC908, 0xBB67AE8584CAA73B, 0x3C6EF372FE94F82B, 0xA54FF53A5F1D36F1,
     0x510E527FADE682D1, 0x9B05688C2B3E6C1F, 0x1F83D9ABFB41BD6B, 0x5BE0CD19137E2179]

/-- The words on 32 bits. -/
def variantS : Variant 32 where
  rounds := 10
  rotations := (16, 12, 8, 7)
  initial :=
    [0x6A09E667, 0xBB67AE85, 0x3C6EF372, 0xA54FF53A, 0x510E527F, 0x9B05688C, 0x1F83D9AB, 0x5BE0CD19]

/-- The order in which each of ten rounds takes the message words; the ten repeat. -/
def schedule : List (List Nat) :=
  [[0, 1, 2, 3, 4, 5, 6, 7, 8, 9, 10, 11, 12, 13, 14, 15],
   [14, 10, 4, 8, 9, 15, 13, 6, 1, 12, 0, 2, 11, 7, 5, 3],
   [11, 8, 12, 0, 5, 2, 15, 13, 10, 14, 3, 6, 7, 1, 9, 4],
   [7, 9, 3, 1, 13, 12, 11, 14, 2, 6, 5, 10, 4, 0, 15, 8],
   [9, 0, 5, 7, 2, 4, 10, 15, 14, 1, 11, 12, 6, 8, 3, 13],
   [2, 12, 6, 10, 0, 11, 8, 3, 4, 13, 7, 5, 15, 14, 1, 9],
   [12, 5, 1, 15, 14, 13, 4, 10, 0, 7, 6, 3, 9, 2, 8, 11],
   [13, 11, 7, 14, 12, 1, 3, 9, 5, 0, 15, 4, 8, 6, 2, 10],
   [6, 15, 14, 9, 11, 3, 0, 8, 12, 2, 13, 7, 1, 4, 10, 5],
   [10, 2, 8, 4, 7, 6, 1, 5, 15, 11, 9, 14, 3, 12, 13, 0]]

/-- The places of the working vector mixed by the eight steps of a round: four columns, then four
diagonals. -/
def lanes : List (Nat × Nat × Nat × Nat) :=
  [(0, 4, 8, 12), (1, 5, 9, 13), (2, 6, 10, 14), (3, 7, 11, 15),
   (0, 5, 10, 15), (1, 6, 11, 12), (2, 7, 8, 13), (3, 4, 9, 14)]

variable {w : Nat}

/-- Mixes two message words into four places of the working vector. -/
def mix (rotations : Nat × Nat × Nat × Nat) (v : Array (BitVec w)) (lane : Nat × Nat × Nat × Nat)
    (x y : BitVec w) : Array (BitVec w) :=
  let (r₁, r₂, r₃, r₄) := rotations
  let (i, j, k, l) := lane
  let place (n : Nat) : BitVec w := v.getD n 0
  let a := place i + place j + x
  let d := (place l ^^^ a).rotateRight r₁
  let c := place k + d
  let e := (place j ^^^ c).rotateRight r₂
  let a := a + e + y
  let d := (d ^^^ a).rotateRight r₃
  let c := c + d
  let e := (e ^^^ c).rotateRight r₄
  (((v.setIfInBounds i a).setIfInBounds j e).setIfInBounds k c).setIfInBounds l d

/-- One round: eight mixing steps, with two message words each. -/
def round (rotations : Nat × Nat × Nat × Nat) (message : Array (BitVec w)) (v : Array (BitVec w))
    (order : List Nat) : Array (BitVec w) :=
  lanes.zipIdx.foldl (fun v (lane, step) =>
    let word (n : Nat) : BitVec w := message.getD (order.getD n 0) 0
    mix rotations v lane (word (2 * step)) (word (2 * step + 1))) v

/-- The chaining value after a block; `count` bytes have been read with it. -/
def compress (variant : Variant w) (h : List (BitVec w)) (message : Array (BitVec w)) (count : Nat)
    (last : Bool) : List (BitVec w) :=
  let low := BitVec.ofNat w count
  let high := BitVec.ofNat w (count / Nat.pow 2 w)
  let tail := variant.initial.zipIdx.map fun (word, place) =>
    if place = 4 then word ^^^ low
    else if place = 5 then word ^^^ high
    else if place = 6 ∧ last then ~~~word
    else word
  let orders := (List.range variant.rounds).map fun n => schedule.getD (n % 10) []
  let v := orders.foldl (round variant.rotations message) (h ++ tail).toArray
  (List.range 8).map fun n => h.getD n 0 ^^^ v.getD n 0 ^^^ v.getD (n + 8) 0

/-- The sixteen words of a block, which is filled up with zero bytes. -/
def words (w : Nat) (block : Bytes) : Array (BitVec w) :=
  ((List.range 16).map fun n =>
    BitVec.ofNat w (Bytes.ofLittleEndian ((block.drop (n * (w / 8))).take (w / 8)))).toArray

/-- The chaining value after the input, of which `count` bytes have been read before. -/
def absorb (variant : Variant w) (h : List (BitVec w)) (count : Nat) (input : Bytes) :
    List (BitVec w) :=
  let size := 16 * (w / 8)
  if _h : size = 0 ∨ input.length ≤ size then
    compress variant h (words w input) (count + input.length) true
  else
    absorb variant (compress variant h (words w (input.take size)) (count + size) false)
      (count + size) (input.drop size)
termination_by input.length
decreasing_by simp only [List.length_drop]; omega

/-- The digest of eight words. -/
def digest (variant : Variant w) (input : Bytes) : Bytes :=
  let parameters := BitVec.ofNat w (0x01010000 + 8 * (w / 8))
  let start := variant.initial.zipIdx.map fun (word, place) =>
    if place = 0 then word ^^^ parameters else word
  (absorb variant start 0 input).flatMap fun word => Bytes.littleEndian (w / 8) word.toNat

/-- The BLAKE2b digest of 64 bytes. -/
def hash512 (input : Bytes) : Bytes := digest variantB input

/-- The BLAKE2s digest of 32 bytes. -/
def hash256 (input : Bytes) : Bytes := digest variantS input

end MovePack.Blake2
