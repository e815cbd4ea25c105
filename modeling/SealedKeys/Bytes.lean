/-!
Byte strings and the natural numbers they stand for.

A byte string is read with its most significant byte first. `Bytes.ofNat length value` writes a
number at a fixed length, zero bytes in front where there is room; `Bytes.minimal value` writes
it with no zero byte in front. `bitLength` and `byteLength` measure a number, not a string.
-/

namespace SealedKeys

/-- A string of bytes, first byte first. -/
abbrev Bytes := List UInt8

/-- The number of binary digits of a natural number; zero has none. -/
def bitLength (value : Nat) : Nat :=
  if value = 0 then 0 else value.log2 + 1

/-- The number of bytes that hold a natural number without a leading zero byte. -/
def byteLength (value : Nat) : Nat :=
  (bitLength value + 7) / 8

namespace Bytes

/-- The natural number a byte string stands for, most significant byte first. -/
def toNat (bytes : Bytes) : Nat :=
  bytes.foldl (fun value byte => 256 * value + byte.toNat) 0

/-- The `length` low-order bytes of a number, most significant byte first. -/
def ofNat : (length value : Nat) → Bytes
  | 0, _ => []
  | length + 1, value => ofNat length (value / 256) ++ [UInt8.ofNat value]

/-- A number written with as few bytes as hold it. -/
def minimal (value : Nat) : Bytes :=
  ofNat (byteLength value) value

@[simp] theorem length_ofNat (length value : Nat) : (ofNat length value).length = length := by
  induction length generalizing value with
  | zero => rfl
  | succ length ih => simp [ofNat, ih]

theorem toNat_append_byte (bytes : Bytes) (byte : UInt8) :
    toNat (bytes ++ [byte]) = 256 * toNat bytes + byte.toNat := by
  simp [toNat, List.foldl_append]

/-- A byte string with zero bytes in front, up to a size. -/
def padLeft (size : Nat) (bytes : Bytes) : Bytes :=
  List.replicate (size - bytes.length) 0 ++ bytes

theorem length_padLeft {size : Nat} {bytes : Bytes} (fits : bytes.length ≤ size) :
    (padLeft size bytes).length = size := by
  rw [padLeft, List.length_append, List.length_replicate, Nat.sub_add_cancel fits]

/-- The first `count` pieces of `size` bytes each. -/
def blocks (size : Nat) : (count : Nat) → Bytes → List Bytes
  | 0, _ => []
  | count + 1, bytes => bytes.take size :: blocks size count (bytes.drop size)

/-- Position by position exclusive or, as long as both strings last. -/
def xor (left right : Bytes) : Bytes :=
  List.zipWith (· ^^^ ·) left right

@[simp] theorem length_xor (left right : Bytes) :
    (xor left right).length = min left.length right.length := by
  simp [xor]

/-- The bytes of a text in UTF-8. -/
def ofText (text : String) : Bytes :=
  text.toUTF8.toList

end Bytes

end SealedKeys
