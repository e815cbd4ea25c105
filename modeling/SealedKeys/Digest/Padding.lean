import SealedKeys.Bytes

/-!
How a message is made up to whole blocks before it is hashed.

A byte `80`, as few zero bytes as needed, and the length of the message in bits follow the
message. `length_pad` says that the blocks then come out even.
-/

namespace SealedKeys

namespace Digest

/-- The number of zero bytes between the end mark and the length field. -/
def zeroCount (blockSize fieldSize messageLength : Nat) : Nat :=
  (blockSize - (messageLength + 1 + fieldSize) % blockSize) % blockSize

/-- A message with its end mark, zero bytes and length field. -/
def pad (blockSize fieldSize : Nat) (message : Bytes) : Bytes :=
  message ++ 0x80 :: List.replicate (zeroCount blockSize fieldSize message.length) 0
    ++ Bytes.ofNat fieldSize (8 * message.length)

/-- The padded message consists of whole blocks. -/
theorem length_pad (blockSize fieldSize : Nat) (message : Bytes) (positive : 0 < blockSize) :
    (pad blockSize fieldSize message).length % blockSize = 0 := by
  have total : (pad blockSize fieldSize message).length =
      (message.length + 1 + fieldSize) + zeroCount blockSize fieldSize message.length := by
    simp [pad]
    omega
  have small := Nat.mod_lt (message.length + 1 + fieldSize) positive
  rw [total, zeroCount, Nat.add_mod_mod, ← Nat.mod_add_mod,
    Nat.add_sub_cancel' (Nat.le_of_lt small), Nat.mod_self]

/-- The blocks of a padded message. -/
def paddedBlocks (blockSize fieldSize : Nat) (message : Bytes) : List Bytes :=
  let padded := pad blockSize fieldSize message
  Bytes.blocks blockSize (padded.length / blockSize) padded

end Digest

end SealedKeys
