import SealedKeys.Digest.HashFunction

/-!
Byte strings of any length made from a seed.

The seed is hashed together with a counter until there are enough bytes. This is the mask of the
PSS encoding, and a source of bytes that look random.
-/

namespace SealedKeys

namespace HashFunction

/-- The first `count` digests of a seed with a counter of four bytes. -/
def counterDigests (hash : HashFunction) (seed : Bytes) (count : Nat) : Bytes :=
  (List.range count).flatMap fun counter => hash.digest (seed ++ Bytes.ofNat 4 counter)

/-- A byte string of the given length made from a seed. -/
def stretch (hash : HashFunction) (seed : Bytes) (length : Nat) : Bytes :=
  (hash.counterDigests seed ((length + hash.size - 1) / hash.size)).take length

theorem length_counterDigests (hash : HashFunction) (seed : Bytes) (count : Nat) :
    (hash.counterDigests seed count).length = count * hash.size := by
  induction count with
  | zero => simp [counterDigests]
  | succ count ih =>
    rw [counterDigests, List.range_succ, List.flatMap_append, List.length_append,
      ← counterDigests, ih]
    simp [hash.length_digest, Nat.succ_mul]

/-- A stretched seed has the length that was asked for. -/
@[simp] theorem length_stretch (hash : HashFunction) (seed : Bytes) (length : Nat) :
    (hash.stretch seed length).length = length := by
  rw [stretch, List.length_take, length_counterDigests]
  have positive := hash.size_pos
  have enough : length ≤ (length + hash.size - 1) / hash.size * hash.size := by
    have whole := Nat.div_add_mod (length + hash.size - 1) hash.size
    have small := Nat.mod_lt (length + hash.size - 1) positive
    rw [Nat.mul_comm] at whole
    omega
  exact Nat.min_eq_left enough

end HashFunction

end SealedKeys
