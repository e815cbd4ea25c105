import SealedKeys.Digest.Padding
import SealedKeys.Digest.Word

/-!
SHA-256.

The message is padded to blocks of sixty-four bytes. Each block is stretched to sixty-four
words, which are mixed into eight words of state; the state after the last block is the digest,
so it has thirty-two bytes (`length_digest`).
-/

namespace SealedKeys

namespace Sha256

/-- The eight words carried from block to block. -/
structure State where
  a : UInt32
  b : UInt32
  c : UInt32
  d : UInt32
  e : UInt32
  f : UInt32
  g : UInt32
  h : UInt32

/-- The constants of the steps: the first bits of the fractional parts of the cube roots of the
first primes. -/
def roundConstants : List UInt32 :=
  [0x428a2f98, 0x71374491, 0xb5c0fbcf, 0xe9b5dba5, 0x3956c25b, 0x59f111f1,
    0x923f82a4, 0xab1c5ed5, 0xd807aa98, 0x12835b01, 0x243185be, 0x550c7dc3,
    0x72be5d74, 0x80deb1fe, 0x9bdc06a7, 0xc19bf174, 0xe49b69c1, 0xefbe4786,
    0x0fc19dc6, 0x240ca1cc, 0x2de92c6f, 0x4a7484aa, 0x5cb0a9dc, 0x76f988da,
    0x983e5152, 0xa831c66d, 0xb00327c8, 0xbf597fc7, 0xc6e00bf3, 0xd5a79147,
    0x06ca6351, 0x14292967, 0x27b70a85, 0x2e1b2138, 0x4d2c6dfc, 0x53380d13,
    0x650a7354, 0x766a0abb, 0x81c2c92e, 0x92722c85, 0xa2bfe8a1, 0xa81a664b,
    0xc24b8b70, 0xc76c51a3, 0xd192e819, 0xd6990624, 0xf40e3585, 0x106aa070,
    0x19a4c116, 0x1e376c08, 0x2748774c, 0x34b0bcb5, 0x391c0cb3, 0x4ed8aa4a,
    0x5b9cca4f, 0x682e6ff3, 0x748f82ee, 0x78a5636f, 0x84c87814, 0x8cc70208,
    0x90befffa, 0xa4506ceb, 0xbef9a3f7, 0xc67178f2]

/-- The small mixing function on the older words of the schedule. -/
def smallSigma0 (word : UInt32) : UInt32 :=
  Word32.rotateRight word 7 ^^^ Word32.rotateRight word 18 ^^^ (word >>> 3)

/-- The small mixing function on the newer words of the schedule. -/
def smallSigma1 (word : UInt32) : UInt32 :=
  Word32.rotateRight word 17 ^^^ Word32.rotateRight word 19 ^^^ (word >>> 10)

/-- The large mixing function on the first word of the state. -/
def bigSigma0 (word : UInt32) : UInt32 :=
  Word32.rotateRight word 2 ^^^ Word32.rotateRight word 13 ^^^ Word32.rotateRight word 22

/-- The large mixing function on the fifth word of the state. -/
def bigSigma1 (word : UInt32) : UInt32 :=
  Word32.rotateRight word 6 ^^^ Word32.rotateRight word 11 ^^^ Word32.rotateRight word 25

/-- The words a block is stretched to, one for each step. -/
def schedule (block : Bytes) : Array UInt32 :=
  (List.range 48).foldl
    (fun words _ =>
      let size := words.size
      words.push (smallSigma1 (words.getD (size - 2) 0) + words.getD (size - 7) 0
        + smallSigma0 (words.getD (size - 15) 0) + words.getD (size - 16) 0))
    (Word32.ofBytes block).toArray

/-- One step, with its constant and its word of the schedule. -/
def round (state : State) (constant word : UInt32) : State :=
  let choice := (state.e &&& state.f) ^^^ (~~~state.e &&& state.g)
  let majority := (state.a &&& state.b) ^^^ (state.a &&& state.c) ^^^ (state.b &&& state.c)
  let first := state.h + bigSigma1 state.e + choice + constant + word
  let second := bigSigma0 state.a + majority
  ⟨first + second, state.a, state.b, state.c, state.d + first, state.e, state.f, state.g⟩

/-- Mixes one block into the state. -/
def compress (state : State) (block : Bytes) : State :=
  let mixed := (roundConstants.zip (schedule block).toList).foldl
    (fun state (constant, word) => round state constant word) state
  ⟨state.a + mixed.a, state.b + mixed.b, state.c + mixed.c, state.d + mixed.d,
    state.e + mixed.e, state.f + mixed.f, state.g + mixed.g, state.h + mixed.h⟩

/-- The state after all blocks of a message. -/
def run (start : State) (message : Bytes) : State :=
  (Digest.paddedBlocks 64 8 message).foldl compress start

/-- The state as bytes. -/
def State.bytes (state : State) : Bytes :=
  [state.a, state.b, state.c, state.d, state.e, state.f, state.g, state.h].flatMap
    Word32.bytes

/-- The state before the first block: the first bits of the fractional parts of the square roots
of the first eight primes. -/
def initial : State :=
  ⟨0x6a09e667, 0xbb67ae85, 0x3c6ef372, 0xa54ff53a,
    0x510e527f, 0x9b05688c, 0x1f83d9ab, 0x5be0cd19⟩

/-- The SHA-256 digest of a message. -/
def digest (message : Bytes) : Bytes :=
  (run initial message).bytes

theorem length_digest (message : Bytes) : (digest message).length = 32 := rfl

end Sha256

end SealedKeys
