import SealedKeys.Digest.Padding
import SealedKeys.Digest.Word

/-!
SHA-512 and SHA-384.

The message is padded to blocks of one hundred and twenty-eight bytes. Each block is stretched
to eighty words, which are mixed into eight words of state. SHA-512 gives all of the state after
the last block, SHA-384 starts from another state and gives the first six words
(`length_digest512`, `length_digest384`).
-/

namespace SealedKeys

namespace Sha512

/-- The eight words carried from block to block. -/
structure State where
  a : UInt64
  b : UInt64
  c : UInt64
  d : UInt64
  e : UInt64
  f : UInt64
  g : UInt64
  h : UInt64

/-- The constants of the steps: the first bits of the fractional parts of the cube roots of the
first primes. -/
def roundConstants : List UInt64 :=
  [0x428a2f98d728ae22, 0x7137449123ef65cd, 0xb5c0fbcfec4d3b2f, 0xe9b5dba58189dbbc,
    0x3956c25bf348b538, 0x59f111f1b605d019, 0x923f82a4af194f9b, 0xab1c5ed5da6d8118,
    0xd807aa98a3030242, 0x12835b0145706fbe, 0x243185be4ee4b28c, 0x550c7dc3d5ffb4e2,
    0x72be5d74f27b896f, 0x80deb1fe3b1696b1, 0x9bdc06a725c71235, 0xc19bf174cf692694,
    0xe49b69c19ef14ad2, 0xefbe4786384f25e3, 0x0fc19dc68b8cd5b5, 0x240ca1cc77ac9c65,
    0x2de92c6f592b0275, 0x4a7484aa6ea6e483, 0x5cb0a9dcbd41fbd4, 0x76f988da831153b5,
    0x983e5152ee66dfab, 0xa831c66d2db43210, 0xb00327c898fb213f, 0xbf597fc7beef0ee4,
    0xc6e00bf33da88fc2, 0xd5a79147930aa725, 0x06ca6351e003826f, 0x142929670a0e6e70,
    0x27b70a8546d22ffc, 0x2e1b21385c26c926, 0x4d2c6dfc5ac42aed, 0x53380d139d95b3df,
    0x650a73548baf63de, 0x766a0abb3c77b2a8, 0x81c2c92e47edaee6, 0x92722c851482353b,
    0xa2bfe8a14cf10364, 0xa81a664bbc423001, 0xc24b8b70d0f89791, 0xc76c51a30654be30,
    0xd192e819d6ef5218, 0xd69906245565a910, 0xf40e35855771202a, 0x106aa07032bbd1b8,
    0x19a4c116b8d2d0c8, 0x1e376c085141ab53, 0x2748774cdf8eeb99, 0x34b0bcb5e19b48a8,
    0x391c0cb3c5c95a63, 0x4ed8aa4ae3418acb, 0x5b9cca4f7763e373, 0x682e6ff3d6b2b8a3,
    0x748f82ee5defb2fc, 0x78a5636f43172f60, 0x84c87814a1f0ab72, 0x8cc702081a6439ec,
    0x90befffa23631e28, 0xa4506cebde82bde9, 0xbef9a3f7b2c67915, 0xc67178f2e372532b,
    0xca273eceea26619c, 0xd186b8c721c0c207, 0xeada7dd6cde0eb1e, 0xf57d4f7fee6ed178,
    0x06f067aa72176fba, 0x0a637dc5a2c898a6, 0x113f9804bef90dae, 0x1b710b35131c471b,
    0x28db77f523047d84, 0x32caab7b40c72493, 0x3c9ebe0a15c9bebc, 0x431d67c49c100d4c,
    0x4cc5d4becb3e42b6, 0x597f299cfc657e2a, 0x5fcb6fab3ad6faec, 0x6c44198c4a475817]

/-- The small mixing function on the older words of the schedule. -/
def smallSigma0 (word : UInt64) : UInt64 :=
  Word64.rotateRight word 1 ^^^ Word64.rotateRight word 8 ^^^ (word >>> 7)

/-- The small mixing function on the newer words of the schedule. -/
def smallSigma1 (word : UInt64) : UInt64 :=
  Word64.rotateRight word 19 ^^^ Word64.rotateRight word 61 ^^^ (word >>> 6)

/-- The large mixing function on the first word of the state. -/
def bigSigma0 (word : UInt64) : UInt64 :=
  Word64.rotateRight word 28 ^^^ Word64.rotateRight word 34 ^^^ Word64.rotateRight word 39

/-- The large mixing function on the fifth word of the state. -/
def bigSigma1 (word : UInt64) : UInt64 :=
  Word64.rotateRight word 14 ^^^ Word64.rotateRight word 18 ^^^ Word64.rotateRight word 41

/-- The words a block is stretched to, one for each step. -/
def schedule (block : Bytes) : Array UInt64 :=
  (List.range 64).foldl
    (fun words _ =>
      let size := words.size
      words.push (smallSigma1 (words.getD (size - 2) 0) + words.getD (size - 7) 0
        + smallSigma0 (words.getD (size - 15) 0) + words.getD (size - 16) 0))
    (Word64.ofBytes block).toArray

/-- One step, with its constant and its word of the schedule. -/
def round (state : State) (constant word : UInt64) : State :=
  let choice := (state.e &&& state.f) ^^^ (~~~state.e &&& state.g)
  let majority := (state.a &&& state.b) ^^^ (state.a &&& state.c) ^^^ (state.b &&& state.c)
  let first := state.h + bigSigma1 state.e + choice + constant + word
  let second := bigSigma0 state.a + majority
  ⟨first + second, state.a, state.b, state.c, state.d + first, state.e, state.f, state.g⟩

/-- Mixes one block into the state. -/
def compress (state : State) (block : Bytes) : State :=
  let mixed := (roundConstants.zip (schedule block).toList).foldl
    (fun state (constant, word) => round state constant word) state
  ⟨state.a + mixed.a, state.b + mixed.b, state.c + mixed.c, state.d + mixed.d,
    state.e + mixed.e, state.f + mixed.f, state.g + mixed.g, state.h + mixed.h⟩

/-- The state after all blocks of a message. -/
def run (start : State) (message : Bytes) : State :=
  (Digest.paddedBlocks 128 16 message).foldl compress start

/-- The state as bytes. -/
def State.bytes (state : State) : Bytes :=
  [state.a, state.b, state.c, state.d, state.e, state.f, state.g, state.h].flatMap
    Word64.bytes

/-- Where SHA-512 starts: the first bits of the fractional parts of the square roots of the first
eight primes. -/
def initial512 : State :=
  ⟨0x6a09e667f3bcc908, 0xbb67ae8584caa73b, 0x3c6ef372fe94f82b, 0xa54ff53a5f1d36f1,
    0x510e527fade682d1, 0x9b05688c2b3e6c1f, 0x1f83d9abfb41bd6b, 0x5be0cd19137e2179⟩

/-- Where SHA-384 starts: the same for the ninth to the sixteenth prime. -/
def initial384 : State :=
  ⟨0xcbbb9d5dc1059ed8, 0x629a292a367cd507, 0x9159015a3070dd17, 0x152fecd8f70e5939,
    0x67332667ffc00b31, 0x8eb44a8768581511, 0xdb0c2e0d64f98fa7, 0x47b5481dbefa4fa4⟩

/-- The SHA-512 digest of a message. -/
def digest512 (message : Bytes) : Bytes :=
  (run initial512 message).bytes

/-- The SHA-384 digest of a message. -/
def digest384 (message : Bytes) : Bytes :=
  (run initial384 message).bytes.take 48

theorem length_digest512 (message : Bytes) : (digest512 message).length = 64 := rfl

theorem length_digest384 (message : Bytes) : (digest384 message).length = 48 := rfl

end Sha512

end SealedKeys
