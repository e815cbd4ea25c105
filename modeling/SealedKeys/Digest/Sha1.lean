import SealedKeys.Digest.Padding
import SealedKeys.Digest.Word

/-!
SHA-1.

The message is padded to blocks of sixty-four bytes. Each block is stretched to eighty words,
which are mixed into five words of state; the state after the last block is the digest, so it
has twenty bytes (`length_digest`).
-/

namespace SealedKeys

namespace Sha1

/-- The five words carried from block to block. -/
structure State where
  a : UInt32
  b : UInt32
  c : UInt32
  d : UInt32
  e : UInt32

/-- The state before the first block. -/
def initial : State :=
  ⟨0x67452301, 0xefcdab89, 0x98badcfe, 0x10325476, 0xc3d2e1f0⟩

/-- The eighty words a block is stretched to. -/
def schedule (block : Bytes) : Array UInt32 :=
  (List.range 64).foldl
    (fun words _ =>
      let size := words.size
      let word := words.getD (size - 3) 0 ^^^ words.getD (size - 8) 0
        ^^^ words.getD (size - 14) 0 ^^^ words.getD (size - 16) 0
      words.push (Word32.rotateLeft word 1))
    (Word32.ofBytes block).toArray

/-- The mixing function of a step. -/
def mix (step : Nat) (b c d : UInt32) : UInt32 :=
  if step < 20 then (b &&& c) ||| (~~~b &&& d)
  else if step < 40 then b ^^^ c ^^^ d
  else if step < 60 then (b &&& c) ||| (b &&& d) ||| (c &&& d)
  else b ^^^ c ^^^ d

/-- The constant added in a step. -/
def constant (step : Nat) : UInt32 :=
  if step < 20 then 0x5a827999
  else if step < 40 then 0x6ed9eba1
  else if step < 60 then 0x8f1bbcdc
  else 0xca62c1d6

/-- One step, with its number and its word of the schedule. -/
def round (state : State) (word : UInt32) (step : Nat) : State :=
  let next := Word32.rotateLeft state.a 5 + mix step state.b state.c state.d + state.e
    + constant step + word
  ⟨next, state.a, Word32.rotateLeft state.b 30, state.c, state.d⟩

/-- Mixes one block into the state. -/
def compress (state : State) (block : Bytes) : State :=
  let mixed := (schedule block).toList.zipIdx.foldl
    (fun state (word, step) => round state word step) state
  ⟨state.a + mixed.a, state.b + mixed.b, state.c + mixed.c, state.d + mixed.d,
    state.e + mixed.e⟩

/-- The state as bytes. -/
def State.bytes (state : State) : Bytes :=
  [state.a, state.b, state.c, state.d, state.e].flatMap Word32.bytes

/-- The SHA-1 digest of a message. -/
def digest (message : Bytes) : Bytes :=
  ((Digest.paddedBlocks 64 8 message).foldl compress initial).bytes

theorem length_digest (message : Bytes) : (digest message).length = 20 := rfl

end Sha1

end SealedKeys
