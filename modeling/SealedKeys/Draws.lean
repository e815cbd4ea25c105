import SealedKeys.P256
import SealedKeys.Rsa.Generation

/-!
Random draws, as explicit values.

What a module draws while it answers a command is handed to it together with the command: the
salt of a signature, a fresh RSA key, a fresh point. The types hold what a proper source
promises: a salt has the wanted length, a key the wanted size and exponent. `Draws.ofSeed` is
such a source, made from a seed.
-/

namespace SealedKeys

/-- What a module may draw while it answers one command. -/
structure Draws where
  /-- A salt of the given length. -/
  salt : (length : Nat) → Vector UInt8 length
  /-- A fresh RSA key of the given size and exponent, unless the generator fails. -/
  rsaKey : (bits exponent : Nat) → Except Rsa.KeyFault (Rsa.KeyOfSize bits exponent)
  /-- The public point of a fresh key on P-256. -/
  point : P256.Point

namespace Draws

/-- A byte string that looks random, made from a seed. -/
def bytes (seed : Bytes) (length : Nat) : Vector UInt8 length :=
  ⟨(ModuleHash.sha256.function.stretch seed length).toArray, by simp⟩

/-- The first point found over one of the first `count` numbers drawn from a seed; the base
point if there is none. -/
def pointFrom (seed : Bytes) : (count : Nat) → P256.Point
  | 0 => P256.Point.base
  | count + 1 =>
    let x := Bytes.toNat (bytes (Bytes.ofNat 1 count ++ seed) 32).toList
    (P256.Point.ofX? (x % P256.fieldPrime)).getD (pointFrom seed count)

/-- The draws that a seed stands for. -/
def ofSeed (seed : Bytes) : Draws where
  salt := bytes (Bytes.ofText "salt" ++ seed)
  rsaKey := Rsa.generate (Bytes.ofText "key" ++ seed)
  point := pointFrom (Bytes.ofText "point" ++ seed) 100

end Draws

end SealedKeys
