import SealedKeys.Bytes
import SealedKeys.Rsa.Arithmetic

/-!
Points of the curve NIST P-256.

A point is a pair of numbers below the field prime that satisfies the equation of the curve, so
the type holds nothing else. `Point.ofUncompressed?` reads one from bytes, and `Point.ofX?` finds one
over a given first coordinate.
-/

namespace SealedKeys

namespace P256

/-- The prime of the field. -/
def fieldPrime : Nat :=
  0xffffffff00000001000000000000000000000000ffffffffffffffffffffffff

/-- The constant of the curve equation. -/
def constant : Nat :=
  0x5ac635d8aa3a93e7b3ebbd55769886bc651d06b0cc53b0f63bce3c3e27d2604b

/-- The right side of the curve equation: `x³ - 3x` and the constant, in the field. -/
def rightSide (x : Nat) : Nat :=
  (x * x * x + (fieldPrime - 3) * x + constant) % fieldPrime

/-- Two coordinates below the field prime that satisfy the curve equation. -/
structure OnCurve (x y : Nat) : Prop where
  x_lt : x < fieldPrime
  y_lt : y < fieldPrime
  equation : y * y % fieldPrime = rightSide x

instance (x y : Nat) : Decidable (OnCurve x y) :=
  decidable_of_iff (x < fieldPrime ∧ y < fieldPrime ∧ y * y % fieldPrime = rightSide x)
    ⟨fun ⟨first, second, third⟩ => ⟨first, second, third⟩,
      fun ⟨first, second, third⟩ => ⟨first, second, third⟩⟩

/-- A point of the curve other than the one at infinity. -/
structure Point where
  x : Nat
  y : Nat
  onCurve : OnCurve x y
  deriving DecidableEq

namespace Point

/-- The point with the given coordinates, if it is on the curve. -/
def ofCoordinates? (x y : Nat) : Option Point :=
  if onCurve : OnCurve x y then some ⟨x, y, onCurve⟩ else none

/-- The point in uncompressed form: a byte `04`, then both coordinates, at 32 bytes each. -/
def ofUncompressed? (encoded : Bytes) : Option Point :=
  match encoded with
  | 0x04 :: coordinates =>
    if coordinates.length = 64 then
      ofCoordinates? (Bytes.toNat (coordinates.take 32)) (Bytes.toNat (coordinates.drop 32))
    else none
  | _ => none

/-- The base point of the curve. -/
def base : Point where
  x := 0x6b17d1f2e12c4247f8bce6e563a440f277037d812deb33a0f4a13945d898c296
  y := 0x4fe342e2fe1a7f9b8ee7eb4a7c0f9e162bce33576b315ececbb6406837bf51f5
  onCurve := by decide +kernel

/-- A point over a given first coordinate, if there is one. Since the field prime is three
modulo four, a fixed power gives a square root wherever there is one. -/
def ofX? (x : Nat) : Option Point :=
  ofCoordinates? x (Rsa.powMod (rightSide x) ((fieldPrime + 1) / 4) fieldPrime)

end Point

end P256

end SealedKeys
