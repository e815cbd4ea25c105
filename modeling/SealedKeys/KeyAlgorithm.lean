import SealedKeys.Hex

/-!
Families of keys and elliptic curves, with the numbers a secure module gives them.
-/

namespace SealedKeys

/-- The family an object in a secure module belongs to. -/
inductive KeyAlgorithm where
  | rsa
  | ecc
  | keyedHash
  | symCipher
  deriving DecidableEq, Repr

/-- An elliptic curve a secure module may name. -/
inductive Curve where
  | nistP256
  | nistP384
  | nistP521
  | bnP256
  deriving DecidableEq, Repr

/-- Why a number names no key family or no curve. -/
inductive AlgorithmError where
  /-- No key family has this number. -/
  | unknownId (id : Nat)
  /-- No curve has this number. -/
  | unknownCurve (id : Nat)
  deriving DecidableEq, Repr

namespace KeyAlgorithm

/-- The module's number for the family. -/
def id : KeyAlgorithm → Nat
  | .rsa => 0x0001
  | .keyedHash => 0x0008
  | .ecc => 0x0023
  | .symCipher => 0x0025

/-- The family with a given number. -/
def ofId? (id : Nat) : Except AlgorithmError KeyAlgorithm :=
  match id with
  | 0x0001 => .ok .rsa
  | 0x0008 => .ok .keyedHash
  | 0x0023 => .ok .ecc
  | 0x0025 => .ok .symCipher
  | _ => .error (.unknownId id)

/-- The name of the family. -/
def name : KeyAlgorithm → String
  | .rsa => "RSA"
  | .ecc => "ECC"
  | .keyedHash => "KEYEDHASH"
  | .symCipher => "SYMCIPHER"

/-- The identifier of the family, as it is shown to a developer. -/
def inspect : KeyAlgorithm → String
  | .rsa => "Rsa"
  | .ecc => "Ecc"
  | .keyedHash => "KeyedHash"
  | .symCipher => "SymCipher"

/-- A family is found under its own number. -/
theorem ofId?_id (algorithm : KeyAlgorithm) : ofId? algorithm.id = .ok algorithm := by
  cases algorithm <;> rfl

end KeyAlgorithm

namespace Curve

/-- The module's number for the curve. -/
def id : Curve → Nat
  | .nistP256 => 0x0003
  | .nistP384 => 0x0004
  | .nistP521 => 0x0005
  | .bnP256 => 0x0010

/-- The curve with a given number. -/
def ofId? (id : Nat) : Except AlgorithmError Curve :=
  match id with
  | 0x0003 => .ok .nistP256
  | 0x0004 => .ok .nistP384
  | 0x0005 => .ok .nistP521
  | 0x0010 => .ok .bnP256
  | _ => .error (.unknownCurve id)

/-- The number of bytes of one coordinate. -/
def coordinateSize : Curve → Nat
  | .nistP256 | .bnP256 => 32
  | .nistP384 => 48
  | .nistP521 => 66

/-- The name of the curve. -/
def name : Curve → String
  | .nistP256 => "NIST P-256"
  | .nistP384 => "NIST P-384"
  | .nistP521 => "NIST P-521"
  | .bnP256 => "BN P-256"

/-- The identifier of the curve, as it is shown to a developer. -/
def inspect : Curve → String
  | .nistP256 => "NistP256"
  | .nistP384 => "NistP384"
  | .nistP521 => "NistP521"
  | .bnP256 => "BnP256"

/-- A curve is found under its own number. -/
theorem ofId?_id (curve : Curve) : ofId? curve.id = .ok curve := by
  cases curve <;> rfl

end Curve

/-- The wording of an algorithm error: the number at four digits. -/
def AlgorithmError.message : AlgorithmError → String
  | .unknownId id => "Unknown object algorithm id: " ++ Hex.padded 4 id
  | .unknownCurve id => "Unknown curve id: " ++ Hex.padded 4 id

end SealedKeys
