import SealedKeys.Bytes
import SealedKeys.Rsa.Arithmetic

/-!
RSA keys.

`Admissible` says which modulus goes with which exponent. A `PublicKey` is an admissible pair of
a bounded size. A `PrivateKey` has two factors or more and two exponents; its modulus is the product
of the factors, whose primality nobody checks. `PrivateKey.ofFactors?` makes one from two factors and
the public exponent. Both constructors report the first check that fails, in a fixed order.
-/

namespace SealedKeys

namespace Rsa

/-- Why numbers do not make an RSA key. -/
inductive KeyFault where
  /-- The factors are equal, or the exponent has no inverse for them. -/
  | invalidPrime
  /-- The modulus is even or not above the exponent. -/
  | invalidModulus
  /-- The exponent is even. -/
  | invalidExponent
  | exponentTooSmall
  | exponentTooLarge
  | modulusTooLarge
  deriving DecidableEq, Repr

/-- The wording of a key fault. -/
def KeyFault.message : KeyFault → String
  | .invalidPrime => "invalid prime value"
  | .invalidModulus => "invalid modulus"
  | .invalidExponent => "invalid exponent"
  | .exponentTooSmall => "public exponent too small"
  | .exponentTooLarge => "public exponent too large"
  | .modulusTooLarge => "modulus too large"

/-- The greatest public exponent. -/
def maxExponent : Nat := 0x1ffffffff

/-- The greatest number of bits in the modulus of a public key. -/
def maxModulusBits : Nat := 4096

/-- An odd modulus above an odd exponent, which is at least three and not too large. -/
structure Admissible (modulus exponent : Nat) : Prop where
  modulus_odd : modulus % 2 = 1
  exponent_odd : exponent % 2 = 1
  three_le_exponent : 3 ≤ exponent
  exponent_lt_modulus : exponent < modulus
  exponent_le : exponent ≤ maxExponent

/-- What is wrong with a modulus and an exponent: the first of the checks that fails. -/
def fault? (modulus exponent : Nat) : Option KeyFault :=
  if modulus ≤ exponent ∨ modulus % 2 = 0 then some .invalidModulus
  else if exponent % 2 = 0 then some .invalidExponent
  else if exponent < 2 then some .exponentTooSmall
  else if maxExponent < exponent then some .exponentTooLarge
  else none

/-- The checks find no fault exactly in admissible pairs. -/
theorem fault?_eq_none_iff (modulus exponent : Nat) :
    fault? modulus exponent = none ↔ Admissible modulus exponent := by
  constructor
  · intro clean
    unfold fault? at clean
    split at clean
    · cases clean
    split at clean
    · cases clean
    split at clean
    · cases clean
    split at clean
    · cases clean
    constructor <;> omega
  · rintro ⟨modulusOdd, exponentOdd, threeLe, lt, le⟩
    unfold fault?
    rw [if_neg (by omega), if_neg (by omega), if_neg (by omega), if_neg (by omega)]

/-- The public half of an RSA key. -/
structure PublicKey where
  modulus : Nat
  exponent : Nat
  admissible : Admissible modulus exponent
  bits_le : bitLength modulus ≤ maxModulusBits
  deriving DecidableEq

namespace PublicKey

/-- The public key with the given modulus and exponent, or the first check that fails. -/
def ofParts? (modulus exponent : Nat) : Except KeyFault PublicKey :=
  if bits_le : bitLength modulus ≤ maxModulusBits then
    match clean : fault? modulus exponent with
    | some fault => .error fault
    | none => .ok ⟨modulus, exponent, (fault?_eq_none_iff _ _).1 clean, bits_le⟩
  else .error .modulusTooLarge

/-- The number of bits of the modulus. -/
def bits (key : PublicKey) : Nat :=
  bitLength key.modulus

/-- The number of bytes of the modulus, which is that of a signature. -/
def size (key : PublicKey) : Nat :=
  byteLength key.modulus

end PublicKey

/-- The product of factors. -/
def product (factors : List Nat) : Nat :=
  factors.foldr (· * ·) 1

/-- An RSA key with its private half.

The private exponent undoes the public one for each factor less one. That the factors are prime, or
only different, is not part of the type. -/
structure PrivateKey where
  p : Nat
  q : Nat
  /-- The factors behind the first two, if there are more. -/
  others : List Nat
  exponent : Nat
  privateExponent : Nat
  admissible : Admissible (product (p :: q :: others)) exponent
  inverse : ∀ factor ∈ p :: q :: others,
    exponent * privateExponent % (factor - 1) = 1 % (factor - 1)
  deriving DecidableEq

namespace PrivateKey

/-- What is inverse for two numbers together is inverse for each of them. -/
theorem inverse_of_lcm {p q exponent privateExponent : Nat}
    (inverse : exponent * privateExponent % Nat.lcm (p - 1) (q - 1) = 1 % Nat.lcm (p - 1) (q - 1)) :
    ∀ factor ∈ [p, q], exponent * privateExponent % (factor - 1) = 1 % (factor - 1) := by
  intro factor member
  have divides : factor - 1 ∣ Nat.lcm (p - 1) (q - 1) := by
    simp only [List.mem_cons, List.not_mem_nil, or_false] at member
    rcases member with rfl | rfl
    · exact Nat.dvd_lcm_left _ _
    · exact Nat.dvd_lcm_right _ _
  rw [← Nat.mod_mod_of_dvd _ divides, inverse, Nat.mod_mod_of_dvd _ divides]

/-- The private key with the given two factors and public exponent, or the first check that
fails. -/
def ofFactors? (p q exponent : Nat) : Except KeyFault PrivateKey :=
  if p = q then .error .invalidPrime
  else
    match found : inverse? exponent (Nat.lcm (p - 1) (q - 1)) with
    | none => .error .invalidPrime
    | some privateExponent =>
      match clean : fault? (product [p, q]) exponent with
      | some fault => .error fault
      | none =>
        .ok ⟨p, q, [], exponent, privateExponent, (fault?_eq_none_iff _ _).1 clean,
          inverse_of_lcm (mul_inverse? found)⟩

/-- All factors. -/
def factors (key : PrivateKey) : List Nat :=
  key.p :: key.q :: key.others

/-- The product of the factors. -/
def modulus (key : PrivateKey) : Nat :=
  product key.factors

/-- The number of bits of the modulus. -/
def bits (key : PrivateKey) : Nat :=
  bitLength key.modulus

/-- The number of bytes of the modulus, which is that of a signature. -/
def size (key : PrivateKey) : Nat :=
  byteLength key.modulus

end PrivateKey

end Rsa

end SealedKeys
